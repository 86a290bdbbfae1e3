import InetHost.Proofs.Queue.QueueFree
import InetHost.Proofs.Queue.Polls
import InetHost.Proofs.Queue.Staging
import Mathlib.Data.Finset.Filter
import Mathlib.Data.Finset.Range

/-!
# Backlogs

Deferred frames and the tasks of devices wait on a queue. Both put more work there when they run: a frame
may be answered with frames, and the task of a device waits again as long as frames do.

* `Backlog h q`: there is no other work on the queue;
* `KeepsBacklog`, **`keepsBacklog_gestures`**: what the reception of a frame leaves of a backlog;
* `KeepsOwners`, `keepsOwners_gestures`: the owner of an address is not found to be gone meanwhile;
* `taskRuns`: how often the task of a device ran;
* **`Stored.launch_cases`**: the task of a device hands one frame over, `HandsOn`, unless it runs for nothing,
  `Spent`.
-/

namespace InetHost

/-- The job is the reception of a frame. -/
def Job.isFrame : Job → Bool
  | .frame _ _ => true
  | _ => false

@[simp] theorem Job.isFrame_frame (d : DeviceId) (b : Bytes) : (Job.frame d b).isFrame = true := rfl

@[simp] theorem Job.isFrame_task (t : TaskId) : (Job.task t).isFrame = false := rfl

/-- The task hands frames to the hardware of a device. -/
def TaskBody.isTransmit : TaskBody → Bool
  | .transmit _ => true
  | .script _ _ => false

theorem TaskBody.isTransmit_iff {b : TaskBody} : b.isTransmit = true ↔ ∃ d, b = .transmit d := by
  cases b <;> simp [isTransmit]

namespace Host

variable {h h₁ h' : Host} {q : QueueId} {d e : DeviceId} {t : TaskId} {f : Bytes} {s : Staging}
  {rest : List Job}

/-! ## What waits -/

/-- The job is the reception of a frame, or a run of a device's task. -/
def isTraffic (h : Host) : Job → Bool
  | .frame _ _ => true
  | .once _ _ => false
  | .task t => (h.task t).body.isTransmit

/-- **Only deferred frames and the tasks of devices wait on a queue.** -/
def Backlog (h : Host) (q : QueueId) : Prop := ∀ j ∈ h.queue q, h.isTraffic j = true

/-- The number of deferred frames on a queue. -/
def deferredOn (h : Host) (q : QueueId) : Nat := (h.queue q).countP Job.isFrame

/-- The number of frames that wait for a device's hardware. -/
def stagedBy (h : Host) (d : DeviceId) : Nat :=
  match (h.device d).staging with
  | some s => s.frames.length
  | none => 0

/-- The devices whose frames wait for a queue to be polled. -/
def postedOn (h : Host) (q : QueueId) : Finset DeviceId :=
  (Finset.range h.devices.length).filter fun d => (h.device d).staging.any (·.queue == q) = true

theorem mem_postedOn : d ∈ h.postedOn q ↔ ∃ s, (h.device d).staging = some s ∧ s.queue = q := by
  unfold postedOn
  rw [Finset.mem_filter, Finset.mem_range, Option.any_eq_true]
  constructor
  · rintro ⟨-, s, hs, hq⟩
    exact ⟨s, hs, beq_iff_eq.mp hq⟩
  · rintro ⟨s, hs, hq⟩
    refine ⟨Nat.lt_of_not_le fun hl => ?_, s, hs, beq_iff_eq.mpr hq⟩
    rw [device, List.getD_eq_default _ _ hl] at hs
    cases hs

theorem isTraffic_of_body {j : Job} (hb : ∀ t, j = .task t → (h'.task t).body = (h.task t).body) :
    h'.isTraffic j = h.isTraffic j := by
  cases j with
  | frame | once => rfl
  | task t => exact congrArg TaskBody.isTransmit (hb t rfl)

/-! ## What gestures leave -/

instance : Std.Refl SameTasks := ⟨fun _ => ⟨rfl, rfl, fun _ => rfl, fun _ => rfl⟩⟩

instance : IsTrans Host SameTasks where
  trans _ _ _ k₁ k₂ :=
    ⟨k₂.names.trans k₁.names, k₂.length.trans k₁.length, fun t => (k₂.body t).trans (k₁.body t),
      fun d => (k₂.post d).trans (k₁.post d)⟩

theorem sameTasks_handlings (hh : Handlings h h') : SameTasks h h' := by
  refine of_handlings (fun {h₁ _} hh => ?_) hh
  cases hh with
  | record | put => exact ⟨rfl, rfl, fun _ => rfl, fun _ => rfl⟩
  | flag t b => exact sameTasks_modifyTask b
  | staged d g => exact (keepsJobs_modifyStaged d g).toSameTasks
  | hardware d =>
    have hs : Does KeepsQueues h₁ (useHardware d) := keepsQueues_device fun _ => ⟨rfl, rfl, rfl, id⟩
    exact hs.keepsJobs.toSameTasks

/-- **What gestures leave of a backlog.** -/
structure KeepsBacklog (q : QueueId) (h h' : Host) : Prop where
  deferred : h'.deferredOn q = h.deferredOn q
  backlog : Backlog h q → Backlog h' q
  post : ∀ d, (h'.device d).staging.map Staging.post = (h.device d).staging.map Staging.post
  handed : ∀ {d}, (h.device d).staging.isSome = true → handed d h'.journal = handed d h.journal
  suffix : h.journal <:+ h'.journal

theorem KeepsBacklog.refl (q : QueueId) (h : Host) : KeepsBacklog q h h :=
  ⟨rfl, id, fun _ => rfl, fun _ => rfl, List.suffix_rfl⟩

theorem KeepsBacklog.trans (k : KeepsBacklog q h h₁) (k' : KeepsBacklog q h₁ h') : KeepsBacklog q h h' where
  deferred := k'.deferred.trans k.deferred
  backlog := k'.backlog ∘ k.backlog
  post d := (k'.post d).trans (k.post d)
  handed {d} hs := by
    have hs' : (h₁.device d).staging.isSome = true := by
      rw [← Option.isSome_map (f := Staging.post), k.post, Option.isSome_map]
      exact hs
    exact (k'.handed hs').trans (k.handed hs)
  suffix := k.suffix.trans k'.suffix

/-- No frame of a device with staging is handed over when a device is offered one. -/
theorem handed_offer (hs : (h.device e).staging.isSome = true) (d : DeviceId) (f : Bytes) :
    handed e ((offer d f).run h).2.journal = handed e h.journal := by
  cases hd : (h.device d).staging with
  | none =>
    have hn : d ≠ e := by
      rintro rfl
      rw [hd] at hs
      cases hs
    rw [run_offer_direct hd]
    cases (h.device d).failure <;> simp [transmission, Event.handedTo, hn]
  | some s =>
    have hj : ((stage d f).run h).2.journal = .offered d f none :: h.journal := rfl
    rw [run_offer hd, (keepsFrames_enqueue _ _).handed_eq, hj]
    simp [Event.handedTo]

theorem Stored.keepsBacklog (v : Stored h) (hm : Gesture h h') : KeepsBacklog q h h' := by
  have hx : h.journal <:+ h'.journal := by
    obtain ⟨new, hj, -⟩ := hm.move.startsNoJob
    exact ⟨new, hj.symm⟩
  cases hm with
  | keepsQueues i _ =>
    have hq : h'.queue q = h.queue q := congrArg (·.getD q []) i.queues
    refine ⟨congrArg _ hq, fun hb j hj => ?_, fun d => by rw [i.staging], fun {d} _ => ?_, hx⟩
    · rw [isTraffic_of_body fun t _ => i.body t]
      exact hb j (hq ▸ hj)
    · exact i.keepsFrames.handed_eq d
  | offer d f =>
    have k : SameTasks h ((offer d f).run h).2 := sameTasks_handlings (handlings_offer d f)
    have ht (j : Job) : ((offer d f).run h).2.isTraffic j = h.isTraffic j :=
      isTraffic_of_body fun t _ => k.body t
    refine ⟨?_, fun hb j hj => ?_, k.post, fun hs => handed_offer hs d f, hx⟩
    · unfold deferredOn
      rcases queue_offer (h := h) d f q with he | ⟨s, -, -, he⟩
      · rw [he]
      · rw [he]
        simp
    · rw [ht]
      rcases queue_offer (h := h) d f q with he | ⟨s, hs, -, he⟩
      · exact hb j (he ▸ hj)
      · rw [he] at hj
        rcases List.mem_append.mp hj with hj | hj
        · exact hb j hj
        · obtain rfl := List.mem_singleton.mp hj
          exact TaskBody.isTransmit_iff.mpr ⟨d, (v.staged hs).2⟩
  | define id runs =>
    refine ⟨rfl, fun hb j hj => ?_, fun _ => rfl, fun _ => rfl, hx⟩
    have hj : j ∈ h.queue q := hj
    refine Eq.trans (isTraffic_of_body fun t ht => ?_) (hb j hj)
    rw [task_defineTask, if_pos (v.there_of_mem (ht ▸ hj))]

/-- **Gestures leave a backlog**, with the same frames. -/
theorem keepsBacklog_gestures (v : Stored h) (hm : Gestures h h') : Stored h' ∧ KeepsBacklog q h h' := by
  induction hm with
  | refl => exact ⟨v, .refl q h⟩
  | tail _ hm ih =>
    obtain ⟨v', k⟩ := ih
    exact ⟨v'.shift (.move hm.move), k.trans (v'.keepsBacklog hm)⟩

/-! ## Owners of addresses -/

/-- **Owners of addresses stay owners, and are not found to be gone.** -/
structure KeepsOwners (h h' : Host) : Prop where
  owners : h.owners ⊆ h'.owners
  deserted : ∀ {o}, o ∈ h.owners → .deserted o.2 ∈ h'.journal → .deserted o.2 ∈ h.journal

instance : IsTrans Host KeepsOwners where
  trans _ _ _ k₁ k₂ :=
    ⟨List.Subset.trans k₁.owners k₂.owners,
      fun ho hd => k₁.deserted ho (k₂.deserted (k₁.owners ho) hd)⟩

theorem alive_of_owner {o : Ip × DeviceId} (ho : o ∈ h.owners) : h.alive o.2 = true := by
  have hany : h.owners.any (·.2 == o.2) = true := List.any_eq_true.mpr ⟨o, ho, beq_self_eq_true _⟩
  unfold alive
  simp [hany]

theorem GoneOnlyIfUnheld.keepsOwners (v : GoneOnlyIfUnheld h h') (ho : h.owners ⊆ h'.owners) :
    KeepsOwners h h' := by
  refine ⟨ho, fun {o} hm hd => (v.deserted o.2 hd).resolve_right fun ha => ?_⟩
  rw [alive_of_owner hm] at ha
  cases ha

theorem keepsOwners_taken (h : Host) (q : QueueId) (j : Job) (jobs : List Job) :
    KeepsOwners h (h.taken q j jobs) :=
  (findsNoneGone_taken h q j jobs).goneOnlyIfUnheld.keepsOwners (List.Subset.refl _)

theorem findsNoneGone_gestures (hm : Gestures h h') : FindsNoneGone h h' := by
  induction hm with
  | refl => exact Std.Refl.refl h
  | tail _ hm ih => exact IsTrans.trans _ _ _ ih hm.move.findsNoneGone

theorem keepsOwners_gestures (hm : Gestures h h') : KeepsOwners h h' :=
  (findsNoneGone_gestures hm).goneOnlyIfUnheld.keepsOwners (staysQueueFree_gestures hm).owners

/-! ## What the task of a device does -/

/-- What holds of small steps, and of a device that is found to be gone, holds of the start of a job. -/
theorem does_launch {R : Host → Host → Prop} [Std.Refl R] [IsTrans Host R]
    (hR : ∀ {h h'}, Handling h h' → R h h') (hg : ∀ d h, Does R h (record (.deserted d))) (j : Job) :
    Does R h (launch j) := by
  cases j with
  | frame | once => exact Does.pure ()
  | task t =>
    have hf : R h ((dequeued t).run h).2 := hR (.flag t false)
    unfold Does
    rw [run_launch]
    refine IsTrans.trans _ _ _ hf ?_
    generalize ((dequeued t).run h).2 = h₁
    split
    · split_ifs
      · exact of_handlings hR (handlings_transmitNext _)
      · exact hg _ h₁
    · exact Std.Refl.refl h₁

theorem sameTasks_launch (j : Job) : Does SameTasks h (launch j) :=
  does_launch (fun hh => sameTasks_handlings (.single hh))
    (fun _ _ => ⟨rfl, rfl, fun _ => rfl, fun _ => rfl⟩) j

theorem staysQueueFree_launch (j : Job) : Does StaysQueueFree h (launch j) :=
  does_launch (fun hh => staysQueueFree_handlings (.single hh))
    (fun _ _ => staysQueueFree_of_eq rfl rfl rfl rfl) j

theorem keepsOwners_launch (j : Job) : Does KeepsOwners h (launch j) :=
  (goneOnlyIfUnheld_launch (h := h) j).keepsOwners (staysQueueFree_launch (h := h) j).owners

theorem suffix_launch (j : Job) : h.journal <:+ ((launch j).run h).2.journal := by
  have hu : Does StartsNoJob h (launch j) :=
    does_launch Handling.startsNoJob (fun _ _ => startsNoJob_record rfl) j
  obtain ⟨new, hj, -⟩ := hu
  exact ⟨new, hj.symm⟩

theorem run_runTask (inner : Exec) (hb : (h.task t).body = .transmit d) :
    (runJob inner (.task t)).run h = (some (), ((launch (.task t)).run h).2) := by
  have hb' : (((dequeued t).run h).2.task t).body = .transmit d :=
    ((sameTasks_modifyTask (h := h) false).body t).trans hb
  change (runTask inner t).run h = _
  rw [run_launch, hb']
  unfold runTask
  rw [run_act, run_get]
  dsimp only
  generalize ((dequeued t).run h).2 = h₁ at hb' ⊢
  rw [hb']
  dsimp only
  rw [run_get]
  split_ifs <;> rfl

/-- How often the task of a device ran: it handed a frame over, or found the device gone. -/
def taskRuns (d : DeviceId) (j : List Event) : Nat := (handed d j).length + vainRuns d j

theorem taskRuns_cons (d : DeviceId) (x : Event) (l : List Event) :
    taskRuns d (x :: l) = taskRuns d l + ((x.handedTo d).toList.length + (x.leftBy d).toNat) := by
  unfold taskRuns
  rw [handed_cons, vainRuns_cons, List.length_append]
  omega

/-- The task of a device has run for nothing, as the device was found to be gone. -/
structure Spent (q : QueueId) (d : DeviceId) (rest : List Job) (h h' : Host) : Prop where
  queue : h'.queue q = rest
  staged : ∀ e, h'.stagedBy e = h.stagedBy e
  ran : taskRuns d h'.journal = taskRuns d h.journal + 1
  kept : ∀ {e}, e ≠ d → taskRuns e h'.journal = taskRuns e h.journal

/-- The task of a device has handed one frame over, and may wait again. -/
structure HandsOn (q : QueueId) (d : DeviceId) (t : TaskId) (rest : List Job) (h h' : Host) : Prop where
  queue : h'.queue q = rest ∨ h'.queue q = rest ++ [.task t]
  staged : h.stagedBy d = h'.stagedBy d + 1
  others : ∀ {e}, e ≠ d → h'.stagedBy e = h.stagedBy e
  ran : taskRuns d h'.journal = taskRuns d h.journal + 1
  kept : ∀ {e}, e ≠ d → taskRuns e h'.journal = taskRuns e h.journal

theorem stagedBy_eq (hs : (h.device d).staging = some s) : h.stagedBy d = s.frames.length := by
  unfold stagedBy
  rw [hs]

theorem stagedBy_congr (hs : (h'.device d).staging = (h.device d).staging) :
    h'.stagedBy d = h.stagedBy d := by
  unfold stagedBy
  rw [hs]

theorem handed_handOver (d : DeviceId) (f : Bytes) (frames : List Bytes) :
    ∃ r, ∀ e, handed e ((handOver d f frames).run h).2.journal =
      handed e h.journal ++ if d = e then [(f, r)] else [] := by
  obtain ⟨r, hr⟩ := run_handOver h d f frames
  refine ⟨r, fun e => ?_⟩
  rw [hr]
  by_cases hd : d = e <;> cases r <;> simp [handing, transmission, Event.handedTo, hd]

theorem handsOn_transmitNext (q : QueueId) (hs : (h.device d).staging = some s) {frames : List Bytes}
    (hf : s.frames = f :: frames) :
    HandsOn q d s.task (h.queue q) h ((transmitNext d).run h).2 := by
  have hq : ((handOver d f frames).run h).2.queue q = h.queue q :=
    congrArg (·.getD q []) (keepsJobs_handOver d f frames).queues
  have hst := staging_handOver (h := h) d f frames
  obtain ⟨r, hr⟩ := handed_handOver (h := h) d f frames
  have hv := (findsNoneGone_handlings (handlings_transmitNext (h := h) d)).vain
  rw [run_transmitNext hs hf] at hv ⊢
  generalize ((handOver d f frames).run h).2 = h₁ at hq hst hr hv ⊢
  -- its task may be put on the queue, and no frame is touched by that
  obtain ⟨h', he, hw, hu⟩ : ∃ h', ((if frames = [] then pure () else
      enqueue s.queue s.task : Act Unit).run h₁).2 = h' ∧
        (h'.queue q = h₁.queue q ∨ h'.queue q = h₁.queue q ++ [.task s.task]) ∧ KeepsFrames h₁ h' := by
    split_ifs
    · exact ⟨_, rfl, .inl rfl, Std.Refl.refl _⟩
    · exact ⟨_, rfl, (queue_enqueue q).imp_right And.right, keepsFrames_enqueue _ _⟩
  rw [he] at hv ⊢
  refine ⟨hq ▸ hw, ?_, fun {e} hd => stagedBy_congr ?_, ?_, fun {e} hd => ?_⟩
  · have hd : (h'.device d).staging = some { s with frames := frames } := by
      rw [hu.staging, hst, if_pos rfl, hs]
      rfl
    rw [stagedBy_eq hs, stagedBy_eq hd, hf]
    rfl
  · rw [hu.staging, hst, if_neg (Ne.symm hd)]
  · rw [taskRuns, hu.handed_eq, hr, hv, if_pos rfl, taskRuns, List.length_append]
    exact Nat.add_right_comm _ 1 _
  · rw [taskRuns, hu.handed_eq, hr, hv, if_neg (Ne.symm hd), List.append_nil, taskRuns]

/-- **The task of a device hands one frame over**, unless the device was found to be gone. -/
theorem Stored.launch_cases (v : Stored h) (hq : h.queue q = .task t :: rest)
    (hb : (h.task t).body = .transmit d) :
    Spent q d rest h ((launch (.task t)).run (h.taken q (.task t) rest)).2 ∨
      HandsOn q d t rest h ((launch (.task t)).run (h.taken q (.task t) rest)).2 := by
  have hm : Job.task t ∈ h.queue q := hq ▸ List.mem_cons_self
  obtain ⟨s, hs, rfl⟩ := v.own (v.there_of_mem hm) hb
  have hb' : (((dequeued s.task).run (h.taken q (.task s.task) rest)).2.task s.task).body =
      .transmit d :=
    ((sameTasks_modifyTask (h := h.taken q (.task s.task) rest) false).body s.task).trans hb
  have hq' : ((dequeued s.task).run (h.taken q (.task s.task) rest)).2.queue q = rest :=
    (queue_taken (h := h) (j := .task s.task) q).trans (if_pos rfl)
  have hs' (e : DeviceId) : (((dequeued s.task).run (h.taken q (.task s.task) rest)).2.device e).staging =
    (h.device e).staging := rfl
  have hj : ((dequeued s.task).run (h.taken q (.task s.task) rest)).2.journal =
    .started q (.task s.task) :: h.journal := rfl
  rw [run_launch, hb']
  dsimp only
  generalize ((dequeued s.task).run (h.taken q (.task s.task) rest)).2 = h₁ at hq' hs' hj ⊢
  have hst (e : DeviceId) : h₁.stagedBy e = h.stagedBy e := stagedBy_congr (hs' e)
  have hr (e : DeviceId) : taskRuns e h₁.journal = taskRuns e h.journal := by
    rw [hj, taskRuns_cons]
    rfl
  split_ifs
  · have hs₁ : (h₁.device d).staging = some s := (hs' d).trans hs
    cases hf : s.frames with
    | cons f frames =>
      have ht := handsOn_transmitNext q hs₁ hf
      refine .inr ⟨hq' ▸ ht.queue, (hst d).symm.trans ht.staged, fun hd => ?_, ?_, fun hd => ?_⟩
      · rw [ht.others hd, hst]
      · rw [ht.ran, hr]
      · rw [ht.kept hd, hr]
    | nil =>
      -- the task waits only where frames wait
      exact absurd hf ((v.flagged d s hs).1 (v.queued_of_mem hm))
  · refine .inl ⟨hq', hst, ?_, fun {e} hd => ?_⟩
    · change taskRuns d (.deserted d :: h₁.journal) = _
      rw [taskRuns_cons, hr]
      simp [Event.handedTo, Event.leftBy]
    · change taskRuns e (.deserted d :: h₁.journal) = _
      rw [taskRuns_cons, hr]
      simp [Event.handedTo, Event.leftBy, Ne.symm hd]

end Host

end InetHost
