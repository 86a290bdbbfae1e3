import InetHost.Proofs.Queue.Shift

/-!
# The ledger of a queue

The journal tells which jobs were put on a queue and which were taken from it; what waits on a queue
is between the two.

* `putOn`, `startedOn`: the jobs of a queue, as the journal tells them;
* `KeepsJobs`: no job was put on a queue or taken from one;
* `stage`, `handOver`: what a device with staging does with a frame, its task apart; `run_offer`,
  `run_transmitNext`;
* `places`: the number of places in which a task waits; `queue_put`, `places_put`, …: how a queue and
  the places change.
-/

namespace InetHost

/-- The job is a run of the task. -/
def Job.isTask (t : TaskId) : Job → Bool
  | .task t' => t' == t
  | _ => false

theorem Job.isTask_iff {t : TaskId} {j : Job} : j.isTask t = true ↔ j = .task t := by
  cases j <;> simp [isTask]

theorem Job.isTask_eq_false {t : TaskId} {j : Job} (hj : ∀ t, j ≠ .task t) : j.isTask t = false :=
  Bool.eq_false_iff.mpr fun h => hj t (Job.isTask_iff.mp h)

/-- A job was put on a queue or taken from one. -/
def Event.isJob : Event → Bool
  | .put _ _ | .started _ _ => true
  | _ => false

theorem Event.isJob_of_onQueue {e : Event} (he : e.onQueue = false) : e.isJob = false := by
  cases e <;> first | rfl | cases he

/-- A frame was offered, handed to the hardware or put on the wire, or a warning was given. -/
def Event.onFrame : Event → Bool
  | .offered _ _ _ | .transmitted _ _ _ | .wire _ _ | .noticed (.transmitFailed _ _) => true
  | _ => false

/-- The job that was put on a queue. -/
def Event.putOn (q : QueueId) : Event → Option Job
  | .put p j => if p = q then some j else none
  | _ => none

/-- The job that was taken from a queue. -/
def Event.startedOn (q : QueueId) : Event → Option Job
  | .started p j => if p = q then some j else none
  | _ => none

/-- The jobs that were put on a queue, the first first. -/
def putOn (q : QueueId) (j : List Event) : List Job := (j.filterMap (Event.putOn q)).reverse

/-- The jobs that were taken from a queue, the first first. -/
def startedOn (q : QueueId) (j : List Event) : List Job := (j.filterMap (Event.startedOn q)).reverse

section Journal

variable {new j : List Event} {q : QueueId}

theorem putOn_append (hn : ∀ e ∈ new, e.isJob = false) : putOn q (new ++ j) = putOn q j := by
  have h : new.filterMap (Event.putOn q) = [] := by
    rw [List.filterMap_eq_nil_iff]
    intro e he
    have := hn e he
    cases e <;> first | rfl | cases this
  simp [putOn, h]

theorem startedOn_append (hn : ∀ e ∈ new, e.isJob = false) :
    startedOn q (new ++ j) = startedOn q j := by
  have h : new.filterMap (Event.startedOn q) = [] := by
    rw [List.filterMap_eq_nil_iff]
    intro e he
    have := hn e he
    cases e <;> first | rfl | cases this
  simp [startedOn, h]

theorem putOn_put (p : QueueId) (i : Job) :
    putOn q (.put p i :: j) = putOn q j ++ if p = q then [i] else [] := by
  by_cases h : p = q <;> simp [putOn, Event.putOn, h]

theorem startedOn_started (p : QueueId) (i : Job) :
    startedOn q (.started p i :: j) = startedOn q j ++ if p = q then [i] else [] := by
  by_cases h : p = q <;> simp [startedOn, Event.startedOn, h]

theorem putOn_started (p : QueueId) (i : Job) : putOn q (.started p i :: j) = putOn q j := rfl

theorem startedOn_put (p : QueueId) (i : Job) : startedOn q (.put p i :: j) = startedOn q j := rfl

end Journal

namespace Host

variable {h h' : Host} {q : QueueId} {t : TaskId} {d : DeviceId} {f : Bytes} {s : Staging}
  {j : Job} {rest : List Job}

/-! ## What is not about jobs -/

/-- What stays the same of a device that stages frames. -/
def Staging.post (s : Staging) : QueueId × TaskId := (s.queue, s.task)

/-- **Tasks are what they were**, and devices have the tasks that they had. -/
structure SameTasks (h h' : Host) : Prop where
  names : h'.taskNames = h.taskNames
  length : h'.tasks.length = h.tasks.length
  body : ∀ t, (h'.task t).body = (h.task t).body
  post : ∀ d, (h'.device d).staging.map Staging.post = (h.device d).staging.map Staging.post

/-- **No job was put on a queue or taken from one.** -/
structure KeepsJobs (h h' : Host) : Prop extends SameTasks h h' where
  queues : h'.queues = h.queues
  queued : ∀ t, (h'.task t).queued = (h.task t).queued
  journal : ∃ new, h'.journal = new ++ h.journal ∧ ∀ e ∈ new, e.isJob = false

instance : Std.Refl KeepsJobs :=
  ⟨fun _ => ⟨⟨rfl, rfl, fun _ => rfl, fun _ => rfl⟩, rfl, fun _ => rfl, [], rfl,
    List.forall_mem_nil _⟩⟩

instance : IsTrans Host KeepsJobs where
  trans _ _ _ i₁ i₂ :=
    ⟨⟨i₂.names.trans i₁.names, i₂.length.trans i₁.length, fun t => (i₂.body t).trans (i₁.body t),
      fun d => (i₂.post d).trans (i₁.post d)⟩, i₂.queues.trans i₁.queues,
      fun t => (i₂.queued t).trans (i₁.queued t), extends_trans i₁.journal i₂.journal⟩

theorem KeepsQueues.keepsJobs (i : KeepsQueues h h') : KeepsJobs h h' where
  names := i.names
  length := i.length
  body := i.body
  post d := by rw [i.staging]
  queues := i.queues
  queued := i.queued
  journal := by
    obtain ⟨new, he, hn⟩ := i.journal
    exact ⟨new, he, fun e h => Event.isJob_of_onQueue (hn e h)⟩

theorem keepsJobs_record {e : Event} (he : e.isJob = false) : Does KeepsJobs h (record e) :=
  ⟨⟨rfl, rfl, fun _ => rfl, fun _ => rfl⟩, rfl, fun _ => rfl, [e], rfl,
    fun _ hx => List.mem_singleton.mp hx ▸ he⟩

theorem keepsJobs_modifyStaged (d : DeviceId) (g : List Bytes → List Bytes) :
    Does KeepsJobs h (modifyStaged d g) := by
  refine ⟨⟨rfl, rfl, fun _ => rfl, fun d' => ?_⟩, rfl, fun _ => rfl, [], rfl, List.forall_mem_nil _⟩
  refine getD_modify_of (g := fun v : Device => v.staging.map Staging.post) (fun v => ?_) h.devices d
    d' default
  rw [Option.map_map]
  rfl

theorem keepsJobs_transmit (d : DeviceId) (f : Bytes) : Does KeepsJobs h (transmit d f) := by
  have hu : KeepsQueues h ((useHardware d).run h).2 := keepsQueues_device fun _ => ⟨rfl, rfl, rfl, id⟩
  refine Does.get (Does.bind (x := useHardware d) hu.keepsJobs (Does.bind (keepsJobs_record rfl) ?_))
  split
  · exact Does.pure _
  · exact Does.bind (keepsJobs_record rfl) (Does.pure _)

/-! ### Frames are staged and handed over -/

/-- A frame joins those that wait for a device's hardware. -/
def stage (d : DeviceId) (f : Bytes) : Act Unit := do
  record (.offered d f none)
  modifyStaged d (· ++ [f])

/-- The hardware of a device is given the first of the frames that wait for it. -/
def handOver (d : DeviceId) (f : Bytes) (rest : List Bytes) : Act Unit := do
  let v := (← get).device d
  modifyStaged d fun _ => rest
  match ← transmit d f with
  | .ok _ => pure ()
  | .error e => note (.transmitFailed v.ip e)

theorem keepsJobs_stage (d : DeviceId) (f : Bytes) : Does KeepsJobs h (stage d f) :=
  Does.bind (keepsJobs_record rfl) (keepsJobs_modifyStaged d _)

theorem keepsJobs_handOver (d : DeviceId) (f : Bytes) (rest : List Bytes) :
    Does KeepsJobs h (handOver d f rest) := by
  refine Does.get (Does.bind (keepsJobs_modifyStaged d _) (Does.bind (keepsJobs_transmit d f) ?_))
  split
  · exact Does.pure _
  · exact keepsJobs_record rfl

/-- A device without staging transmits a frame at once, … -/
theorem keepsJobs_offer (hs : (h.device d).staging = none) : Does KeepsJobs h (offer d f) := by
  refine Does.get ?_
  dsimp only
  rw [hs]
  exact Does.bind (keepsJobs_record rfl) (keepsJobs_transmit d f)

/-- … and one with staging keeps it and has its task on the queue. -/
theorem run_offer (hs : (h.device d).staging = some s) :
    ((offer d f).run h).2 = ((enqueue s.queue s.task).run ((stage d f).run h).2).2 := by
  unfold offer
  rw [act_get]
  dsimp only
  rw [hs]
  rfl

theorem run_transmitNext (hs : (h.device d).staging = some s) {rest : List Bytes}
    (hf : s.frames = f :: rest) :
    ((transmitNext d).run h).2 =
      ((if rest = [] then pure () else enqueue s.queue s.task : Act Unit).run
        ((handOver d f rest).run h).2).2 := by
  have hr : ∀ (r : Except NetError Unit) (h₁ : Host),
      ((do
        match r with
        | .ok _ => pure ()
        | .error e => note (.transmitFailed (h.device d).ip e)
        unless rest.isEmpty do enqueue s.queue s.task : Act Unit).run h₁).2 =
      ((if rest = [] then pure () else enqueue s.queue s.task : Act Unit).run
        ((match r with
          | .ok _ => pure ()
          | .error e => note (.transmitFailed (h.device d).ip e) : Act Unit).run h₁).2).2 := by
    intro r h₁
    cases r <;> cases rest <;> rfl
  unfold transmitNext handOver
  rw [act_get, act_get]
  dsimp only
  rw [hs]
  dsimp only
  rw [hf]
  exact hr _ _

/-- **The task of a device** does nothing if there is nothing to hand over; else it hands one frame over,
and is put on its queue again if there are more. -/
theorem transmitNext_cases (h : Host) (d : DeviceId) :
    (∀ s, (h.device d).staging = some s → s.frames = []) ∧ ((transmitNext d).run h).2 = h ∨
    ∃ s f rest, (h.device d).staging = some s ∧ s.frames = f :: rest ∧ ((transmitNext d).run h).2 =
      ((if rest = [] then pure () else enqueue s.queue s.task : Act Unit).run
        ((handOver d f rest).run h).2).2 := by
  cases hs : (h.device d).staging with
  | none =>
    refine .inl ⟨nofun, ?_⟩
    unfold transmitNext
    rw [act_get]
    dsimp only
    rw [hs]
    rfl
  | some s =>
    cases hf : s.frames with
    | nil =>
      refine .inl ⟨?_, ?_⟩
      · rintro _ ⟨⟩
        exact hf
      unfold transmitNext
      rw [act_get]
      dsimp only
      rw [hs]
      dsimp only
      rw [hf]
      rfl
    | cons f rest => exact .inr ⟨s, f, rest, rfl, hf, run_transmitNext hs hf⟩

theorem run_launch (h : Host) (t : TaskId) :
    ((launch (.task t)).run h).2 =
      ((match (((dequeued t).run h).2.task t).body with
        | .transmit d =>
          if ((dequeued t).run h).2.alive d then transmitNext d else record (.deserted d)
        | .script _ _ => pure () : Act Unit).run ((dequeued t).run h).2).2 := by
  unfold launch
  rw [StateT.run_bind]
  change ((_ : Act Unit).run ((dequeued t).run h).2).2 = _
  rw [act_get]
  dsimp only
  cases (((dequeued t).run h).2.task t).body with
  | script => rfl
  | transmit d =>
    dsimp only
    rw [act_get]

/-! ### Small steps -/

/-- One of the small steps in which frames are passed on and tasks are put on queues. -/
inductive Handling (h : Host) : Host → Prop
  | record (e : Event) (he : e.onFrame = true) : Handling h ((record e).run h).2
  | put (q : QueueId) (j : Job) : Handling h ((put q j).run h).2
  | flag (t : TaskId) (b : Bool) : Handling h ((modifyTask t ({ · with queued := b })).run h).2
  | staged (d : DeviceId) (g : List Bytes → List Bytes) : Handling h ((modifyStaged d g).run h).2
  | hardware (d : DeviceId) : Handling h ((useHardware d).run h).2

/-- Small steps, one after another. -/
abbrev Handlings : Host → Host → Prop := Relation.ReflTransGen Handling

theorem Handling.does {α : Type} {x : Act α} (hx : Handling h (x.run h).2) : Does Handlings h x :=
  Relation.ReflTransGen.single hx

theorem of_handlings {R : Host → Host → Prop} [Std.Refl R] [IsTrans Host R]
    (hR : ∀ {h h'}, Handling h h' → R h h') (hh : Handlings h h') : R h h' := by
  induction hh with
  | refl => exact Std.Refl.refl h
  | tail _ hh ih => exact IsTrans.trans _ _ _ ih (hR hh)

theorem handlings_enqueue (q : QueueId) (t : TaskId) : Does Handlings h (enqueue q t) := by
  refine Does.get ?_
  split
  · exact Does.pure _
  · exact Does.bind (Handling.does (.flag t true)) (Handling.does (.put q _))

theorem handlings_transmit (d : DeviceId) (f : Bytes) : Does Handlings h (transmit d f) := by
  refine Does.get (Does.bind (Handling.does (.hardware d)) ?_)
  refine Does.bind (Handling.does (.record _ rfl)) ?_
  split
  · exact Does.pure _
  · exact Does.bind (Handling.does (.record _ rfl)) (Does.pure _)

theorem handlings_offer (d : DeviceId) (f : Bytes) : Does Handlings h (offer d f) := by
  refine Does.get ?_
  dsimp only
  split
  · exact Does.bind (Handling.does (.record _ rfl)) (handlings_transmit d f)
  · refine Does.bind (Handling.does (.record _ rfl)) (Does.bind (Handling.does (.staged d _)) ?_)
    exact Does.bind (handlings_enqueue _ _) (Does.pure _)

theorem handlings_handOver (d : DeviceId) (f : Bytes) (rest : List Bytes) :
    Does Handlings h (handOver d f rest) := by
  refine Does.get (Does.bind (Handling.does (.staged d _)) (Does.bind (handlings_transmit d f) ?_))
  split
  · exact Does.pure _
  · exact Handling.does (.record _ rfl)

theorem handlings_transmitNext (d : DeviceId) : Does Handlings h (transmitNext d) := by
  unfold Does
  rcases transmitNext_cases h d with ⟨-, he⟩ | ⟨s, f, rest, -, -, he⟩
  · rw [he]
  · rw [he]
    refine (handlings_handOver d f rest).trans ?_
    split_ifs
    · exact .refl
    · exact handlings_enqueue _ _

/-! ## Where tasks wait -/

/-- The number of places in which a task waits. -/
def places (h : Host) (t : TaskId) : Nat := h.queues.flatten.countP (Job.isTask t)

theorem countP_alterQueue (p : Job → Bool) (g : List Job → List Job) (q : QueueId)
    (qs : List (List Job)) :
    (alterQueue g q qs).flatten.countP p + (qs.getD q []).countP p =
      qs.flatten.countP p + (g (qs.getD q [])).countP p := by
  induction q generalizing qs with
  | zero => cases qs <;> simp [alterQueue]; omega
  | succ q ih =>
    cases qs with
    | nil => simpa [alterQueue] using ih []
    | cons l r =>
      have := ih r
      simp only [alterQueue, List.flatten_cons, List.countP_append, List.getD_cons_succ]
      omega

theorem countP_le_places (h : Host) (q : QueueId) (t : TaskId) :
    (h.queue q).countP (Job.isTask t) ≤ h.places t := by
  have := countP_alterQueue (Job.isTask t) (fun _ => []) q h.queues
  simp only [List.countP_nil] at this
  unfold places queue
  omega

theorem places_pos_iff : 0 < h.places t ↔ ∃ q, .task t ∈ h.queue q := by
  unfold places
  rw [List.countP_pos_iff]
  constructor
  · rintro ⟨j, hj, ht⟩
    obtain ⟨l, hl, hj⟩ := List.mem_flatten.mp hj
    obtain ⟨q, hq, rfl⟩ := List.getElem_of_mem hl
    obtain rfl := Job.isTask_iff.mp ht
    exact ⟨q, by simpa [queue, hq] using hj⟩
  · rintro ⟨q, hq⟩
    have hc := countP_le_places h q t
    have : 0 < (h.queue q).countP (Job.isTask t) :=
      List.countP_pos_iff.mpr ⟨_, hq, Job.isTask_iff.mpr rfl⟩
    exact List.countP_pos_iff.mp (Nat.lt_of_lt_of_le this hc)

theorem queue_put (p : QueueId) :
    ((put q j).run h).2.queue p = h.queue p ++ if q = p then [j] else [] := by
  change (alterQueue _ q h.queues).getD p [] = _
  rw [getD_alterQueue]
  by_cases hp : p = q
  · simp [hp, queue]
  · simp [hp, Ne.symm hp, queue]

theorem places_put : ((put q j).run h).2.places t = h.places t + (j.isTask t).toNat := by
  have := countP_alterQueue (Job.isTask t) (· ++ [j]) q h.queues
  change (alterQueue _ q h.queues).flatten.countP _ = h.queues.flatten.countP _ + _
  cases hj : j.isTask t <;> simp [hj] at this ⊢ <;> omega

theorem queue_taken (p : QueueId) :
    (h.taken q j rest).queue p = if p = q then rest else h.queue p :=
  getD_alterQueue _ q p h.queues

theorem mem_of_taken (hq : h.queue q = j :: rest) {i : Job} {p : QueueId}
    (hi : i ∈ (h.taken q j rest).queue p) : i ∈ h.queue p := by
  rw [queue_taken] at hi
  split_ifs at hi with hp
  · rw [hp, hq]
    exact List.mem_cons_of_mem j hi
  · exact hi

theorem places_taken (hq : h.queue q = j :: rest) :
    (h.taken q j rest).places t + (j.isTask t).toNat = h.places t := by
  have := countP_alterQueue (Job.isTask t) (fun _ => rest) q h.queues
  unfold queue at hq
  rw [hq] at this
  change (alterQueue _ q h.queues).flatten.countP _ + _ = h.queues.flatten.countP _
  cases hj : j.isTask t <;> simp [hj] at this ⊢ <;> omega

/-- Mark a task as on a queue or off. -/
theorem queued_modifyTask (b : Bool) (t' : TaskId) :
    (((modifyTask t ({ · with queued := b })).run h).2.task t').queued =
      if t = t' ∧ t' < h.tasks.length then b else (h.task t').queued := by
  change ((h.tasks.modify t ({ · with queued := b })).getD t' default).queued = _
  rw [getD_modify]
  split_ifs <;> rfl

theorem sameTasks_modifyTask (b : Bool) : Does SameTasks h (modifyTask t ({ · with queued := b })) :=
  ⟨rfl, List.length_modify .., fun t' =>
    getD_modify_of (f := ({ · with queued := b })) (fun _ => rfl) h.tasks t t' default, fun _ => rfl⟩

theorem run_enqueue : ((enqueue q t).run h).2 = if (h.task t).queued then h else
    ((put q (.task t)).run ((modifyTask t ({ · with queued := true })).run h).2).2 := by
  unfold enqueue
  rw [act_get]
  split_ifs <;> rfl

/-! ### Which jobs are put on queues -/

theorem queue_enqueue (p : QueueId) : ((enqueue q t).run h).2.queue p = h.queue p ∨
    p = q ∧ ((enqueue q t).run h).2.queue p = h.queue p ++ [.task t] := by
  rw [run_enqueue]
  split_ifs
  · exact .inl rfl
  · rw [queue_put]
    split_ifs with hp
    · exact .inr ⟨hp.symm, rfl⟩
    · exact .inl (List.append_nil _)

/-- A device that is offered a frame may put its task on its queue, … -/
theorem queue_offer (d : DeviceId) (f : Bytes) (p : QueueId) :
    ((offer d f).run h).2.queue p = h.queue p ∨ ∃ s, (h.device d).staging = some s ∧ p = s.queue ∧
      ((offer d f).run h).2.queue p = h.queue p ++ [.task s.task] := by
  cases hs : (h.device d).staging with
  | none =>
    have hi := keepsJobs_offer (f := f) hs
    exact .inl (congrArg (·.getD p []) hi.queues)
  | some s =>
    have hi : ((stage d f).run h).2.queue p = h.queue p :=
      congrArg (·.getD p []) (keepsJobs_stage d f).queues
    rw [run_offer hs, ← hi]
    exact (queue_enqueue p).imp_right fun he => ⟨s, rfl, he⟩

/-- … and so may its task when it has run. -/
theorem queue_transmitNext (d : DeviceId) (p : QueueId) :
    ((transmitNext d).run h).2.queue p = h.queue p ∨ ∃ s, (h.device d).staging = some s ∧
      p = s.queue ∧ ((transmitNext d).run h).2.queue p = h.queue p ++ [.task s.task] := by
  rcases transmitNext_cases h d with ⟨-, he⟩ | ⟨s, f, rest, hs, -, he⟩
  · rw [he]
    exact .inl rfl
  · have hi : ((handOver d f rest).run h).2.queue p = h.queue p :=
      congrArg (·.getD p []) (keepsJobs_handOver d f rest).queues
    rw [he, ← hi]
    split_ifs
    · exact .inl rfl
    · exact (queue_enqueue p).imp_right fun he => ⟨s, hs, he⟩

end Host

end InetHost
