import InetHost.Proofs.Exchange.Padding
import InetHost.Proofs.Exchange.Sending
import InetHost.Proofs.Queue.Backlog
import InetHost.Proofs.Run.Depth
import Mathlib.Algebra.BigOperators.Group.Finset.Basic

/-!
# Backlogs are worked off

A poll works off a backlog, although what it runs puts more work on the queue.

* `Progress`: what one job does. **`Workable.progress`**: the number of deferred frames gets less, or, with as
  many, that of frames and tasks that wait;
* **`Workable.drains`**: so a poll comes to its end; `Drained.balance`: how many jobs it has run, whatever
  devices were gone;
* **`Visited.worksOff`**: all of it, for every host with queue-free code.
-/

namespace InetHost

open scoped BigOperators

namespace Host

variable {h h' : Host} {q : QueueId} {d : DeviceId} {t : TaskId} {f : Bytes} {j : Job} {rest : List Job}
  {ds : Finset DeviceId}

/-! ## One job after another -/

/-- The number of frames that wait for the hardware of some devices, and of tasks that wait on a queue. -/
def loadOn (h : Host) (ds : Finset DeviceId) (q : QueueId) : Nat :=
  ∑ d ∈ ds, h.stagedBy d + (h.queue q).countP (!·.isFrame)

/-- How often the tasks of some devices ran. -/
def ranBy (h : Host) (ds : Finset DeviceId) : Nat := ∑ d ∈ ds, taskRuns d h.journal

/-- **A host that can work off a queue** with the devices `ds`. -/
structure Workable (ds : Finset DeviceId) (q : QueueId) (h : Host) : Prop where
  stored : Stored h
  queueFree : QueueFree h
  backlog : Backlog h q
  posted : ∀ d, d ∈ ds ↔ ∃ s, (h.device d).staging = some s ∧ s.queue = q

/-- **What one job does.** There are fewer deferred frames then, or as many and fewer frames and tasks that
wait. The job was a frame or a run of a device's task. -/
structure Progress (ds : Finset DeviceId) (q : QueueId) (h h' : Host) : Prop where
  less : h'.deferredOn q < h.deferredOn q ∨
    h'.deferredOn q = h.deferredOn q ∧ h'.loadOn ds q < h.loadOn ds q
  tally : h.deferredOn q + h'.ranBy ds = h'.deferredOn q + h.ranBy ds + 1
  suffix : h.journal <:+ h'.journal
  keepsOwners : KeepsOwners h h'

/-- What a poll does that has started `n` jobs. -/
structure Drained (ds : Finset DeviceId) (q : QueueId) (n : Nat) (h h' : Host) : Prop where
  workable : Workable ds q h'
  suffix : h.journal <:+ h'.journal
  keepsOwners : KeepsOwners h h'
  tally : n + h.ranBy ds = h.deferredOn q + h'.ranBy ds

theorem posted_of_post
    (hp : (h'.device d).staging.map Staging.post = (h.device d).staging.map Staging.post) :
    (∃ s, (h'.device d).staging = some s ∧ s.queue = q) ↔
      ∃ s, (h.device d).staging = some s ∧ s.queue = q := by
  revert hp
  cases (h'.device d).staging <;> cases (h.device d).staging <;> simp [Staging.post]
  rintro he -
  rw [he]

theorem sum_eq_succ {g g' : DeviceId → Nat} (hd : d ∈ ds) (hs : g d = g' d + 1)
    (ho : ∀ {e}, e ≠ d → g e = g' e) : ∑ e ∈ ds, g e = ∑ e ∈ ds, g' e + 1 := by
  rw [← Finset.add_sum_erase ds g hd, ← Finset.add_sum_erase ds g' hd, hs]
  rw [Finset.sum_congr rfl fun e he => ho (Finset.ne_of_mem_erase he)]
  omega

theorem deferredOn_taken (hq : h.queue q = j :: rest) :
    h.deferredOn q = (h.taken q j rest).deferredOn q + j.isFrame.toNat := by
  unfold deferredOn
  rw [queue_taken, if_pos rfl, hq]
  cases hj : j.isFrame <;> simp [hj]

section

/- The task of a device has run: it waits again behind the others, or not. -/
variable (hq : h.queue q = .task t :: rest)

include hq

theorem mem_of_requeued (hw : h'.queue q = rest ∨ h'.queue q = rest ++ [.task t])
    (hj : j ∈ h'.queue q) : j ∈ h.queue q := by
  rw [hq]
  rcases hw with hw | hw <;> rw [hw] at hj
  · exact List.mem_cons_of_mem _ hj
  · simpa [or_comm] using hj

theorem deferredOn_requeued (hw : h'.queue q = rest ∨ h'.queue q = rest ++ [.task t]) :
    h'.deferredOn q = h.deferredOn q := by
  unfold deferredOn
  rw [hq]
  rcases hw with hw | hw <;> rw [hw] <;> simp

theorem Spent.less (hc : Spent q d rest h h') : h'.loadOn ds q < h.loadOn ds q := by
  unfold loadOn
  rw [hc.queue, hq, Finset.sum_congr rfl fun e _ => hc.staged e]
  simp

theorem HandsOn.less (hc : HandsOn q d t rest h h') (hd : d ∈ ds) : h'.loadOn ds q < h.loadOn ds q := by
  have hs : ∑ e ∈ ds, h.stagedBy e = ∑ e ∈ ds, h'.stagedBy e + 1 :=
    sum_eq_succ hd hc.staged fun he => (hc.others he).symm
  unfold loadOn
  rw [hq, hs]
  rcases hc.queue with hw | hw <;> rw [hw]
  · simp
    omega
  · simp

end

theorem ranBy_eq_succ (hd : d ∈ ds) (hr : taskRuns d h'.journal = taskRuns d h.journal + 1)
    (ho : ∀ {e}, e ≠ d → taskRuns e h'.journal = taskRuns e h.journal) :
    h'.ranBy ds = h.ranBy ds + 1 :=
  sum_eq_succ hd hr ho

theorem QueueFree.taken (hg : QueueFree h) : QueueFree (h.taken q j rest) :=
  ⟨hg.acceptors, hg.connections, hg.subscribers⟩

namespace Workable

variable {inner : Exec}

theorem progress_frame (hi : ∀ op, op.QueueFree → ∀ x h, Ends Gestures h (inner x op))
    (r : Workable ds q h) (hq : h.queue q = .frame d f :: rest) :
    ∃ h', (runJob inner (.frame d f)).run (h.taken q (.frame d f) rest) = (some (), h') ∧
      Workable ds q h' ∧ Progress ds q h h' := by
  have hn := deferredOn_taken hq
  have v : Stored (h.taken q (.frame d f) rest) := r.stored.shift (.start q (.frame d f) rest hq)
  have g : QueueFree (h.taken q (.frame d f) rest) := r.queueFree.taken
  have b : Backlog (h.taken q (.frame d f) rest) q := by
    intro j hj
    exact r.backlog j (mem_of_taken hq hj)
  have hh (e : DeviceId) : taskRuns e (h.taken q (.frame d f) rest).journal = taskRuns e h.journal :=
    taskRuns_cons e (.started q (.frame d f)) h.journal
  obtain ⟨_, h', hr, hm⟩ := gestures_frame hi g d f
  obtain ⟨v', k⟩ := keepsBacklog_gestures (q := q) v hm
  refine ⟨h', hr, ⟨v', (staysQueueFree_gestures hm).queueFree g, k.backlog b, fun e => ?_⟩, ?_, ?_, ?_, ?_⟩
  · rw [r.posted]
    exact (posted_of_post (k.post e)).symm
  · left
    rw [k.deferred, hn]
    exact Nat.lt_succ_self _
  · have hs : h'.ranBy ds = h.ranBy ds := by
      refine Finset.sum_congr rfl fun e he => ?_
      obtain ⟨s, hs, -⟩ := (r.posted e).mp he
      rw [← hh, taskRuns, k.handed (Option.isSome_of_eq_some hs), (findsNoneGone_gestures hm).vain, taskRuns]
    rw [hs, hn, k.deferred]
    change _ + 1 + _ = _
    omega
  · exact (List.suffix_cons _ _).trans k.suffix
  · exact IsTrans.trans _ _ _ (keepsOwners_taken h q _ rest) (keepsOwners_gestures hm)

theorem progress_task (r : Workable ds q h) (hq : h.queue q = .task t :: rest) :
    ∃ h', (runJob inner (.task t)).run (h.taken q (.task t) rest) = (some (), h') ∧
      Workable ds q h' ∧ Progress ds q h h' := by
  have hm : Job.task t ∈ h.queue q := hq ▸ List.mem_cons_self
  obtain ⟨d, hb⟩ := TaskBody.isTransmit_iff.mp (r.backlog _ hm)
  have hd : d ∈ ds := by
    obtain ⟨s, hs, rfl⟩ := r.stored.own (r.stored.there_of_mem hm) hb
    exact (r.posted d).mpr ⟨s, hs, (r.stored.home hm hs rfl).symm⟩
  have v := r.stored.shift (.start q (.task t) rest hq)
  have k : SameTasks h ((launch (.task t)).run (h.taken q (.task t) rest)).2 := by
    have k := sameTasks_launch (h := h.taken q (.task t) rest) (.task t)
    exact ⟨k.names, k.length, k.body, k.post⟩
  have g : QueueFree ((launch (.task t)).run (h.taken q (.task t) rest)).2 :=
    (staysQueueFree_launch (h := h.taken q (.task t) rest) (.task t)).queueFree r.queueFree.taken
  have hx := (List.suffix_cons _ _).trans (suffix_launch (h := h.taken q (.task t) rest) (.task t))
  have u : KeepsOwners h ((launch (.task t)).run (h.taken q (.task t) rest)).2 :=
    IsTrans.trans _ _ _ (keepsOwners_taken h q (.task t) rest) (keepsOwners_launch (.task t))
  have hc := r.stored.launch_cases hq hb
  refine ⟨_, run_runTask inner hb, ?_⟩
  generalize ((launch (.task t)).run (h.taken q (.task t) rest)).2 = h' at v k g hx u hc ⊢
  have hw : h'.queue q = rest ∨ h'.queue q = rest ++ [.task t] := by
    rcases hc with hc | hc
    · exact .inl hc.queue
    · exact hc.queue
  have hn : h'.deferredOn q = h.deferredOn q := deferredOn_requeued hq hw
  refine ⟨⟨v, g, fun j hj => ?_, fun e => ?_⟩, .inr ⟨hn, ?_⟩, ?_, hx, u⟩
  · rw [isTraffic_of_body fun t _ => k.body t]
    exact r.backlog j (mem_of_requeued hq hw hj)
  · rw [r.posted]
    exact (posted_of_post (k.post e)).symm
  · rcases hc with hc | hc
    · exact hc.less hq
    · exact hc.less hq hd
  · have ht : h'.ranBy ds = h.ranBy ds + 1 := by
      rcases hc with hc | hc
      · exact ranBy_eq_succ hd hc.ran hc.kept
      · exact ranBy_eq_succ hd hc.ran hc.kept
    omega

/-- **Every job brings a backlog nearer to its end.** -/
theorem progress (hi : ∀ op, op.QueueFree → ∀ x h, Ends Gestures h (inner x op)) (r : Workable ds q h)
    (hq : h.queue q = j :: rest) :
    ∃ h', (runJob inner j).run (h.taken q j rest) = (some (), h') ∧
      Workable ds q h' ∧ Progress ds q h h' := by
  cases j with
  | frame d f => exact r.progress_frame hi hq
  | task t => exact r.progress_task hq
  | once id ops =>
    have hb := r.backlog (.once id ops) (hq ▸ List.mem_cons_self)
    cases hb

/-- **A poll comes to its end**: the jobs that are started are the deferred frames, and one for every run of
a device's task. -/
theorem drains (hi : ∀ op, op.QueueFree → ∀ x h, Ends Gestures h (inner x op)) {h : Host}
    (r : Workable ds q h) (m : Nat) :
    ∃ fuel n h', (drain inner q fuel m).run h = (some (m + n), h') ∧ Drained ds q n h h' := by
  cases hq : h.queue q with
  | nil =>
    have v := r.stored.shift (.drained q m hq)
    have g : QueueFree ((record (.drained q m)).run h).2 :=
      ⟨r.queueFree.acceptors, r.queueFree.connections, r.queueFree.subscribers⟩
    have u : Does FindsNoneGone h (record (.drained q m)) := findsNoneGone_record fun _ => rfl
    have hu : KeepsOwners h ((record (.drained q m)).run h).2 :=
      (FindsNoneGone.goneOnlyIfUnheld u).keepsOwners (List.Subset.refl _)
    refine ⟨1, 0, _, run_drain_empty hq 0 m,
      ⟨⟨v, g, r.backlog, r.posted⟩, List.suffix_cons _ _, hu, ?_⟩⟩
    unfold deferredOn
    rw [hq]
    exact congrArg (0 + ·) (Finset.sum_congr rfl fun d _ => (taskRuns_cons d (.drained q m) h.journal).symm)
  | cons j rest =>
    obtain ⟨h₁, hr, r₁, ht⟩ := r.progress hi hq
    obtain ⟨fuel, n, h', hd, hw⟩ := drains hi r₁ (m + 1)
    refine ⟨fuel + 1, n + 1, h', ?_, hw.workable, ht.suffix.trans hw.suffix,
      IsTrans.trans _ _ _ ht.keepsOwners hw.keepsOwners, ?_⟩
    · rw [run_drain_next (run_next hq), run_bind, hr, ← Nat.add_assoc, Nat.add_right_comm]
      exact hd
    · have hn := hw.tally
      have hn₁ := ht.tally
      omega
termination_by (h.deferredOn q, h.loadOn ds q)
decreasing_by exact Prod.lex_def.mpr ht.less

end Workable

/-! ## Polls -/

/-- **The number of deferred frames, of frames that waited, and of frames that were sent meanwhile.** -/
def Tallies (q : QueueId) (n : Nat) (h h' : Host) : Prop :=
  ∃ new, h'.journal = new ++ h.journal ∧
    n = h.deferredOn q + ∑ d ∈ h.postedOn q, (h.stagedBy d + (asked d new).length)

/-- **A poll has worked off a queue** and returned `n`. -/
structure WorkedOff (q : QueueId) (n : Nat) (h h' : Host) : Prop where
  /-- Nothing is left on the queue, … -/
  empty : h'.queue q = []
  /-- … nor on its devices. -/
  staged : ∀ {d s}, (h'.device d).staging = some s → s.queue = q →
    .deserted d ∉ h'.journal → s.frames = []
  /-- It says how much there was to do, however the hardware took the frames, less what is left and with
  every run that found its device gone. -/
  count : ∃ new, h'.journal = new ++ h.journal ∧
    n + ∑ d ∈ h.postedOn q, h'.stagedBy d =
      h.deferredOn q + ∑ d ∈ h.postedOn q, (h.stagedBy d + (asked d new).length + vainRuns d new)
  /-- So it says how much there was to do, if it found no device gone and nothing is left on those that
  were gone before. -/
  tallies : (∀ d ∈ h.postedOn q, vainRuns d h'.journal = vainRuns d h.journal ∧
    (.deserted d ∈ h.journal → h'.stagedBy d = 0)) → Tallies q n h h'
  /-- A device is not found to be gone that the application still holds, … -/
  held : ∀ d, (h'.device d).held = true → .deserted d ∉ h'.journal
  /-- … or that is the owner of an address. -/
  owner : ∀ {o}, o ∈ h.owners → .deserted o.2 ∈ h'.journal → .deserted o.2 ∈ h.journal

/-- What a device was asked to send and what waited on it was handed over, but for what is left. -/
theorem Stored.ran (v : Stored h) (v' : Stored h') {new : List Event} (hj : h'.journal = new ++ h.journal)
    {s' : Staging} (hs : (h.device d).staging = some s) (hs' : (h'.device d).staging = some s') :
    taskRuns d h'.journal + h'.stagedBy d =
      taskRuns d h.journal + (h.stagedBy d + (asked d new).length + vainRuns d new) := by
  have hb := v.frames hs
  have hb' := v'.frames hs'
  have ha : asked d h'.journal = asked d h.journal ++ asked d new := by
    rw [hj]
    exact inOrder_both _ new h.journal
  have hv : vainRuns d h'.journal = vainRuns d new + vainRuns d h.journal := by
    rw [hj, vainRuns_both]
  rw [ha, ← hb] at hb'
  have hl := congrArg List.length hb'
  simp only [List.length_append, List.length_map] at hl
  rw [taskRuns, taskRuns, hv, stagedBy_eq hs, stagedBy_eq hs']
  omega

namespace Drained

variable {n : Nat} (hw : Drained ds q n h h')

include hw

theorem balance (r : Workable ds q h) {new : List Event} (hj : h'.journal = new ++ h.journal) :
    n + ∑ d ∈ ds, h'.stagedBy d =
      h.deferredOn q + ∑ d ∈ ds, (h.stagedBy d + (asked d new).length + vainRuns d new) := by
  have hs : ∑ d ∈ ds, (taskRuns d h'.journal + h'.stagedBy d) = ∑ d ∈ ds,
      (taskRuns d h.journal + (h.stagedBy d + (asked d new).length + vainRuns d new)) := by
    refine Finset.sum_congr rfl fun d hd => ?_
    obtain ⟨s, hs, -⟩ := (r.posted d).mp hd
    obtain ⟨s', hs', -⟩ := (hw.workable.posted d).mp hd
    exact r.stored.ran hw.workable.stored hj hs hs'
  rw [Finset.sum_add_distrib, Finset.sum_add_distrib] at hs
  have ht := hw.tally
  unfold ranBy at ht
  omega

theorem stagedBy_eq_zero (he : h'.queue q = []) (hd : d ∈ ds) (hn : .deserted d ∉ h'.journal) :
    h'.stagedBy d = 0 := by
  obtain ⟨s, hs, rfl⟩ := (hw.workable.posted d).mp hd
  rw [stagedBy_eq hs, hw.workable.stored.frames_eq_nil hs hn he]
  rfl

end Drained

/-- **A backlog is worked off by a poll**, on every host whose application code is queue-free. -/
theorem Visited.worksOff (hv : Visited h) (hg : QueueFree h) (hb : Backlog h q) :
    ∃ k n h', (∀ l, k ≤ l → ∀ x, (exec l x (.poll q)).run h = (some (.count n), h')) ∧
      WorkedOff q n h h' := by
  have r : Workable (h.postedOn q) q h := ⟨hv.stored, hg, hb, fun _ => mem_postedOn⟩
  have hi : ∀ op, op.QueueFree → ∀ x h, Ends Gestures h (exec 1 x op) := fun op ho x h =>
    gestures_perform ho (exec 0) 0 x h
  obtain ⟨fuel, n, h', hd, hw⟩ := r.drains hi 0
  have v' := hw.workable.stored
  rw [Nat.zero_add] at hd
  refine ⟨fuel + 2, n, h', fun l hl x => ?_, ?_⟩
  · obtain ⟨l, rfl⟩ := Nat.exists_eq_add_of_le hl
    have hb : Below (drain (exec 1) q fuel 0) (drain (exec (fuel + 1 + l)) q (fuel + 1 + l) 0) :=
      below_drain (exec_mono (by omega)) (by omega) q 0
    have hr := (hb.map Reply.count) h (.count n) h'
    rw [show fuel + 2 + l = fuel + 1 + l + 1 by omega]
    refine hr ?_
    rw [← bind_pure_comp, run_bind, hd]
    rfl
  · have he : h'.queue q = [] := (drain_ends hd).1
    obtain ⟨new, hj⟩ := hw.suffix
    have hc := hw.balance r hj.symm
    refine ⟨he, fun hs hq hn => v'.frames_eq_nil hs hn (hq ▸ he), ⟨new, hj.symm, hc⟩,
      fun hn => ⟨new, hj.symm, ?_⟩, fun d hh hm => ?_, hw.keepsOwners.deserted⟩
    · have hz : ∀ d ∈ h.postedOn q, h'.stagedBy d = 0 := fun d hd => by
        by_cases hm : .deserted d ∈ h.journal
        · exact (hn d hd).2 hm
        · refine hw.stagedBy_eq_zero he hd fun hm' => hm ?_
          exact vainRuns_pos.mp ((hn d hd).1 ▸ vainRuns_pos.mpr hm')
      have hv : ∀ d ∈ h.postedOn q, vainRuns d new = 0 := fun d hd => by
        have hv := (hn d hd).1
        rw [← hj, vainRuns_both] at hv
        exact Nat.add_eq_right.mp hv
      rw [Finset.sum_eq_zero hz] at hc
      rw [← Nat.add_zero n, hc]
      exact congrArg _ (Finset.sum_congr rfl fun d hd => by rw [hv d hd, Nat.add_zero])
    · rw [v'.watched d hm] at hh
      cases hh

/-! ### A host with some work to do -/

theorem queueFree_start {s : Setup} (hs : start s = .ok h) : QueueFree h := by
  rw [(eq_of_start hs).2]
  refine foldl_attach (fun h v hg => ?_) s.devices ⟨fun _ => trivial, fun _ => trivial, fun _ => trivial⟩
  unfold attach
  split <;> exact ⟨hg.acceptors, hg.connections, hg.subscribers⟩

/-- Where only queue-free operations are asked for, and frames deferred, the code stays queue-free. -/
theorem staysQueueFree_after? {n : Nat} {ops : List Op}
    (ho : ∀ op ∈ ops, op.QueueFree ∨ ∃ d b, op = .defer d b) (ha : after? n ops h = some h') :
    StaysQueueFree h h' := by
  induction ops generalizing h with
  | nil =>
    obtain rfl := Option.some.inj ha
    exact Std.Refl.refl _
  | cons op ops ih =>
    have hg : StaysQueueFree h ((exec n {} op).run h).2 := by
      cases n with
      | zero => exact Std.Refl.refl h
      | succ n =>
        rcases ho op List.mem_cons_self with hg | ⟨d, b, rfl⟩
        · obtain ⟨_, h₁, hr, hm⟩ := gestures_perform hg (exec n) n {} h
          change StaysQueueFree h ((perform (exec n) n {} op).run h).2
          rw [hr]
          exact staysQueueFree_gestures hm
        · exact staysQueueFree_of_eq rfl rfl rfl rfl
    unfold after? at ha
    generalize (exec n {} op).run h = r at hg ha
    obtain ⟨r, h₁⟩ := r
    cases r with
    | none => cases ha
    | some _ => exact IsTrans.trans _ _ _ hg (ih (fun op hm => ho op (List.mem_cons_of_mem _ hm)) ha)

/-- Two devices whose frames wait for the host's own queue to be polled. -/
def posted : Setup :=
  ⟨{}, [{ talker with queue := some 0 }, ⟨⟨2, 0, 0, 0, 0, 9⟩, ⟨10, 0, 9, 1⟩, some 0⟩]⟩

/-- What comes in is sent back, and a listener added. One frame is sent, and two come in; the hardware of
the first device fails. -/
def chores : List Op :=
  [.store ⟨10, 0, 0, 2⟩ ⟨2, 0, 0, 0, 0, 2⟩,
    .subscribe 53 (.number 0) [[.sendDatagram none .received, .listen 80 [[.summary]] []]],
    .setFailure 0 (some { kind := .wouldBlock }), .advertise 1,
    .defer 0 (.bytes (plainFrame 17 card).encode), .defer 0 (.bytes (inquiryFrame talker.ip).encode)]

theorem queueFree_chores : ∀ op ∈ chores, op.QueueFree ∨ ∃ d b, op = .defer d b := by
  have hl : (Op.listen 80 [[.summary]] []).QueueFree :=
    .listen 80 (Script.queueFree_of_plain rfl) (Script.queueFree_of_plain rfl)
  have hn : Script.QueueFree [[.sendDatagram none .received, .listen 80 [[.summary]] []]] := by
    intro ops ho op hop
    obtain rfl := List.mem_singleton.mp ho
    rcases List.mem_pair.mp hop with rfl | rfl
    · exact .plain rfl
    · exact hl
  simp only [chores, List.forall_mem_cons]
  exact ⟨.inl (.plain rfl), .inl (.subscribe 53 _ hn), .inl (.plain rfl), .inl (.plain rfl),
    .inr ⟨_, _, rfl⟩, .inr ⟨_, _, rfl⟩, List.forall_mem_nil _⟩

/-- A host that has them to do. -/
def laden? : Option Host := after? 1 chores (posted.devices.foldl attach { config := {} })

/-- The host. -/
def laden : Host := laden?.getD default

theorem laden_eq : laden? = some laden := by
  have hs : laden?.isSome = true := by decide +kernel
  obtain ⟨h, hh⟩ := Option.isSome_iff_exists.mp hs
  rw [laden, hh]
  rfl

theorem worksOff_laden : Visited laden ∧ QueueFree laden ∧ Backlog laden 0 ∧ ∃ k h',
    (∀ l, k ≤ l → ∀ x, (exec l x (.poll 0)).run laden = (some (.count 5), h')) ∧
      WorkedOff 0 5 laden h' := by
  have hs : start posted = .ok (posted.devices.foldl attach { config := {} }) := rfl
  have hv : Visited laden := ⟨_, _, true, hs, leads_after? laden_eq⟩
  have hg : QueueFree laden :=
    (staysQueueFree_after? queueFree_chores laden_eq).queueFree (queueFree_start hs)
  have hb : Backlog laden 0 := List.all_eq_true.mp (by decide +kernel)
  have h₅ : ((exec 9 {} (.poll 0)).run laden).1 = some (.count 5) := by decide +kernel
  obtain ⟨k, n, h', hr, hw⟩ := hv.worksOff hg hb
  obtain rfl : n = 5 :=
    Reply.count.inj (exec_agrees (congrArg Prod.fst (hr k (Nat.le_refl k) {})) h₅)
  exact ⟨hv, hg, hb, k, h', hr, hw⟩

/-! ### A host with a device that nobody holds -/

/-- A question comes in twice, and then nothing but the two frames holds the device. -/
def leaving : List Op :=
  [.defer 0 (.bytes (inquiryFrame talker.ip).encode), .defer 0 (.bytes (inquiryFrame talker.ip).encode),
    .release 0]

theorem queueFree_leaving : ∀ op ∈ leaving, op.QueueFree ∨ ∃ d b, op = .defer d b := by
  simp only [leaving, List.forall_mem_cons]
  exact ⟨.inr ⟨_, _, rfl⟩, .inr ⟨_, _, rfl⟩, .inl (.plain rfl), List.forall_mem_nil _⟩

/-- A host on which it was so. -/
def stranded? : Option Host :=
  after? 1 leaving (attach { config := {} } { talker with queue := some 0 })

/-- The host. -/
def stranded : Host := stranded?.getD default

theorem stranded_eq : stranded? = some stranded := by
  have hs : stranded?.isSome = true := by decide +kernel
  obtain ⟨h, hh⟩ := Option.isSome_iff_exists.mp hs
  rw [stranded, hh]
  rfl

/-- **It is not enough that the devices of a queue are there when it is polled.** The second frame is the
last to hold the device, so the answers stay where they are. -/
theorem stranded_miscounted : Visited stranded ∧ QueueFree stranded ∧ Backlog stranded 0 ∧
    (∀ d ∈ stranded.postedOn 0, stranded.alive d = true) ∧ ∃ h',
      (∀ l, 6 ≤ l → ∀ x, (exec l x (.poll 0)).run stranded = (some (.count 3), h')) ∧
        h'.stagedBy 0 = 2 ∧ ¬ Tallies 0 3 stranded h' := by
  have hs : start ⟨{}, [{ talker with queue := some 0 }]⟩ =
    .ok (attach { config := {} } { talker with queue := some 0 }) := rfl
  have hg : QueueFree stranded :=
    (staysQueueFree_after? queueFree_leaving stranded_eq).queueFree (queueFree_start hs)
  have hp : stranded.postedOn 0 = {0} := by decide +kernel
  have ha : stranded.alive 0 = true := by decide +kernel
  have h₃ : ((exec 6 {} (.poll 0)).run stranded).1 = some (.count 3) := by decide +kernel
  refine ⟨⟨_, _, true, hs, leads_after? stranded_eq⟩, hg, List.all_eq_true.mp (by decide +kernel), ?_,
    ((exec 6 {} (.poll 0)).run stranded).2, fun l hl x => ?_, by decide +kernel, ?_⟩
  · rw [hp]
    intro d hd
    obtain rfl := Finset.mem_singleton.mp hd
    exact ha
  · exact exec_mono hl x (.poll 0) stranded _ _ (Prod.ext h₃ rfl)
  · -- two frames came in and two were sent
    have hd : stranded.deferredOn 0 = 2 := by decide +kernel
    have ho : (asked 0 stranded.journal).length = 0 := by decide +kernel
    have hn : (asked 0 ((exec 6 {} (.poll 0)).run stranded).2.journal).length = 2 := by decide +kernel
    rintro ⟨new, hj, ht⟩
    have hl : asked 0 (new ++ stranded.journal) = asked 0 stranded.journal ++ asked 0 new :=
      inOrder_both _ new stranded.journal
    rw [hj, hl, List.length_append] at hn
    rw [hp, Finset.sum_singleton] at ht
    omega

end Host

end InetHost
