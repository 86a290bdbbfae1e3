import InetHost.Proofs.Queue.Ledger

/-!
# Tasks and their queues

A task that waits on a queue is flagged, and a flagged task waits on one queue in one place. What was
put on a queue was started, in the same order, or still waits there.

* `Known`: the tasks that may be put on a queue are there; a device has a task of its own;
* `Disciplined`: what holds of the queues of a host at all times;
* `Disciplined.enqueue`, `Disciplined.start`, …: one lemma for each thing that happens to a queue;
* **`Disciplined.shifts`**: so it stays.
-/

namespace InetHost.Host

variable {h h' : Host} {q : QueueId} {t : TaskId} {d : DeviceId} {f : Bytes} {s : Staging} {j : Job}
  {rest : List Job}

/-! ## The tasks of a host -/

/-- **The tasks that may be put on a queue are there**, and a device that stages frames has a task of
its own. -/
structure Known (h : Host) : Prop where
  named : ∀ e ∈ h.taskNames, e.2 < h.tasks.length ∧ ∃ id runs, (h.task e.2).body = .script id runs
  staged : ∀ {d s}, (h.device d).staging = some s →
    s.task < h.tasks.length ∧ (h.task s.task).body = .transmit d
  own : ∀ {d t}, t < h.tasks.length → (h.task t).body = .transmit d →
    ∃ s, (h.device d).staging = some s ∧ s.task = t

theorem SameTasks.staging (k : SameTasks h h') (hs : (h'.device d).staging = some s) :
    ∃ s₀, (h.device d).staging = some s₀ ∧ s₀.queue = s.queue ∧ s₀.task = s.task := by
  have hp := k.post d
  rw [hs] at hp
  obtain ⟨s₀, h₀, he⟩ := Option.map_eq_some_iff.mp hp.symm
  exact ⟨s₀, h₀, congrArg Prod.fst he, congrArg Prod.snd he⟩

theorem SameTasks.staging' (k : SameTasks h h') (hs : (h.device d).staging = some s) :
    ∃ s', (h'.device d).staging = some s' ∧ s'.queue = s.queue ∧ s'.task = s.task :=
  SameTasks.staging ⟨k.names.symm, k.length.symm, fun t => (k.body t).symm, fun d => (k.post d).symm⟩ hs

theorem Known.sameTasks (hk : Known h) (k : SameTasks h h') : Known h' where
  named e he := by
    rw [k.names] at he
    rw [k.length, k.body]
    exact hk.named e he
  staged := by
    intro d s hs
    obtain ⟨s₀, h₀, -, ht⟩ := k.staging hs
    rw [k.length, k.body, ← ht]
    exact hk.staged h₀
  own := by
    intro d t ht hb
    rw [k.length] at ht
    rw [k.body] at hb
    obtain ⟨s, hs, rfl⟩ := hk.own ht hb
    obtain ⟨s', hs', -, ht'⟩ := k.staging' hs
    exact ⟨s', hs', ht'⟩

theorem getD_concat {α : Type} (l : List α) (a b : α) (i : Nat) :
    (l ++ [a]).getD i b = if i < l.length then l.getD i b else if i = l.length then a else b := by
  simp only [List.getD_eq_getElem?_getD, List.getElem?_append, List.getElem?_singleton]
  split_ifs <;> first | rfl | omega

theorem task_defineTask (id : Label) (runs : Script) (t : TaskId) :
    (((defineTask id runs).run h).2.task t) = if t < h.tasks.length then h.task t
      else if t = h.tasks.length then { body := .script id runs } else default :=
  getD_concat h.tasks _ default t

theorem Known.defineTask (hk : Known h) (id : Label) (runs : Script) :
    Known ((defineTask id runs).run h).2 := by
  have hb := task_defineTask (h := h) id runs
  have hl : (((Host.defineTask id runs).run h).2.tasks).length = h.tasks.length + 1 :=
    List.length_append
  refine ⟨fun e he => ?_, ?_, ?_⟩
  · rw [hl, hb]
    rcases List.mem_cons.mp he with rfl | he
    · simp
    · obtain ⟨ht, hs⟩ := hk.named e he
      rw [if_pos ht]
      exact ⟨Nat.lt_succ_of_lt ht, hs⟩
  · intro d s hs
    obtain ⟨ht, hs⟩ := hk.staged hs
    rw [hl, hb, if_pos ht]
    exact ⟨Nat.lt_succ_of_lt ht, hs⟩
  · intro d t ht hs
    rw [hl] at ht
    rw [hb] at hs
    by_cases h₁ : t < h.tasks.length
    · rw [if_pos h₁] at hs
      exact hk.own h₁ hs
    · have h₂ : t = h.tasks.length := by omega
      rw [if_neg h₁, if_pos h₂] at hs
      cases hs

section Attach

variable (v : DeviceSetup)

theorem device_attach (d : DeviceId) : (attach h v).device d =
    if d < h.devices.length then h.device d
    else if d = h.devices.length then
      { mac := v.mac, ip := v.ip, staging := v.queue.map (⟨·, h.tasks.length, []⟩) }
    else default := by
  unfold attach
  cases v.queue <;> exact getD_concat h.devices _ default d

theorem length_attach : (attach h v).tasks.length = h.tasks.length + v.queue.isSome.toNat := by
  unfold attach
  cases v.queue with
  | none => rfl
  | some q => exact List.length_append

theorem task_attach (t : TaskId) : (attach h v).task t =
    if t < h.tasks.length then h.task t
    else if t = h.tasks.length ∧ v.queue.isSome = true then { body := .transmit h.devices.length }
    else default := by
  unfold attach
  cases v.queue with
  | none =>
    split_ifs with ht hs
    · rfl
    · cases hs.2
    · exact List.getD_eq_default _ _ (Nat.not_lt.mp ht)
  | some q =>
    simp only [Option.isSome_some, and_true]
    exact getD_concat h.tasks _ default t

theorem taskNames_attach : (attach h v).taskNames = h.taskNames := by
  unfold attach
  split <;> rfl

/-- A device comes with a task of its own, if it stages frames. -/
theorem Known.attach (hk : Known h) : Known (attach h v) := by
  refine ⟨fun e he => ?_, fun {d s} hs => ?_, fun {d t} ht hb => ?_⟩
  · rw [taskNames_attach] at he
    obtain ⟨ht, hb⟩ := hk.named e he
    rw [length_attach, task_attach, if_pos ht]
    exact ⟨Nat.lt_add_right _ ht, hb⟩
  · rw [device_attach] at hs
    rw [length_attach, task_attach]
    split_ifs at hs with h₁ h₂
    · obtain ⟨ht, hb⟩ := hk.staged hs
      rw [if_pos ht]
      exact ⟨Nat.lt_add_right _ ht, hb⟩
    · obtain ⟨q, hq, rfl⟩ := Option.map_eq_some_iff.mp hs
      simp [hq, h₂]
    · cases hs
  · rw [length_attach] at ht
    rw [task_attach] at hb
    rw [device_attach]
    split_ifs at hb with h₁ h₂
    · obtain ⟨s, hs, rfl⟩ := hk.own h₁ hb
      have hd : d < h.devices.length := by
        refine Nat.lt_of_not_le fun hl => ?_
        rw [device, List.getD_eq_default _ _ hl] at hs
        cases hs
      exact ⟨s, by rw [if_pos hd, hs], rfl⟩
    · cases hb
      obtain ⟨q, hq⟩ := Option.isSome_iff_exists.mp h₂.2
      simp [hq, h₂.1]
    · cases hq : v.queue with
      | none => exact absurd (by simpa [hq] using ht) h₁
      | some q =>
        simp only [hq, Option.isSome_some, Bool.toNat_true, and_true] at ht h₂
        exact absurd (Nat.lt_of_le_of_ne (Nat.lt_succ_iff.mp ht) h₂) h₁

end Attach

/-- A task may be put on a queue; that of a device, on the queue of the device. -/
structure Postable (h : Host) (q : QueueId) (t : TaskId) : Prop where
  there : t < h.tasks.length
  home : ∀ {d s}, (h.device d).staging = some s → s.task = t → q = s.queue

theorem Known.script_of_name (hk : Known h) {id : Label} (hl : h.taskNames.lookup id = some t) :
    t < h.tasks.length ∧ ∃ id runs, (h.task t).body = .script id runs := by
  obtain ⟨l₁, l₂, he, -⟩ := List.lookup_eq_some_iff.mp hl
  exact hk.named (id, t) (by simp [he])

theorem Known.postable_name (hk : Known h) {id : Label} (hl : h.taskNames.lookup id = some t) :
    Postable h q t := by
  obtain ⟨ht, id, runs, hb⟩ := hk.script_of_name hl
  refine ⟨ht, ?_⟩
  rintro d s hs rfl
  cases hb.symm.trans (hk.staged hs).2

theorem Known.postable_staging (hk : Known h) (hs : (h.device d).staging = some s) :
    Postable h s.queue s.task := by
  refine ⟨(hk.staged hs).1, ?_⟩
  intro d' s' hs' ht
  -- two devices with one task are one
  have hb := (hk.staged hs').2
  rw [ht, (hk.staged hs).2] at hb
  cases hb
  rw [hs] at hs'
  cases hs'
  rfl

theorem Postable.sameTasks (hp : Postable h q t) (k : SameTasks h h') : Postable h' q t := by
  refine ⟨k.length ▸ hp.there, ?_⟩
  intro d s hs ht
  obtain ⟨s₀, h₀, hq, ht₀⟩ := k.staging hs
  exact (hp.home h₀ (ht₀.trans ht)).trans hq

/-! ## The discipline -/

/-- What was put on a queue was taken from it, in the same order, or waits there. -/
def Ordered (h : Host) : Prop := ∀ q, putOn q h.journal = startedOn q h.journal ++ h.queue q

theorem Ordered.put (ho : Ordered h) : Ordered ((put q j).run h).2 := by
  intro p
  rw [queue_put]
  change putOn p (.put q j :: h.journal) = startedOn p (.put q j :: h.journal) ++ _
  rw [putOn_put, startedOn_put, ho p, List.append_assoc]

theorem Ordered.taken (ho : Ordered h) (hq : h.queue q = j :: rest) :
    Ordered (h.taken q j rest) := by
  intro p
  rw [queue_taken]
  change putOn p (.started q j :: h.journal) = startedOn p (.started q j :: h.journal) ++ _
  rw [putOn_started, startedOn_started, ho p]
  by_cases hp : p = q
  · subst hp
    simp [hq]
  · simp [hp, Ne.symm hp]

/-- **A flagged task waits in one place**, another in none; the task of a device waits on the queue of
the device. -/
structure Disciplined (h : Host) : Prop extends Known h where
  count : ∀ t, h.places t = (h.task t).queued.toNat
  home : ∀ {q t d s}, .task t ∈ h.queue q → (h.device d).staging = some s → s.task = t → q = s.queue
  order : Ordered h

namespace Disciplined

theorem of_keepsJobs (hd : Disciplined h) (i : KeepsJobs h h') : Disciplined h' where
  toKnown := hd.sameTasks i.toSameTasks
  count t := by
    rw [i.queued, ← hd.count]
    exact congrArg (fun qs => List.countP _ (List.flatten qs)) i.queues
  home := by
    intro q t d s hm hs ht
    obtain ⟨s₀, h₀, hq, ht₀⟩ := i.staging hs
    have hm' : .task t ∈ h.queue q := by
      unfold queue at hm ⊢
      rwa [i.queues] at hm
    exact (hd.home hm' h₀ (ht₀.trans ht)).trans hq
  order q := by
    obtain ⟨new, he, hn⟩ := i.journal
    unfold queue
    rw [he, i.queues, putOn_append hn, startedOn_append hn]
    exact hd.order q

theorem queued_of_mem (hd : Disciplined h) (ht : .task t ∈ h.queue q) : (h.task t).queued = true := by
  have hp : 0 < h.places t := places_pos_iff.mpr ⟨q, ht⟩
  rw [hd.count] at hp
  by_cases hq : (h.task t).queued = true
  · exact hq
  · simp [hq] at hp

theorem there_of_mem (hd : Disciplined h) (ht : .task t ∈ h.queue q) : t < h.tasks.length := by
  refine Nat.lt_of_not_le fun hl => ?_
  have hq := hd.queued_of_mem ht
  rw [task, List.getD_eq_default _ _ hl] at hq
  cases hq

theorem put (hd : Disciplined h) (hj : ∀ t, j ≠ .task t) : Disciplined ((put q j).run h).2 where
  toKnown := hd.sameTasks ⟨rfl, rfl, fun _ => rfl, fun _ => rfl⟩
  count t := by
    rw [places_put, Job.isTask_eq_false hj]
    exact hd.count t
  home := by
    intro p t d s hm hs ht
    rw [queue_put] at hm
    refine hd.home ?_ hs ht
    by_cases hp : q = p <;> simp_all [Ne.symm (hj t)]
  order := hd.order.put

/-- **A task is put on a queue**, or waits already. -/
theorem enqueue (hd : Disciplined h) (hp : Postable h q t) : Disciplined ((enqueue q t).run h).2 := by
  rw [run_enqueue]
  split_ifs with hq
  · exact hd
  have k : SameTasks h ((modifyTask t ({ · with queued := true })).run h).2 := sameTasks_modifyTask true
  refine ⟨hd.sameTasks ⟨k.names, k.length, k.body, k.post⟩, fun t' => ?_, ?_, hd.order.put⟩
  · have hc := hd.count t'
    rw [places_put]
    change h.places t' + _ = Bool.toNat (Task.queued (task ((modifyTask t _).run h).2 t'))
    rw [queued_modifyTask, hc]
    by_cases ht : t = t'
    · subst ht
      simp [Job.isTask, hp.there, hq]
    · simp [Job.isTask, ht]
  · intro p t' d s hm hs ht
    rw [queue_put] at hm
    rcases List.mem_append.mp hm with hm | hm
    · exact hd.home hm hs ht
    · by_cases hpq : q = p
      · subst hpq
        simp at hm
        exact hp.home hs (ht.trans hm)
      · simp [hpq] at hm

theorem dequeued (hd : Disciplined h) (hq : h.queue q = .task t :: rest) :
    Disciplined ((dequeued t).run (h.taken q (.task t) rest)).2 := by
  have hm : .task t ∈ h.queue q := hq ▸ List.mem_cons_self
  have k : SameTasks (h.taken q (.task t) rest) ((Host.dequeued t).run (h.taken q (.task t) rest)).2 :=
    sameTasks_modifyTask false
  refine ⟨hd.sameTasks ⟨k.names, k.length, k.body, k.post⟩, fun t' => ?_, ?_, hd.order.taken hq⟩
  · have hc := hd.count t'
    have ht := places_taken (t := t') hq
    change (h.taken q (.task t) rest).places t' = Bool.toNat (Task.queued
      (task ((modifyTask t _).run (h.taken q (.task t) rest)).2 t'))
    rw [queued_modifyTask]
    change _ = (if t = t' ∧ t' < h.tasks.length then false else (h.task t').queued).toNat
    by_cases he : t = t'
    · subst he
      have := hd.queued_of_mem hm
      simp_all [Job.isTask, hd.there_of_mem hm]
    · have hj : (Job.task t).isTask t' = false := by simp [Job.isTask, he]
      rw [hj] at ht
      rw [if_neg (fun hc => he hc.1), ← hc]
      exact ht
  · intro p t' d s hm' hs ht
    exact hd.home (mem_of_taken hq hm') hs ht

theorem taken (hd : Disciplined h) (hj : ∀ t, j ≠ .task t) (hq : h.queue q = j :: rest) :
    Disciplined (h.taken q j rest) where
  toKnown := hd.sameTasks ⟨rfl, rfl, fun _ => rfl, fun _ => rfl⟩
  count t := by
    have hp := places_taken (t := t) hq
    rw [Job.isTask_eq_false hj] at hp
    exact hp.trans (hd.count t)
  home hm hs ht := hd.home (mem_of_taken hq hm) hs ht
  order := hd.order.taken hq

theorem defineTask (hd : Disciplined h) (id : Label) (runs : Script) :
    Disciplined ((defineTask id runs).run h).2 where
  toKnown := hd.toKnown.defineTask id runs
  count t := by
    change h.places t = ((h.tasks ++ [_]).getD t default).queued.toNat
    rw [getD_concat, hd.count, task]
    split_ifs with hl hl'
    · rfl
    · rw [List.getD_eq_default _ _ (by omega)]
      rfl
    · rw [List.getD_eq_default _ _ (by omega)]
  home hm hs ht := hd.home hm hs ht
  order := hd.order

theorem offer (hd : Disciplined h) (d : DeviceId) (f : Bytes) :
    Disciplined ((offer d f).run h).2 := by
  cases hs : (h.device d).staging with
  | none => exact hd.of_keepsJobs (keepsJobs_offer hs)
  | some s =>
    rw [run_offer hs]
    have i : KeepsJobs h ((stage d f).run h).2 := keepsJobs_stage d f
    exact (hd.of_keepsJobs i).enqueue ((hd.postable_staging hs).sameTasks i.toSameTasks)

theorem transmitNext (hd : Disciplined h) (d : DeviceId) : Disciplined ((transmitNext d).run h).2 := by
  rcases transmitNext_cases h d with ⟨-, he⟩ | ⟨s, f, rest, hs, -, he⟩
  · rw [he]
    exact hd
  · have i : KeepsJobs h ((handOver d f rest).run h).2 := keepsJobs_handOver d f rest
    rw [he]
    split_ifs
    · exact hd.of_keepsJobs i
    · exact (hd.of_keepsJobs i).enqueue ((hd.postable_staging hs).sameTasks i.toSameTasks)

theorem start (hd : Disciplined h) (hq : h.queue q = j :: rest) :
    Disciplined ((launch j).run (h.taken q j rest)).2 := by
  cases j with
  | frame | once => exact hd.taken nofun hq
  | task t =>
    have hd' := hd.dequeued hq
    rw [run_launch]
    generalize ((Host.dequeued t).run (h.taken q (.task t) rest)).2 = h₁ at hd' ⊢
    split
    · split_ifs
      · exact hd'.transmitNext _
      · exact hd'.of_keepsJobs (keepsJobs_record rfl)
    · exact hd'

theorem move (hd : Disciplined h) (hm : Move h h') : Disciplined h' := by
  cases hm with
  | keepsQueues i => exact hd.of_keepsJobs i.keepsJobs
  | offer d f => exact hd.offer d f
  | put q j hj => exact hd.put hj
  | enqueue q t ht =>
    obtain ⟨id, hl⟩ := ht
    exact hd.enqueue (hd.postable_name hl)
  | define id runs => exact hd.defineTask id runs

theorem shift (hd : Disciplined h) (hs : Shift h h') : Disciplined h' := by
  cases hs with
  | move hm => exact hd.move hm
  | drained q n _ => exact hd.of_keepsJobs (keepsJobs_record rfl)
  | start q j rest hq => exact hd.start hq

theorem attach (hd : Disciplined h) (hq : h.queues = []) (v : DeviceSetup) :
    Disciplined (attach h v) := by
  have hq' : (Host.attach h v).queues = h.queues ∧ (Host.attach h v).journal = h.journal := by
    unfold Host.attach
    split <;> exact ⟨rfl, rfl⟩
  refine ⟨hd.toKnown.attach v, fun t => ?_, fun {q t d s} hm _ _ => ?_, fun q => ?_⟩
  · have hp : (Host.attach h v).places t = h.places t := by
      unfold places
      rw [hq'.1]
    rw [hp, hd.count, task_attach]
    split_ifs with ht hs
    · rfl
    · rw [task, List.getD_eq_default _ _ (Nat.not_lt.mp ht)]
      rfl
    · rw [task, List.getD_eq_default _ _ (Nat.not_lt.mp ht)]
  · unfold queue at hm
    rw [hq'.1, hq] at hm
    cases hm
  · unfold queue
    rw [hq'.1, hq'.2]
    exact hd.order q

theorem shifts (hd : Disciplined h) (hs : Shifts h h') : Disciplined h' := by
  induction hs with
  | refl => exact hd
  | tail _ hs ih => exact ih.shift hs

end Disciplined

/-! ## Flags and places -/

theorem Disciplined.queued_iff (hd : Disciplined h) :
    (h.task t).queued = true ↔ ∃ q, .task t ∈ h.queue q := by
  rw [← places_pos_iff, hd.count]
  cases (h.task t).queued <;> simp

/-- A task that waits on two queues waits in two places. -/
theorem one_lt_places_of_ne (ht : .task t ∈ h.queue q) {p : QueueId} (hp : .task t ∈ h.queue p)
    (hn : p ≠ q) : 1 < h.places t := by
  have hc := countP_alterQueue (Job.isTask t) (fun _ => []) q h.queues
  have hq : 0 < (h.queue q).countP (Job.isTask t) :=
    List.countP_pos_iff.mpr ⟨_, ht, Job.isTask_iff.mpr rfl⟩
  have ho : 0 < ({ h with queues := alterQueue (fun _ => []) q h.queues } : Host).places t := by
    refine places_pos_iff.mpr ⟨p, ?_⟩
    unfold queue
    rw [getD_alterQueue, if_neg hn]
    exact hp
  simp only [List.countP_nil] at hc
  unfold places at ho ⊢
  unfold queue at hq
  dsimp only at ho
  omega

theorem Disciplined.once (hd : Disciplined h) (ht : .task t ∈ h.queue q) :
    (h.queue q).countP (Job.isTask t) = 1 ∧ ∀ p, .task t ∈ h.queue p → p = q := by
  have hc : h.places t = 1 := by rw [hd.count, hd.queued_of_mem ht]; rfl
  constructor
  · have hq : 0 < (h.queue q).countP (Job.isTask t) :=
      List.countP_pos_iff.mpr ⟨_, ht, Job.isTask_iff.mpr rfl⟩
    have := countP_le_places h q t
    omega
  · intro p hp
    by_cases hn : p = q
    · exact hn
    · have := one_lt_places_of_ne ht hp hn
      omega

theorem disciplined_start {s : Setup} {h : Host} (hs : start s = .ok h) : Disciplined h := by
  rw [(eq_of_start hs).2]
  refine (foldl_attach (P := fun h => Disciplined h ∧ h.queues = []) ?_ s.devices ?_).1
  · rintro h v ⟨hd, hq⟩
    refine ⟨hd.attach hq v, ?_⟩
    unfold attach
    split <;> exact hq
  · refine ⟨⟨⟨nofun, nofun, ?_⟩, fun t => rfl, nofun, fun q => rfl⟩, rfl⟩
    rintro d t ht
    exact absurd ht (Nat.not_lt_zero t)

end InetHost.Host
