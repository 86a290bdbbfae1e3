import InetHost.Proofs.Run.Deed
import InetHost.Proofs.Stream.ChoreCases

/-!
# What happens to queues

Little of what a host does concerns its queues. A `Shift` is one such thing, with what is known when
it happens, or something that leaves the queues alone. The start of a job is one shift: the job is
taken from its queue, a task is marked as off its queue, and the task of a device transmits a frame.
No application code runs in between.

* `KeepsQueues`: queues, tasks and staged frames stay as they are;
* `launch`: what a job does at once when it is started;
* `Move`: what happens to queues where none is polled; `move_of_deed`: a deed is a move;
* `Shift`, `Shifts`: what happens to queues;
* **`shifts_leads`**: whatever a host comes to, it comes to by shifts.
-/

namespace InetHost

/-- Something happened to a queue, to the frames of a device or to its hardware. -/
def Event.onQueue : Event → Bool
  | .offered _ _ _ | .transmitted _ _ _ | .wire _ _ | .put _ _ | .started _ _ | .drained _ _
  | .deserted _ | .noticed (.transmitFailed _ _) => true
  | _ => false

theorem Event.onQueue_of_onBoard {e : Event} (he : e.onBoard = true) : e.onQueue = false := by
  cases e <;> first | rfl | cases he

theorem Event.onQueue_of_isRemark {e : Event} (he : e.isRemark = true) : e.onQueue = false := by
  cases e with
  | noticed n => cases n <;> first | rfl | cases he
  | crafting | crafted => rfl
  | _ => cases he

namespace Host

variable {h h₁ h' : Host}

/-! ## Hosts at rest -/

/-- **Queues, tasks and staged frames stay as they are**, but for how often a task ran. -/
structure KeepsQueues (h h' : Host) : Prop where
  queues : h'.queues = h.queues
  names : h'.taskNames = h.taskNames
  length : h'.tasks.length = h.tasks.length
  body : ∀ t, (h'.task t).body = (h.task t).body
  queued : ∀ t, (h'.task t).queued = (h.task t).queued
  staging : ∀ d, (h'.device d).staging = (h.device d).staging
  ip : ∀ d, (h'.device d).ip = (h.device d).ip
  held : ∀ d, (h'.device d).held = true → (h.device d).held = true
  journal : ∃ new, h'.journal = new ++ h.journal ∧ ∀ e ∈ new, e.onQueue = false

theorem keepsQueues_of_eq (hq : h₁.queues = h.queues) (hn : h₁.taskNames = h.taskNames)
    (ht : h₁.tasks = h.tasks) (hd : h₁.devices = h.devices) (hj : h₁.journal = h.journal) :
    KeepsQueues h h₁ := by
  have ht' : ∀ t, h₁.task t = h.task t := fun t => congrArg (·.getD t default) ht
  have hd' : ∀ d, h₁.device d = h.device d := fun d => congrArg (·.getD d default) hd
  exact ⟨hq, hn, by rw [ht], fun t => by rw [ht'], fun t => by rw [ht'], fun d => by rw [hd'],
    fun d => by rw [hd'], fun d => by rw [hd']; exact id, [], hj, List.forall_mem_nil _⟩

theorem KeepsQueues.refl (h : Host) : KeepsQueues h h := keepsQueues_of_eq rfl rfl rfl rfl rfl

theorem KeepsQueues.trans (s₁ : KeepsQueues h h₁) (s₂ : KeepsQueues h₁ h') : KeepsQueues h h' where
  queues := s₂.queues.trans s₁.queues
  names := s₂.names.trans s₁.names
  length := s₂.length.trans s₁.length
  body t := (s₂.body t).trans (s₁.body t)
  queued t := (s₂.queued t).trans (s₁.queued t)
  staging d := (s₂.staging d).trans (s₁.staging d)
  ip d := (s₂.ip d).trans (s₁.ip d)
  held d hd := s₁.held d (s₂.held d hd)
  journal := extends_trans s₁.journal s₂.journal

instance : Std.Refl KeepsQueues := ⟨KeepsQueues.refl⟩

instance : IsTrans Host KeepsQueues := ⟨fun _ _ _ => KeepsQueues.trans⟩

theorem keepsQueues_record {e : Event} (he : e.onQueue = false) : Does KeepsQueues h (record e) :=
  ⟨rfl, rfl, rfl, fun _ => rfl, fun _ => rfl, fun _ => rfl, fun _ => rfl, fun _ => id, [e], rfl,
    fun _ hx => List.mem_singleton.mp hx ▸ he⟩

theorem getD_modify {α : Type} (f : α → α) (l : List α) (i j : Nat) (a : α) :
    (l.modify i f).getD j a = if i = j ∧ j < l.length then f (l.getD j a) else l.getD j a := by
  rw [List.getD_eq_getElem?_getD, List.getElem?_modify, List.getD_eq_getElem?_getD]
  by_cases hj : j < l.length
  · by_cases hi : i = j <;> simp [hj, hi]
  · simp [hj]

theorem getD_modify_of {α β : Type} {f : α → α} {g : α → β} (hg : ∀ a, g (f a) = g a) (l : List α)
    (i j : Nat) (a : α) : g ((l.modify i f).getD j a) = g (l.getD j a) := by
  rw [getD_modify]
  split_ifs
  · exact hg _
  · rfl

theorem keepsQueues_device {d : DeviceId} {f : Device → Device}
    (hf : ∀ v, (f v).mac = v.mac ∧ (f v).ip = v.ip ∧ (f v).staging = v.staging ∧
      ((f v).held = true → v.held = true)) :
    KeepsQueues h { h with devices := h.devices.modify d f } := by
  refine ⟨rfl, rfl, rfl, fun _ => rfl, fun _ => rfl,
    fun d' => getD_modify_of (g := Device.staging) (fun v => (hf v).2.2.1) h.devices d d' default,
    fun d' => getD_modify_of (g := Device.ip) (fun v => (hf v).2.1) h.devices d d' default,
    fun d' hh => ?_, [], rfl, List.forall_mem_nil _⟩
  change ((h.devices.modify d f).getD d' default).held = true at hh
  rw [getD_modify] at hh
  split_ifs at hh
  · exact (hf _).2.2.2 hh
  · exact hh

theorem keepsQueues_countRun (t : TaskId) (n : Nat) :
    Does KeepsQueues h (modifyTask t ({ · with runs := n })) :=
  ⟨rfl, rfl, List.length_modify ..,
    fun t' => getD_modify_of (f := ({ · with runs := n })) (fun _ => rfl) h.tasks t t' default,
    fun t' => getD_modify_of (f := ({ · with runs := n })) (fun _ => rfl) h.tasks t t' default,
    fun _ => rfl, fun _ => rfl, fun _ => id, [], rfl, List.forall_mem_nil _⟩

theorem keepsQueues_register (d : DeviceId) : Does KeepsQueues h (register d) := by
  refine Does.bind (keepsQueues_record rfl) (Does.get ?_)
  dsimp only
  split
  · exact Does.bind (x := note _) (keepsQueues_record rfl) (keepsQueues_of_eq rfl rfl rfl rfl rfl)
  · exact Does.pure _

theorem keepsQueues_store (ip : Ip) (mac : Mac) : Does KeepsQueues h (store ip mac) := by
  refine Does.get ?_
  split
  · refine Does.bind (x := modify _) (keepsQueues_of_eq rfl rfl rfl rfl rfl) ?_
    exact Does.bind (keepsQueues_record rfl) (Does.pure _)
  · exact Does.bind (keepsQueues_record rfl) (Does.bind (x := note _) (keepsQueues_record rfl) (Does.pure _))

theorem keepsQueues_listen (port : UInt16) (service : StreamService) :
    Does KeepsQueues h (listen port service) := by
  refine Does.get ?_
  split
  · exact Does.pure _
  · exact Does.bind (x := modify _) (keepsQueues_of_eq rfl rfl rfl rfl rfl) (Does.pure _)

/-! ## Shifts -/

/-- What a job does at once when it is started: a task is marked as off its queue, and the task of a
device hands a frame over. -/
def launch : Job → Act Unit
  | .task t => do
    dequeued t
    let k := (← get).task t
    match k.body with
    | .transmit d => if (← get).alive d then transmitNext d else record (.deserted d)
    | .script _ _ => pure ()
  | _ => pure ()

/-- Something that may happen to the queues of a host where none is polled. -/
inductive Move (h : Host) : Host → Prop
  | keepsQueues {h' : Host} (hs : KeepsQueues h h') : Move h h'
  | offer (d : DeviceId) (f : Bytes) : Move h ((offer d f).run h).2
  | put (q : QueueId) (j : Job) (hj : ∀ t, j ≠ .task t) : Move h ((put q j).run h).2
  | enqueue (q : QueueId) (t : TaskId) (ht : ∃ id, h.taskNames.lookup id = some t) :
    Move h ((enqueue q t).run h).2
  | define (id : Label) (runs : Script) : Move h ((defineTask id runs).run h).2

/-- Something that may happen to the queues of a host. -/
inductive Shift (h : Host) : Host → Prop
  | move {h' : Host} (hm : Move h h') : Shift h h'
  | drained (q : QueueId) (n : Nat) (hq : h.queue q = []) : Shift h ((record (.drained q n)).run h).2
  | start (q : QueueId) (j : Job) (rest : List Job) (hq : h.queue q = j :: rest) :
    Shift h ((launch j).run (h.taken q j rest)).2

/-- Shifts, one after another. -/
abbrev Shifts : Host → Host → Prop := Relation.ReflTransGen Shift

theorem move_of_deed (hd : Deed h h') : Move h h' := by
  cases hd with
  | enter e he => exact .keepsQueues (keepsQueues_record (Event.onQueue_of_onBoard he))
  | connections ks ss => exact .keepsQueues (keepsQueues_of_eq rfl rfl rfl rfl rfl)
  | chore hc =>
    cases hc with
    | record e he => exact .keepsQueues (keepsQueues_record (Event.onQueue_of_isRemark he))
    | offer d f _ => exact .offer d f
    | put q j hj => exact .put q j hj
    | enqueue q t ht => exact .enqueue q t ht
    | defineTask id runs => exact .define id runs
    | register d => exact .keepsQueues (keepsQueues_register d)
    | store ip mac => exact .keepsQueues (keepsQueues_store ip mac)
    | listen port service => exact .keepsQueues (keepsQueues_listen port service)
    | countRun t n => exact .keepsQueues (keepsQueues_countRun t n)
    | device d f hf => exact .keepsQueues (keepsQueues_device hf)
    | subscribe | countAccept | countNotify | countRead | lend =>
      exact .keepsQueues (keepsQueues_of_eq rfl rfl rfl rfl rfl)

/-! ## Every run -/

theorem composes_shifts : Composes fun _ => Shifts :=
  ⟨fun _ => .refl, fun _ => .refl, fun h₁₂ h₂₃ => h₁₂.trans h₂₃⟩

theorem serves_shifts : Serves fun _ => Shifts :=
  serves_of_deed composes_shifts fun hd => .single (.move (move_of_deed hd))

section Inner

variable {inner : Exec} (hi : ∀ x op h, Within (fun _ => Shifts) h (inner x op))

include hi

theorem shifts_runJob {q : QueueId} {j : Job} {rest : List Job} (hq : h.queue q = j :: rest) :
    Shifts h ((runJob inner j).run (h.taken q j rest)).2 := by
  have hs : Shifts h ((launch j).run (h.taken q j rest)).2 := .single (.start q j rest hq)
  cases j with
  | frame d b => exact hs.trans (serves_shifts.runJob hi (j := .frame d b) nofun _)
  | once id ops => exact hs.trans (serves_shifts.runJob hi (j := .once id ops) nofun _)
  | task t =>
    generalize h.taken q (.task t) rest = h₁ at hs ⊢
    change Shifts h ((runTask inner t).run h₁).2
    unfold launch at hs
    unfold runTask
    rw [run_act, run_get]
    rw [StateT.run_bind] at hs
    change Shifts h ((_ : Act Unit).run ((dequeued t).run h₁).2).2 at hs
    generalize ((dequeued t).run h₁).2 = h₂ at hs ⊢
    rw [act_get] at hs
    dsimp only at hs ⊢
    generalize (h₂.task t).body = body at hs ⊢
    cases body with
    | transmit d =>
      dsimp only at hs ⊢
      rw [run_get]
      rw [act_get] at hs
      split_ifs at hs ⊢ <;> exact hs
    | script id runs => exact hs.trans (serves_shifts.runCode hi t id runs _ h₂)

theorem shifts_drain (q : QueueId) (fuel n : Nat) (h : Host) :
    Within (fun _ => Shifts) h (drain inner q fuel n) := by
  induction fuel generalizing n h with
  | zero => exact Within.failure composes_shifts
  | succ fuel ih =>
    cases hq : h.queue q with
    | nil =>
      unfold Within
      rw [run_drain_empty hq]
      exact .single (.drained q n hq)
    | cons j rest =>
      have hs := shifts_runJob hi hq
      unfold Within
      rw [run_drain_next (run_next hq), run_bind]
      generalize (runJob inner j).run (h.taken q j rest) = r at hs ⊢
      obtain ⟨a, h₁⟩ := r
      cases a with
      | none => exact hs
      | some _ => exact hs.trans (ih (n + 1) h₁)

end Inner

/-- **Whatever a host comes to** it comes to by shifts. -/
theorem shifts_leads {e : Bool} (hl : Leads e h h') : Shifts h h' :=
  serves_shifts.leads (fun _ hi q fuel h => shifts_drain hi q fuel 0 h) hl

end Host

end InetHost
