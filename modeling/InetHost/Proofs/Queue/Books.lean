import InetHost.Proofs.Queue.Ledger

/-!
# The books of frames

A device with staging keeps the frames that it is asked to send, and its task hands them to the
hardware, one a run.

* `asked`, `handed`, `wired`, `warnings`: what the journal tells of frames;
* `Books`: what was handed over and what waits is what was asked for, and what is on the wire is what
  the hardware took; there is a warning for everything else;
* `Books.stage`, `Books.handOver`, `Books.offer`: one lemma for each thing that happens to frames;
* **`Books.shift`**: so it stays.
-/

namespace InetHost

/-! ## What the journal tells of frames -/

/-- The frame that a device was asked to send. -/
def Event.askedOf (d : DeviceId) : Event → Option Bytes
  | .offered e f _ => if e = d then some f else none
  | _ => none

/-- The frame that the hardware of a device was given, and how it took it. -/
def Event.handedTo (d : DeviceId) : Event → Option (Bytes × Option Refusal)
  | .transmitted e f r => if e = d then some (f, r) else none
  | _ => none

/-- The frame that a device put on the wire. -/
def Event.wiredBy (d : DeviceId) : Event → Option Bytes
  | .wire e f => if e = d then some f else none
  | _ => none

/-- A warning that the hardware of a device failed. -/
def Event.warning : Event → Option (Ip × NetError)
  | .noticed (.transmitFailed ip e) => some (ip, e)
  | _ => none

/-- What was picked from the events of a journal, the first first. -/
def inOrder {α : Type} (g : Event → Option α) (j : List Event) : List α := (j.filterMap g).reverse

theorem inOrder_eq_nil {α : Type} {g : Event → Option α} {j : List Event}
    (hn : ∀ e ∈ j, g e = none) : inOrder g j = [] := by
  unfold inOrder
  rw [List.filterMap_eq_nil_iff.mpr hn, List.reverse_nil]

theorem inOrder_both {α : Type} (g : Event → Option α) (new j : List Event) :
    inOrder g (new ++ j) = inOrder g j ++ inOrder g new := by
  unfold inOrder
  rw [List.filterMap_append, List.reverse_append]

theorem inOrder_append {α : Type} {g : Event → Option α} {new j : List Event}
    (hn : ∀ e ∈ new, g e = none) : inOrder g (new ++ j) = inOrder g j := by
  rw [inOrder_both, inOrder_eq_nil hn, List.append_nil]

theorem inOrder_cons {α : Type} (g : Event → Option α) (e : Event) (j : List Event) :
    inOrder g (e :: j) = inOrder g j ++ (g e).toList := by
  cases h : g e <;> simp [inOrder, h]

/-- The frames that a device was asked to send. -/
def asked (d : DeviceId) (j : List Event) : List Bytes := inOrder (Event.askedOf d) j

/-- The frames that the hardware of a device was given, and how it took them. -/
def handed (d : DeviceId) (j : List Event) : List (Bytes × Option Refusal) :=
  inOrder (Event.handedTo d) j

/-- The frames that a device put on the wire. -/
def wired (d : DeviceId) (j : List Event) : List Bytes := inOrder (Event.wiredBy d) j

/-- The warnings that hardware failed. -/
def warnings (j : List Event) : List (Ip × NetError) := inOrder Event.warning j

section Cons

variable (d : DeviceId) (e : Event) (j : List Event)

@[simp]
theorem asked_cons : asked d (e :: j) = asked d j ++ (e.askedOf d).toList := inOrder_cons _ e j

@[simp]
theorem handed_cons : handed d (e :: j) = handed d j ++ (e.handedTo d).toList := inOrder_cons _ e j

@[simp]
theorem wired_cons : wired d (e :: j) = wired d j ++ (e.wiredBy d).toList := inOrder_cons _ e j

@[simp]
theorem warnings_cons : warnings (e :: j) = warnings j ++ e.warning.toList := inOrder_cons _ e j

end Cons

section

variable {e : Event} (he : e.onFrame = false) (d : DeviceId)

include he

theorem Event.askedOf_eq_none : e.askedOf d = none := by
  cases e <;> first | rfl | cases he

theorem Event.handedTo_eq_none : e.handedTo d = none := by
  cases e <;> first | rfl | cases he

theorem Event.wiredBy_eq_none : e.wiredBy d = none := by
  cases e <;> first | rfl | cases he

omit d in
theorem Event.warning_eq_none : e.warning = none := by
  cases e with
  | noticed n => cases n <;> first | rfl | cases he
  | _ => rfl

end

namespace Host

variable {h h' : Host} {q : QueueId} {t : TaskId} {d : DeviceId} {f : Bytes} {s : Staging} {j : Job}
  {rest : List Bytes} {jobs : List Job}

/-- A frame that the hardware of a device with staging did not take. -/
def failedAt (h : Host) : Event → Option (Ip × NetError)
  | .transmitted d _ (some r) =>
    if (h.device d).staging.isSome then some ((h.device d).ip, .refused r) else none
  | _ => none

/-- The failures of the hardware behind devices with staging. -/
def failures (h : Host) (j : List Event) : List (Ip × NetError) := inOrder h.failedAt j

@[simp]
theorem failures_cons (h : Host) (e : Event) (j : List Event) :
    h.failures (e :: j) = h.failures j ++ (h.failedAt e).toList :=
  inOrder_cons _ e j

theorem failures_congr (hi : ∀ d, (h'.device d).ip = (h.device d).ip)
    (hs : ∀ d, (h'.device d).staging.isSome = (h.device d).staging.isSome) (j : List Event) :
    h'.failures j = h.failures j := by
  have hf : h'.failedAt = h.failedAt := by
    funext e
    cases e with
    | transmitted d f r => cases r <;> simp [failedAt, hi, hs]
    | _ => rfl
  rw [failures, failures, hf]

theorem failedAt_eq_none {e : Event} (he : e.onFrame = false) : h.failedAt e = none := by
  cases e <;> first | rfl | cases he

/-! ## The books -/

/-- **Every frame is accounted for.** -/
structure Books (h : Host) : Prop where
  frames : ∀ {d s}, (h.device d).staging = some s →
    (handed d h.journal).map Prod.fst ++ s.frames = asked d h.journal
  wires : ∀ d, wired d h.journal = ((handed d h.journal).filter (·.2.isNone)).map Prod.fst
  warned : warnings h.journal = failures h h.journal

/-- Nothing happened to a frame. -/
structure KeepsFrames (h h' : Host) : Prop where
  staging : ∀ d, (h'.device d).staging = (h.device d).staging
  ip : ∀ d, (h'.device d).ip = (h.device d).ip
  journal : ∃ new, h'.journal = new ++ h.journal ∧ ∀ e ∈ new, e.onFrame = false

instance : Std.Refl KeepsFrames :=
  ⟨fun _ => ⟨fun _ => rfl, fun _ => rfl, [], rfl, List.forall_mem_nil _⟩⟩

instance : IsTrans Host KeepsFrames where
  trans _ _ _ u₁ u₂ :=
    ⟨fun d => (u₂.staging d).trans (u₁.staging d), fun d => (u₂.ip d).trans (u₁.ip d),
      extends_trans u₁.journal u₂.journal⟩

theorem KeepsQueues.keepsFrames (i : KeepsQueues h h') : KeepsFrames h h' := by
  refine ⟨i.staging, i.ip, ?_⟩
  obtain ⟨new, he, hn⟩ := i.journal
  refine ⟨new, he, fun e h => ?_⟩
  have := hn e h
  cases e with
  | noticed n => cases n <;> first | rfl | cases this
  | _ => first | rfl | cases this

theorem keepsFrames_record {e : Event} (he : e.onFrame = false) : Does KeepsFrames h (record e) :=
  ⟨fun _ => rfl, fun _ => rfl, [e], rfl, fun _ hx => List.mem_singleton.mp hx ▸ he⟩

theorem keepsFrames_of_eq (hd : h'.devices = h.devices) (hj : h'.journal = h.journal) :
    KeepsFrames h h' := by
  have hd' : ∀ d, h'.device d = h.device d := fun d => congrArg (·.getD d default) hd
  exact ⟨fun d => by rw [hd'], fun d => by rw [hd'], [], hj, List.forall_mem_nil _⟩

theorem keepsFrames_put (q : QueueId) (j : Job) : Does KeepsFrames h (put q j) :=
  Does.bind (x := modify _) (keepsFrames_of_eq rfl rfl) (keepsFrames_record rfl)

theorem keepsFrames_taken (h : Host) (q : QueueId) (j : Job) (jobs : List Job) :
    KeepsFrames h (h.taken q j jobs) :=
  ⟨fun _ => rfl, fun _ => rfl, [.started q j], rfl, fun _ hx => List.mem_singleton.mp hx ▸ rfl⟩

theorem keepsFrames_enqueue (q : QueueId) (t : TaskId) : Does KeepsFrames h (enqueue q t) := by
  refine Does.get ?_
  split
  · exact Does.pure _
  · exact Does.bind (x := modifyTask t _) (keepsFrames_of_eq rfl rfl) (keepsFrames_put q _)

theorem KeepsFrames.inOrder_eq (u : KeepsFrames h h') {α : Type} {g : Event → Option α}
    (hg : ∀ e : Event, e.onFrame = false → g e = none) :
    inOrder g h'.journal = inOrder g h.journal := by
  obtain ⟨new, he, hn⟩ := u.journal
  rw [he]
  exact inOrder_append fun e h => hg e (hn e h)

theorem KeepsFrames.asked_eq (u : KeepsFrames h h') (d : DeviceId) :
    asked d h'.journal = asked d h.journal :=
  u.inOrder_eq fun _ he => Event.askedOf_eq_none he d

theorem KeepsFrames.handed_eq (u : KeepsFrames h h') (d : DeviceId) :
    handed d h'.journal = handed d h.journal :=
  u.inOrder_eq fun _ he => Event.handedTo_eq_none he d

theorem KeepsFrames.wired_eq (u : KeepsFrames h h') (d : DeviceId) :
    wired d h'.journal = wired d h.journal :=
  u.inOrder_eq fun _ he => Event.wiredBy_eq_none he d

theorem Books.of_keepsFrames (b : Books h) (u : KeepsFrames h h') : Books h' := by
  have hv : warnings h'.journal = warnings h.journal :=
    u.inOrder_eq fun _ he => Event.warning_eq_none he
  have hf : h.failures h'.journal = h.failures h.journal :=
    u.inOrder_eq fun _ he => failedAt_eq_none he
  refine ⟨fun {d s} hs => ?_, fun d => ?_, ?_⟩
  · rw [u.staging] at hs
    rw [u.asked_eq, u.handed_eq, b.frames hs]
  · rw [u.handed_eq, u.wired_eq, b.wires]
  · rw [failures_congr u.ip fun d => by rw [u.staging], hv, hf, b.warned]

theorem staging_modifyStaged (d : DeviceId) (g : List Bytes → List Bytes) (e : DeviceId) :
    (((modifyStaged d g).run h).2.device e).staging = if d = e then
      (h.device e).staging.map fun s => { s with frames := g s.frames } else (h.device e).staging := by
  change ((h.devices.modify d _).getD e default).staging = _
  rw [getD_modify]
  by_cases he : e < h.devices.length
  · by_cases hd : d = e <;> simp [hd, he, device]
  · rw [if_neg fun hc => he hc.2, device, List.getD_eq_default _ _ (Nat.not_lt.mp he)]
    split <;> rfl

theorem ip_modifyStaged (d : DeviceId) (g : List Bytes → List Bytes) (e : DeviceId) :
    (((modifyStaged d g).run h).2.device e).ip = (h.device e).ip := by
  refine getD_modify_of (g := Device.ip) (fun v => ?_) h.devices d e default
  rfl

/-! ### A frame is handed over -/

/-- What happens when the hardware is given a frame, the last first. -/
def transmission (d : DeviceId) (f : Bytes) : Option Refusal → List Event
  | none => [.wire d f, .transmitted d f none]
  | some r => [.transmitted d f (some r)]

/-- What happens when the task of a device hands over a frame, the last first. -/
def handing (ip : Ip) (d : DeviceId) (f : Bytes) : Option Refusal → List Event
  | none => transmission d f none
  | some r => .noticed (.transmitFailed ip (.refused r)) :: transmission d f (some r)

theorem run_transmit (h : Host) (d : DeviceId) (f : Bytes) :
    (transmit d f).run h =
      ((match (h.device d).failure with | none => .ok () | some r => .error (.refused r)),
        { ((useHardware d).run h).2 with
          journal := transmission d f (h.device d).failure ++ h.journal }) := by
  unfold transmit
  rw [act_get]
  dsimp only
  cases (h.device d).failure <;> rfl

/-- A device without staging gives a frame to its hardware at once. -/
theorem run_offer_direct (hs : (h.device d).staging = none) (f : Bytes) :
    (offer d f).run h =
      ((match (h.device d).failure with | none => .ok () | some r => .error (.refused r)),
        { ((useHardware d).run h).2 with
          journal := transmission d f (h.device d).failure ++
            .offered d f (h.device d).failure :: h.journal }) := by
  unfold offer
  rw [act_get]
  dsimp only
  rw [hs]
  dsimp only
  rw [StateT.run_bind]
  change (transmit d f).run _ = _
  rw [run_transmit]
  rfl

theorem keepsFrames_useHardware (d : DeviceId) : Does KeepsFrames h (useHardware d) :=
  KeepsQueues.keepsFrames (keepsQueues_device fun _ => ⟨rfl, rfl, rfl, id⟩)

theorem run_handOver (h : Host) (d : DeviceId) (f : Bytes) (rest : List Bytes) : ∃ r,
    ((handOver d f rest).run h).2 =
      { ((useHardware d).run ((modifyStaged d fun _ => rest).run h).2).2 with
        journal := handing (h.device d).ip d f r ++ h.journal } := by
  unfold handOver
  rw [act_get, StateT.run_bind]
  change ∃ r, ((_ : Act Unit).run ((modifyStaged d fun _ => rest).run h).2).2 = _
  rw [StateT.run_bind, run_transmit]
  cases (((modifyStaged d fun _ => rest).run h).2.device d).failure with
  | none => exact ⟨none, rfl⟩
  | some r => exact ⟨some r, rfl⟩

theorem staging_handOver (d : DeviceId) (f : Bytes) (rest : List Bytes) (e : DeviceId) :
    (((handOver d f rest).run h).2.device e).staging = if d = e then
      (h.device e).staging.map fun s => { s with frames := rest } else (h.device e).staging := by
  obtain ⟨r, hr⟩ := run_handOver h d f rest
  rw [hr]
  exact ((keepsFrames_useHardware d).staging e).trans (staging_modifyStaged d (fun _ => rest) e)

theorem ip_handOver (d : DeviceId) (f : Bytes) (rest : List Bytes) (e : DeviceId) :
    (((handOver d f rest).run h).2.device e).ip = (h.device e).ip := by
  obtain ⟨r, hr⟩ := run_handOver h d f rest
  rw [hr]
  exact ((keepsFrames_useHardware d).ip e).trans (ip_modifyStaged d (fun _ => rest) e)

namespace Books

/-- **A frame joins those that wait.** -/
theorem stage (b : Books h) (d : DeviceId) (f : Bytes) : Books ((stage d f).run h).2 := by
  have hs : ∀ e, (((Host.stage d f).run h).2.device e).staging = if d = e then
      (h.device e).staging.map fun s => { s with frames := s.frames ++ [f] }
      else (h.device e).staging := staging_modifyStaged d (· ++ [f])
  have hi : ∀ e, (((Host.stage d f).run h).2.device e).ip = (h.device e).ip :=
    ip_modifyStaged d (· ++ [f])
  have hj : ((Host.stage d f).run h).2.journal = .offered d f none :: h.journal := rfl
  refine ⟨fun {e s} he => ?_, fun e => ?_, ?_⟩
  · rw [hs] at he
    split_ifs at he with hd
    · subst hd
      obtain ⟨s₀, h₀, rfl⟩ := Option.map_eq_some_iff.mp he
      simp [hj, Event.askedOf, Event.handedTo, ← b.frames h₀]
    · simp [hj, Event.askedOf, Event.handedTo, hd, b.frames he]
  · simp [hj, Event.wiredBy, Event.handedTo, b.wires e]
  · rw [failures_congr hi fun e => by rw [hs]; split <;> simp]
    simp [hj, Event.warning, failedAt, b.warned]

/-- **The first of the frames that wait is handed over**, and waits no more, whatever becomes of it. -/
theorem handOver (b : Books h) (hs : (h.device d).staging = some s) (hf : s.frames = f :: rest) :
    Books ((handOver d f rest).run h).2 := by
  have hs' := staging_handOver (h := h) d f rest
  have hj : ∃ r, ((Host.handOver d f rest).run h).2.journal =
      handing (h.device d).ip d f r ++ h.journal := by
    obtain ⟨r, hr⟩ := run_handOver h d f rest
    exact ⟨r, by rw [hr]⟩
  obtain ⟨r, hj⟩ := hj
  refine ⟨fun {e s'} he => ?_, fun e => ?_, ?_⟩
  · rw [hs'] at he
    split_ifs at he with hd
    · subst hd
      rw [hs] at he
      cases he
      have hb := b.frames hs
      cases r <;> simp [hj, handing, transmission, Event.askedOf, Event.handedTo, ← hb, hf]
    · cases r <;>
        simp [hj, handing, transmission, Event.askedOf, Event.handedTo, hd, b.frames he]
  · by_cases hd : d = e
    · subst hd
      cases r <;> simp [hj, handing, transmission, Event.wiredBy, Event.handedTo, b.wires d]
    · cases r <;> simp [hj, handing, transmission, Event.wiredBy, Event.handedTo, hd, b.wires e]
  · rw [failures_congr (ip_handOver d f rest) fun e => by rw [hs']; split <;> simp]
    cases r <;> simp [hj, handing, transmission, Event.warning, failedAt, hs, b.warned]

/-- **A frame is transmitted at once.** -/
theorem offer (b : Books h) (hs : (h.device d).staging = none) (f : Bytes) :
    Books ((offer d f).run h).2 := by
  have ho := congrArg Prod.snd (run_offer_direct hs f)
  have hu : KeepsFrames h ((useHardware d).run h).2 := keepsFrames_useHardware d
  have hs' : ∀ e, (((Host.offer d f).run h).2.device e).staging = (h.device e).staging := fun e => by
    rw [ho]
    exact hu.staging e
  have hi : ∀ e, (((Host.offer d f).run h).2.device e).ip = (h.device e).ip := fun e => by
    rw [ho]
    exact hu.ip e
  have hj : ((Host.offer d f).run h).2.journal = transmission d f (h.device d).failure ++
    .offered d f (h.device d).failure :: h.journal := by rw [ho]
  generalize (h.device d).failure = r at hj
  refine ⟨fun {e s} he => ?_, fun e => ?_, ?_⟩
  · rw [hs'] at he
    have hd : d ≠ e := by
      rintro rfl
      rw [hs] at he
      cases he
    cases r <;> simp [hj, transmission, Event.askedOf, Event.handedTo, hd, b.frames he]
  · by_cases hd : d = e
    · subst hd
      cases r <;> simp [hj, transmission, Event.wiredBy, Event.handedTo, b.wires d]
    · cases r <;> simp [hj, transmission, Event.wiredBy, Event.handedTo, hd, b.wires e]
  · rw [failures_congr hi fun e => by rw [hs']]
    cases r <;> simp [hj, transmission, Event.warning, failedAt, hs, b.warned]

theorem move (b : Books h) (hm : Move h h') : Books h' := by
  cases hm with
  | keepsQueues i => exact b.of_keepsFrames i.keepsFrames
  | offer d f =>
    cases hs : (h.device d).staging with
    | none => exact b.offer hs f
    | some s =>
      rw [run_offer hs]
      exact (b.stage d f).of_keepsFrames (keepsFrames_enqueue _ _)
  | put q j => exact b.of_keepsFrames (keepsFrames_put q j)
  | enqueue q t => exact b.of_keepsFrames (keepsFrames_enqueue q t)
  | define id runs => exact b.of_keepsFrames (keepsFrames_of_eq rfl rfl)

theorem transmitNext (b : Books h) (d : DeviceId) : Books ((transmitNext d).run h).2 := by
  rcases transmitNext_cases h d with ⟨-, he⟩ | ⟨s, f, rest, hs, hf, he⟩
  · rw [he]
    exact b
  · have b' := b.handOver hs hf
    rw [he]
    split_ifs
    · exact b'
    · exact b'.of_keepsFrames (keepsFrames_enqueue _ _)

theorem shift (b : Books h) (hs : Shift h h') : Books h' := by
  cases hs with
  | move hm => exact b.move hm
  | drained q n => exact b.of_keepsFrames (keepsFrames_record rfl)
  | start q j jobs hq =>
    have b' := b.of_keepsFrames (keepsFrames_taken h q j jobs)
    generalize h.taken q j jobs = h₁ at b' ⊢
    cases j with
    | frame | once => exact b'
    | task t =>
      have b₂ : Books ((dequeued t).run h₁).2 := b'.of_keepsFrames (keepsFrames_of_eq rfl rfl)
      rw [run_launch]
      generalize ((dequeued t).run h₁).2 = h₂ at b₂ ⊢
      split
      · split_ifs
        · exact b₂.transmitNext _
        · exact b₂.of_keepsFrames (keepsFrames_record rfl)
      · exact b₂

end Books

end Host

end InetHost
