import InetHost.Proofs.Exchange.Dispatch

/-!
# The course of things

Code that a host runs for what comes in does some things by itself and has the application do others. Its
course tells which, and in which order, and leaves open what the application does when it is called.

* `Apart`, `Opens`: what the host does by itself, with `Posts`;
* `Leg`: one of these things; `Course app ls e h h'`: the legs `ls` lead from `h` to `h'`, and `e` says
  whether the calls among them came to their end;
* `course_act`, `course_call`: the rules for one leg after another;
* **`course_forM`**: calls one after another; **`Course.preserves`**: what every call preserves is preserved
  by all of them.
-/

namespace InetHost

/-- The application is called, or a RST is tried. -/
def Event.standsOut : Event → Bool
  | .emitted _ _ _ t _ _ => t.flags.has .rst
  | e => e.isCall

namespace Host

open Tcp

variable {h h₁ h' : Host} {app : Application}

/-! ## What a host does by itself -/

/-- **Something is done apart**: no connection is opened, no RST is tried, and the application is not
called. -/
structure Apart (h h' : Host) : Prop where
  length : h'.connections.length = h.connections.length
  streams : ∀ s c, h'.stream? s = some c → h.stream? s = some c
  journal : ∃ new, h'.journal = new ++ h.journal ∧ ∀ e ∈ new, e.standsOut = false

theorem Apart.refl (h : Host) : Apart h h := ⟨rfl, fun _ _ hs => hs, [], rfl, List.forall_mem_nil _⟩

theorem Apart.trans (a₁ : Apart h h₁) (a₂ : Apart h₁ h') : Apart h h' where
  length := a₂.length.trans a₁.length
  streams s c hs := a₁.streams s c (a₂.streams s c hs)
  journal := extends_trans a₁.journal a₂.journal

instance : Std.Refl Apart := ⟨Apart.refl⟩

instance : IsTrans Host Apart := ⟨fun _ _ _ => Apart.trans⟩

theorem apart_record {e : Event} (he : e.standsOut = false) : Does Apart h (record e) :=
  ⟨rfl, fun _ _ hs => hs, [e], rfl, List.forall_mem_singleton.mpr he⟩

theorem apart_register (d : DeviceId) (h : Host) : Does Apart h (register d) := by
  unfold register
  refine Does.bind (apart_record rfl) (Does.get ?_)
  dsimp only
  split_ifs
  · refine Does.bind (apart_record rfl) ?_
    exact ⟨rfl, fun _ _ hs => hs, [], rfl, List.forall_mem_nil _⟩
  · exact Does.pure ()

theorem mem_emissions {j : List Event} {e : Event} {x : Emission} (he : e ∈ j)
    (hx : e.emission = some x) : x ∈ emissions j :=
  List.mem_reverse.mpr (List.mem_filterMap.mpr ⟨e, he, hx⟩)

/-- Segments that are no RSTs are sent apart. -/
theorem Posts.apart {l : List Emission} (p : Posts l h h')
    (hl : ∀ x ∈ l, x.header.flags.has .rst = false) : Apart h h' := by
  obtain ⟨ds, ts, qs, new, rfl, hn, he, -⟩ := p
  refine ⟨rfl, fun _ _ hs => hs, new, rfl, fun e hm => ?_⟩
  cases e with
  | emitted c d s t data b => exact hl ⟨c, d, s, t, data⟩ (he ▸ mem_emissions hm rfl)
  | _ => exact hn _ hm

/-- **A connection is opened** between two ends for listener number `a`, in place of the one that was there,
and the answer to its SYN is tried. Nothing else is opened or tried, and no other connection changes. -/
structure Opens (s : Stream) (d : DeviceId) (a : Nat) (isn : SeqNum) (h h' : Host) : Prop where
  connections : h'.connections = h.connections ++ [{
    stream := s
    device := d
    control := (Control.accept isn h.config.receiveBuffer).1
    service := (h.acceptors.getD a default).service }]
  streams : ∀ s', h'.stream? s' = if s' = s then some h.connections.length else h.stream? s'
  journal : ∃ new, h'.journal = new ++ h.journal ∧ (∀ e ∈ new, e.isCall = false) ∧
    emissions new =
      [⟨some h.connections.length, d, s, (Control.accept isn h.config.receiveBuffer).2, []⟩]

/-! ## Moves -/

/-- One of the things that code does, one after another. -/
inductive Leg where
  | apart
  | call (k : Call)
  /-- A connection is opened. -/
  | opens (s : Stream) (d : DeviceId) (a : Nat) (isn : SeqNum)
  /-- A segment is refused, and nothing else happens. -/
  | refuses (x : Emission)
  deriving DecidableEq

/-- **Some legs lead from one host to another**, if the calls among them come to their end. Else the host
stands where the first of them stands that does not. -/
inductive Course (app : Application) : List Leg → Bool → Host → Host → Prop
  | done (h : Host) : Course app [] true h h
  | apart {ls : List Leg} {e : Bool} {h h₁ h' : Host} (ha : Apart h h₁) (hc : Course app ls e h₁ h') :
    Course app (.apart :: ls) e h h'
  | call {k : Call} {ls : List Leg} {e : Bool} {h h₁ h' : Host}
    (hk : (app k).run h = (some (), h₁)) (hc : Course app ls e h₁ h') :
    Course app (.call k :: ls) e h h'
  | hangs {k : Call} {ls : List Leg} {h h' : Host} (hk : (app k).run h = (none, h')) :
    Course app (.call k :: ls) false h h'
  | opens {s : Stream} {d : DeviceId} {a : Nat} {isn : SeqNum} {ls : List Leg} {e : Bool}
    {h h₁ h' : Host} (ho : Opens s d a isn h h₁) (hc : Course app ls e h₁ h') :
    Course app (.opens s d a isn :: ls) e h h'
  | refuses {x : Emission} {ls : List Leg} {e : Bool} {h h₁ h' : Host} (hp : Posts [x] h h₁)
    (hc : Course app ls e h₁ h') : Course app (.refuses x :: ls) e h h'

variable {ls : List Leg} {α : Type}

theorem Course.after {e : Bool} (hc : Course app (.apart :: ls) e h₁ h') (ha : Apart h h₁) :
    Course app (.apart :: ls) e h h' := by
  cases hc with
  | apart ha' hc => exact .apart (ha.trans ha') hc

theorem course_act {x : Act α} {f : α → Run Unit} (hx : Does Apart h x)
    (hf : Within (Course app ls) (x.run h).2 (f (x.run h).1)) :
    Within (Course app (.apart :: ls)) h (liftM x >>= f) := by
  unfold Within at hf ⊢
  rw [run_act]
  exact .apart hx hf

theorem course_call {k : Call} {f : Unit → Run Unit}
    (hf : ∀ h₁, (app k).run h = (some (), h₁) → Within (Course app ls) h₁ (f ())) :
    Within (Course app (.call k :: ls)) h (app k >>= f) := by
  unfold Within at hf ⊢
  rw [run_bind]
  cases hk : (app k).run h with
  | mk r h₁ =>
    cases r with
    | none => exact .hangs hk
    | some _ => exact .call hk (hf h₁ hk)

/-- **Calls one after another**, each of them once. -/
theorem course_forM (app : Application) (k : α → Call) (l : List α) (h : Host) :
    Within (Course app (l.map fun a => .call (k a))) h (l.forM fun a => app (k a)) := by
  induction l generalizing h with
  | nil => exact .done h
  | cons a l ih => exact course_call fun h₁ _ => ih h₁

/-- **What every call preserves** is preserved by calls one after another. -/
theorem Course.preserves {R : Host → Host → Prop} [Std.Refl R] [IsTrans Host R]
    (hR : ∀ k h, Within (fun _ => R) h (app k)) {k : α → Call} {l : List α} {e : Bool}
    (hc : Course app (l.map fun a => .call (k a)) e h h') : R h h' := by
  induction l generalizing h with
  | nil =>
    cases hc
    exact Std.Refl.refl _
  | cons a l ih =>
    have hk := hR (k a) h
    unfold Within at hk
    cases hc with
    | call hr hc =>
      rw [hr] at hk
      exact IsTrans.trans _ _ _ hk (ih hc)
    | hangs hr =>
      rw [hr] at hk
      exact hk

end Host

end InetHost
