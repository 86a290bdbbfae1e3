import InetHost.Host.Session
import Mathlib.Logic.Relation
import Mathlib.Tactic.SplitIfs

/-!
# Before and after

What is proved of a run is a relation between the host before it and the host after it.

* `Does R h x`: the act `x` takes `h` to a host that `R` relates to it;
* `Within S h x`: the same of code that may call the application. `S` is also told whether the run
  came to its end, as the host after a run that did not is the host where it stands;
* `Composes S`: such relations may be put together along a run. `Within.bind` is the rule for one step
  after another, and with it come rules for the other ways to build a run.
-/

namespace InetHost.Host

variable {α β : Type} {h : Host}

/-! ## Acts -/

/-- An act at `h` leads to a host that `R` relates to `h`. -/
def Does (R : Host → Host → Prop) (h : Host) (x : Act α) : Prop := R h (x.run h).2

section Acts

variable {R : Host → Host → Prop}

theorem Does.bind [IsTrans Host R] {x : Act α} {f : α → Act β} (hx : Does R h x)
    (hf : Does R (x.run h).2 (f (x.run h).1)) : Does R h (x >>= f) :=
  IsTrans.trans _ _ _ hx hf

theorem Does.pure [Std.Refl R] (a : α) : Does R h (pure a) := Std.Refl.refl h

theorem Does.get {f : Host → Act β} (hf : Does R h (f h)) : Does R h (get >>= f) := hf

theorem act_get (f : Host → Act α) (h : Host) : (get >>= f).run h = (f h).run h := rfl

theorem act_modify (g : Host → Host) (f : PUnit → Act α) (h : Host) :
    (modify g >>= f).run h = (f ⟨⟩).run (g h) := rfl

end Acts

/-! ## Runs -/

/-- Code run at `h` leads to a host that `S` relates to `h`. -/
def Within (S : Bool → Host → Host → Prop) (h : Host) (x : Run α) : Prop :=
  S (x.run h).1.isSome h (x.run h).2

/-- Relations that may be put together along a run. -/
structure Composes (S : Bool → Host → Host → Prop) : Prop where
  /-- Nothing happens. -/
  refl : ∀ h, S true h h
  /-- A run may stand still anywhere. -/
  cut : ∀ h, S false h h
  /-- What has come to its end may be followed by more. -/
  trans : ∀ {e h h₁ h₂}, S true h h₁ → S e h₁ h₂ → S e h h₂

section Runs

variable {S : Bool → Host → Host → Prop} (hS : Composes S)

include hS

theorem Within.pure (a : α) : Within S h (pure a) := hS.refl h

theorem Within.failure : Within S h (failure : Run α) := hS.cut h

omit hS in
theorem run_bind (x : Run α) (f : α → Run β) (h : Host) :
    (x >>= f).run h = match x.run h with
      | (some a, h') => (f a).run h'
      | (none, h') => (none, h') := by
  rw [OptionT.run_bind]
  change (match x.run h with
    | (r, h') => (r.elim (Pure.pure none) fun a => (f a).run : Act (Option β)) h') = _
  rcases x.run h with ⟨_ | a, h'⟩ <;> rfl

omit hS in
theorem run_lift (x : Act α) (h : Host) :
    (liftM x : Run α).run h = (some (x.run h).1, (x.run h).2) := rfl

omit hS in
theorem run_get (f : Host → Run β) (h : Host) : (get >>= f).run h = (f h).run h := rfl

omit hS in
theorem run_act (x : Act α) (f : α → Run β) (h : Host) :
    (liftM x >>= f : Run β).run h = (f (x.run h).1).run (x.run h).2 := rfl

omit hS in
theorem run_lend {x : Run Unit} {d : DeviceId} {h h₁ : Host}
    (hx : x.run { h with lent := d :: h.lent } = (some (), h₁)) :
    (lend d x).run h = (some (), { h₁ with lent := h₁.lent.tail }) := by
  unfold lend
  change (do x; modify fun h => { h with lent := h.lent.tail } : Run Unit).run _ = _
  rw [run_bind, hx]
  rfl

/-- **One step after another.** The second is looked at only where the first leads to. -/
theorem Within.bind {x : Run α} {f : α → Run β} (hx : Within S h x)
    (hf : ∀ a h', x.run h = (some a, h') → Within S h' (f a)) : Within S h (x >>= f) := by
  unfold Within at hx ⊢
  rw [run_bind]
  cases hr : x.run h with
  | mk r h' =>
    rw [hr] at hx
    cases r with
    | none => exact hx
    | some a => exact hS.trans hx (hf a h' hr)

theorem Within.map (f : α → β) {x : Run α} (hx : Within S h x) : Within S h (f <$> x) := by
  rw [← bind_pure_comp]
  exact Within.bind hS hx fun a h' _ => Within.pure hS (f a)

omit hS in
theorem Within.lift {x : Act α} (hx : Does (S true) h x) : Within S h (liftM x : Run α) := hx

theorem Within.act {x : Act α} {f : α → Run β} (hx : Does (S true) h x)
    (hf : Within S (x.run h).2 (f (x.run h).1)) : Within S h (liftM x >>= f) :=
  Within.bind hS hx fun a h' hr => by
    have hr' : (some (x.run h).1, (x.run h).2) = (some a, h') := hr
    simp only [Prod.mk.injEq, Option.some.injEq] at hr'
    rw [← hr'.1, ← hr'.2]
    exact hf

omit hS in
theorem Within.get {f : Host → Run β} (hf : Within S h (f h)) : Within S h (get >>= f) := hf

theorem Within.change {g : Host → Host} {f : PUnit → Run β} (hg : S true h (g h))
    (hf : Within S (g h) (f ⟨⟩)) : Within S h (modify g >>= f) :=
  Within.act hS (x := (modify g : Act PUnit)) hg hf

theorem Within.forM {l : List α} {f : α → Run Unit} (hf : ∀ a ∈ l, ∀ h, Within S h (f a)) :
    Within S h (l.forM f) := by
  induction l generalizing h with
  | nil => exact Within.pure hS ()
  | cons a l ih =>
    refine Within.bind hS (hf a List.mem_cons_self h) fun _ h' _ => ?_
    exact ih fun b hb => hf b (List.mem_cons_of_mem a hb)

end Runs

end InetHost.Host
