import InetHost.Host.Basic

/-!
# Histories

A history is a list of events, the last first.

* `extends_trans`: a history that goes on twice with events of some kind goes on with such events;
* `Justified P j`: what comes before an event of `j` justifies it, as `P` says;
* `Justified.at`: so it is wherever the event stands.
-/

namespace InetHost

variable {P : List Event → Event → Prop} {j older newer : List Event} {e : Event}

/-- What goes on twice with events of a kind goes on with such events. -/
theorem extends_trans {p : Event → Prop} {j₁ j₂ : List Event}
    (h₁ : ∃ new, j₁ = new ++ j ∧ ∀ e ∈ new, p e) (h₂ : ∃ new, j₂ = new ++ j₁ ∧ ∀ e ∈ new, p e) :
    ∃ new, j₂ = new ++ j ∧ ∀ e ∈ new, p e := by
  obtain ⟨new₁, rfl, hn₁⟩ := h₁
  obtain ⟨new₂, rfl, hn₂⟩ := h₂
  refine ⟨new₂ ++ new₁, (List.append_assoc ..).symm, fun e he => ?_⟩
  rcases List.mem_append.mp he with he | he
  · exact hn₂ e he
  · exact hn₁ e he

/-- Every event is justified by those before it. -/
def Justified (P : List Event → Event → Prop) : List Event → Prop
  | [] => True
  | e :: older => P older e ∧ Justified P older

theorem Justified.nil : Justified P [] := trivial

theorem Justified.cons (hj : Justified P j) (he : P j e) : Justified P (e :: j) := ⟨he, hj⟩

theorem Justified.append {new : List Event} (hj : Justified P j)
    (hn : ∀ e ∈ new, ∀ older, P older e) : Justified P (new ++ j) := by
  induction new with
  | nil => exact hj
  | cons e new ih =>
    exact (ih fun e' he => hn e' (List.mem_cons_of_mem e he)).cons (hn e List.mem_cons_self _)

theorem Justified.of_forall (h : ∀ e ∈ j, ∀ older, P older e) : Justified P j := by
  rw [← List.append_nil j]
  exact Justified.nil.append h

theorem Justified.extend {Q : List Event → Event → Prop} {new : List Event} (hj : Justified P j)
    (hn : Justified Q new) (h : ∀ older e, Q older e → P (older ++ j) e) :
    Justified P (new ++ j) := by
  induction new with
  | nil => exact hj
  | cons e new ih => exact (ih hn.2).cons (h new e hn.1)

theorem Justified.at (hj : Justified P j) (h : j = newer ++ e :: older) : P older e := by
  subst h
  induction newer with
  | nil => exact hj.1
  | cons _ _ ih => exact ih hj.2

theorem Justified.filter {p : Event → Bool} (hj : Justified P (j.filter p))
    (h : j = newer ++ e :: older) (he : p e = true) : P (older.filter p) e := by
  have hf : j.filter p = newer.filter p ++ e :: older.filter p := by
    rw [h, List.filter_append, List.filter_cons_of_pos he]
  exact hj.at hf

theorem exists_of_filter {p : Event → Bool} {new old : List Event}
    (h : j.filter p = new ++ e :: old) :
    ∃ newer older, j = newer ++ e :: older ∧ newer.filter p = new ∧ older.filter p = old := by
  obtain ⟨newer, rest, rfl, hn, hr⟩ := List.filter_eq_append_iff.mp h
  obtain ⟨mid, older, rfl, hm, -, ho⟩ := List.filter_eq_cons_iff.mp hr
  refine ⟨newer ++ mid, older, (List.append_assoc ..).symm, ?_, ho⟩
  rw [List.filter_append, hn, List.filter_eq_nil_iff.mpr hm, List.append_nil]

theorem filterMap_filter_of {α : Type} {f : Event → Option α} {p : Event → Bool}
    (h : ∀ e, p e = false → f e = none) : (j.filter p).filterMap f = j.filterMap f := by
  induction j with
  | nil => rfl
  | cons e j ih =>
    by_cases he : p e = true
    · rw [List.filter_cons_of_pos he, List.filterMap_cons, List.filterMap_cons, ih]
    · rw [List.filter_cons_of_neg he, List.filterMap_cons_none (h e (Bool.eq_false_iff.mpr he)), ih]

theorem any_filter_of {f p : Event → Bool} (h : ∀ e, p e = false → f e = false) :
    (j.filter p).any f = j.any f := by
  induction j with
  | nil => rfl
  | cons e j ih =>
    by_cases he : p e = true
    · rw [List.filter_cons_of_pos he, List.any_cons, List.any_cons, ih]
    · rw [List.filter_cons_of_neg he, List.any_cons, h e (Bool.eq_false_iff.mpr he), ih,
        Bool.false_or]

theorem countP_filter_of {f p : Event → Bool} (h : ∀ e, p e = false → f e = false) :
    (j.filter p).countP f = j.countP f := by
  induction j with
  | nil => rfl
  | cons e j ih =>
    by_cases he : p e = true
    · rw [List.filter_cons_of_pos he, List.countP_cons, List.countP_cons, ih]
    · rw [List.filter_cons_of_neg he, List.countP_cons, h e (Bool.eq_false_iff.mpr he), ih]
      rfl

end InetHost
