/-!
# Sets of numbers as ranges

A large set of numbers is written as its closed ranges, in ascending order and with a gap between
any two of them.

* `Ranges.covers`: a number is in one of the ranges. The search stops at the first range beyond it,
  which loses nothing where the ranges ascend (**`covers_iff`**);
* `Ranges.ascending`: the ranges ascend; `Ranges.count`: how many numbers they hold.
-/

namespace InetHost.Text

/-- Closed ranges of numbers, each as its first and its last. -/
abbrev Ranges := List (Nat × Nat)

namespace Ranges

/-- No range is empty, and each ends at least two before the next one starts. -/
def ascending : Ranges → Bool
  | [] => true
  | [r] => decide (r.1 ≤ r.2)
  | r :: s :: t => decide (r.1 ≤ r.2) && decide (r.2 + 1 < s.1) && ascending (s :: t)

/-- The number of numbers in the ranges. -/
def count (rs : Ranges) : Nat := rs.foldr (fun r n => r.2 + 1 - r.1 + n) 0

/-- One of the ranges holds `n`. -/
def covers : Ranges → Nat → Bool
  | [], _ => false
  | r :: t, n => if n < r.1 then false else decide (n ≤ r.2) || covers t n

/-! ## Membership -/

variable {rs : Ranges} {r : Nat × Nat} {n : Nat}

theorem ascending_tail (h : ascending (r :: rs) = true) : ascending rs = true := by
  cases rs with
  | nil => rfl
  | cons s t =>
    simp only [ascending, Bool.and_eq_true] at h
    exact h.2

theorem lt_of_ascending (h : ascending (r :: rs) = true) : ∀ s ∈ rs, r.2 < s.1 := by
  induction rs generalizing r with
  | nil => simp
  | cons q t ih =>
    intro s hs
    simp only [ascending, Bool.and_eq_true, decide_eq_true_eq] at h
    rcases List.mem_cons.mp hs with rfl | hs
    · omega
    · have hq := ih h.2 s hs
      have hle : q.1 ≤ q.2 := by
        have h2 := h.2
        cases t <;> simp_all [ascending]
      omega

/-- **Membership.** Where the ranges ascend, the search finds the range of a number. -/
theorem covers_iff (h : ascending rs = true) :
    covers rs n = true ↔ ∃ r ∈ rs, r.1 ≤ n ∧ n ≤ r.2 := by
  induction rs with
  | nil => simp [covers]
  | cons r t ih =>
    have hlt := lt_of_ascending h
    rw [covers]
    split
    · next hn =>
      refine ⟨fun e => by simp at e, ?_⟩
      rintro ⟨s, hs, h1, h2⟩
      rcases List.mem_cons.mp hs with rfl | hs
      · omega
      · have hr := hlt s hs
        have hle : r.1 ≤ r.2 := by cases t <;> simp_all [ascending]
        omega
    · next hn =>
      rw [Bool.or_eq_true, decide_eq_true_eq, ih (ascending_tail h)]
      simp only [List.mem_cons, exists_eq_or_imp]
      exact or_congr_left ⟨fun h2 => ⟨by omega, h2⟩, fun h2 => h2.2⟩

end Ranges

end InetHost.Text
