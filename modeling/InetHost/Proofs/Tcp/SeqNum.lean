import InetHost.Tcp.SeqNum
import Mathlib.Algebra.Group.Nat.Defs
import Mathlib.Tactic.SplitIfs

/-!
# The order of sequence numbers

Sequence numbers lie on a circle, so one is after another if it lies ahead of it by less than half of the
way around. Two numbers that face each other, or miss that by one step, lie ahead of each other by too
much on both sides: each counts as before the other.

* `SeqNum.ahead`: the way from a number ahead to another; `SeqNum.apart`: the shorter of the two ways
  between two numbers;
* `SeqNum.compare_eq`: the order by the way ahead;
* **`SeqNum.compare_swap`**: numbers that are less than half of the circle apart are in the same order
  from both sides; **`SeqNum.compare_facing`**: all others are before each other;
* **`SeqNum.compare_add`**: the order is the same all around the circle.
-/

namespace InetHost.Tcp.SeqNum

variable {a b : SeqNum}

/-! ## Ways around the circle -/

/-- The way ahead to `a` from `b`. -/
def ahead (a b : SeqNum) : Nat := (a - b).toNat

/-- The shorter way between two numbers. -/
def apart (a b : SeqNum) : Nat := min (ahead a b) (ahead b a)

theorem ahead_eq (a b : SeqNum) :
    ahead a b = if b.toNat ≤ a.toNat then a.toNat - b.toNat else 2 ^ 32 + a.toNat - b.toNat := by
  have ha := a.toNat_lt
  have hb := b.toNat_lt
  unfold ahead
  rw [UInt32.toNat_sub]
  split_ifs with h <;> omega

theorem ahead_eq_zero : ahead a b = 0 ↔ a = b := by
  have ha := a.toNat_lt
  have hb := b.toNat_lt
  rw [ahead_eq, ← UInt32.toNat_inj]
  split_ifs with h <;> omega

/-- Ahead to a number and on to where one started is once around. -/
theorem ahead_add_ahead (h : a ≠ b) : ahead a b + ahead b a = 2 ^ 32 := by
  have ha := a.toNat_lt
  have hb := b.toNat_lt
  rw [ne_eq, ← UInt32.toNat_inj] at h
  rw [ahead_eq, ahead_eq]
  split_ifs <;> omega

theorem ahead_pos (h : a ≠ b) : 0 < ahead a b := Nat.pos_of_ne_zero fun he => h (ahead_eq_zero.mp he)

theorem ahead_add (a b n : SeqNum) : ahead (a + n) (b + n) = ahead a b := by
  have h : a + n - (b + n) = a - b := by grind
  unfold ahead
  rw [h]

theorem ahead_add_left (b d : SeqNum) : ahead (b + d) b = d.toNat := by
  have h : b + d - b = d := by grind
  unfold ahead
  rw [h]

/-! ## The order -/

/-- **The order of two numbers** by the way ahead from one to the other. -/
theorem compare_eq (a b : SeqNum) : compare a b =
    if ahead a b = 0 then .eq else if ahead a b < 2 ^ 31 - 1 then .gt else .lt := by
  have h₀ : a - b = 0 ↔ ahead a b = 0 := UInt32.toNat_inj.symm
  have h₁ : a - b < halfCircle ↔ ahead a b < 2 ^ 31 - 1 := UInt32.lt_iff_toNat_lt
  unfold compare
  simp only [h₀, h₁]

theorem compare_eq_eq : compare a b = .eq ↔ a = b := by
  rw [compare_eq, ← ahead_eq_zero]
  split_ifs with h₀ h₁
  · exact iff_of_true rfl h₀
  · exact iff_of_false (by decide) h₀
  · exact iff_of_false (by decide) h₀

theorem compare_eq_gt : compare a b = .gt ↔ 0 < ahead a b ∧ ahead a b < 2 ^ 31 - 1 := by
  rw [compare_eq]
  split_ifs with h₀ h₁
  · exact iff_of_false (by decide) (by omega)
  · exact iff_of_true rfl (by omega)
  · exact iff_of_false (by decide) (by omega)

theorem compare_eq_lt : compare a b = .lt ↔ 2 ^ 31 - 1 ≤ ahead a b := by
  rw [compare_eq]
  split_ifs with h₀ h₁
  · exact iff_of_false (by decide) (by omega)
  · exact iff_of_false (by decide) (by omega)
  · exact iff_of_true rfl (by omega)

theorem covers_eq_true : covers a b = true ↔ ahead a b < 2 ^ 31 - 1 := by
  unfold covers
  rw [bne_iff_ne, ne_eq, compare_eq_lt, Nat.not_le]

/-- **From both sides two numbers are in the same order**, if they are less than half of the circle apart. -/
theorem compare_swap (h : apart a b < 2 ^ 31 - 1) : compare b a = (compare a b).swap := by
  by_cases he : a = b
  · subst he
    rw [compare_eq_eq.mpr rfl]
    rfl
  · have hs := ahead_add_ahead he
    unfold apart at h
    rcases Nat.lt_or_ge (ahead a b) (2 ^ 31 - 1) with hl | hl
    · have hg : compare a b = .gt := compare_eq_gt.mpr ⟨ahead_pos he, hl⟩
      have hb : compare b a = .lt := compare_eq_lt.mpr (by omega)
      rw [hg, hb]
      rfl
    · have hb : compare a b = .lt := compare_eq_lt.mpr hl
      have hg : compare b a = .gt := compare_eq_gt.mpr ⟨ahead_pos (Ne.symm he), by omega⟩
      rw [hg, hb]
      rfl

/-- **Numbers that face each other are before each other**, and so are those that miss it by one step. -/
theorem compare_facing (h : 2 ^ 31 - 1 ≤ apart a b) : compare a b = .lt ∧ compare b a = .lt := by
  unfold apart at h
  exact ⟨compare_eq_lt.mpr (by omega), compare_eq_lt.mpr (by omega)⟩

/-- **The order is the same all around the circle.** -/
theorem compare_add (a b n : SeqNum) : compare (a + n) (b + n) = compare a b := by
  rw [compare_eq, compare_eq, ahead_add]

end InetHost.Tcp.SeqNum
