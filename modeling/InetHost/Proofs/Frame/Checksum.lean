import InetHost.Checksum
import Mathlib.Data.List.Basic

/-!
# Checksums that verify

A receiver sums all words of a message, the checksum among them. If nothing was changed on the way the
sum folds to `0xffff`.

* `Bytes.eq_around`, `words_append`, `words_ofNat`: the words of a message from those of its parts;
* **`fold_add_complement`**: the complement of a sum completes it;
* **`fold_words_complete`**: a message with its checksum in the place of a zero verifies.
-/

namespace InetHost

/-! ## A word between other bytes -/

namespace Bytes

variable {b : Bytes} {i : Nat}

theorem ofNat_toNat : ∀ {s : Bytes}, s.length = 2 → ofNat 2 (toNat s) = s
  | [x, y], _ => by
    have hx := x.toNat_lt
    have hy := y.toNat_lt
    simp only [toNat, ofNat, List.foldl_cons, List.foldl_nil, List.nil_append, List.cons_append,
      List.cons.injEq, and_true, ← UInt8.toNat_inj, UInt8.toNat_ofNat']
    omega

/-- A byte string is made of a word, what is before it and what is behind it. -/
theorem eq_around (h : i + 2 ≤ b.length) : b = b.take i ++ ofNat 2 (field b i 2) ++ b.drop (i + 2) := by
  rw [field, ofNat_toNat (length_slice h), slice, ← List.drop_drop, List.append_assoc,
    List.take_append_drop, List.take_append_drop]

end Bytes

namespace Checksum

/-! ## Words -/

theorem words_append {a : Bytes} (ha : a.length % 2 = 0) (b : Bytes) :
    words (a ++ b) = words a ++ words b := by
  induction a using words.induct with
  | case1 => rfl
  | case2 x => cases ha
  | case3 x y r ih =>
    have hr : r.length % 2 = 0 := by
      simp only [List.length_cons] at ha
      omega
    exact congrArg ((256 * x.toNat + y.toNat) :: ·) (ih hr)

theorem length_words {a : Bytes} (ha : a.length % 2 = 0) : (words a).length = a.length / 2 := by
  induction a using words.induct with
  | case1 => rfl
  | case2 x => cases ha
  | case3 x y r ih =>
    simp only [List.length_cons] at ha
    rw [words, List.length_cons, ih (by omega), List.length_cons, List.length_cons]
    omega

theorem words_ofNat (n : Nat) : words (Bytes.ofNat 2 n) = [n % 65536] := by
  have hn : 256 * (256 * 0 + (UInt8.ofNat (n / 256)).toNat) + (UInt8.ofNat n).toNat = n % 65536 :=
    Bytes.toNat_ofNat 2 n
  rw [Nat.mul_zero, Nat.zero_add] at hn
  exact congrArg ([·]) hn

theorem total_cons (n : Nat) (l : List Nat) : total (n :: l) = n + total l := rfl

theorem total_append (l l' : List Nat) : total (l ++ l') = total l + total l' := by
  induction l with
  | nil => exact (Nat.zero_add _).symm
  | cons n l ih => rw [List.cons_append, total_cons, total_cons, ih, Nat.add_assoc]

variable {a b : Bytes} {i : Nat}

/-- The words of a message with a word `n` between an even number of bytes and others. -/
theorem words_between (ha : a.length = 2 * i) (n : Nat) (b : Bytes) :
    words (a ++ Bytes.ofNat 2 n ++ b) = words a ++ n % 65536 :: words b := by
  rw [List.append_assoc, words_append (by omega), words_append (by simp), words_ofNat]
  rfl

theorem wordSum_between (ha : a.length = 2 * i) (n : Nat) (b : Bytes) :
    wordSum (a ++ Bytes.ofNat 2 n ++ b) i = total (words a) + total (words b) := by
  have hl : (words a).length = i := by
    rw [length_words (by omega)]
    omega
  unfold wordSum
  rw [words_between ha, List.eraseIdx_append_of_length_le (by omega), hl, Nat.sub_self,
    List.eraseIdx_cons_zero, total_append]

/-! ## Completing a sum -/

theorem toNat_complement (n : Nat) : (complement n).toNat = 65535 - fold n := by
  rw [complement, UInt16.toNat_ofNat']
  omega

/-- **The complement of a sum completes it.** -/
theorem fold_add_complement (n : Nat) : fold (n + (complement n).toNat) = 65535 := by
  rw [toNat_complement]
  unfold fold
  split <;> split <;> omega

/-- So do all ones, where the complement is zero. -/
theorem fold_add_ones {n : Nat} (h : complement n = 0) : fold (n + 65535) = 65535 := by
  have hf : 65535 - fold n = 0 := by rw [← toNat_complement, h]; rfl
  unfold fold at hf ⊢
  split at hf <;> split <;> omega

/-- The checksum to write is `n`, for a message with `extra` summed in front: the message then
verifies. -/
theorem fold_words_between (ha : a.length = 2 * i) (extra : Nat) {n : UInt16}
    (hn : fold (extra + wordSum (a ++ Bytes.ofNat 2 0 ++ b) i + n.toNat) = 65535) :
    fold (extra + total (words (a ++ Bytes.ofNat 2 n.toNat ++ b))) = 65535 := by
  rw [wordSum_between ha] at hn
  rw [words_between ha, total_append, total_cons, Nat.mod_eq_of_lt n.toNat_lt, ← hn]
  congr 1
  omega

/-- **A message with its checksum verifies.** -/
theorem fold_words_complete (ha : a.length = 2 * i) (extra : Nat) (b : Bytes) :
    fold (extra + total (words (a ++ Bytes.ofNat 2 (complement
      (extra + wordSum (a ++ Bytes.ofNat 2 0 ++ b) i)).toNat ++ b))) = 65535 :=
  fold_words_between ha extra (fold_add_complement _)

end Checksum

end InetHost
