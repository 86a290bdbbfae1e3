/-!
# Byte strings and big-endian fields

Every format on the wire is a list of bytes whose numbers are written big-endian.

* `Bytes.ofNat w n`: the `w` bytes of `n`; `Bytes.toNat`: the number of some bytes
  (`toNat_ofNat`, exact below `256 ^ w`);
* `Bytes.slice b i w`, `Bytes.field b i w`: the `w` bytes at offset `i`, and their number;
* `Bytes.write b i d`: `b` with `d` laid over it from offset `i` on.
-/

namespace InetHost

/-- A byte string. -/
abbrev Bytes := List UInt8

namespace Bytes

/-! ## Numbers -/

/-- The `w` big-endian bytes of `n`; higher digits are dropped. -/
def ofNat : Nat → Nat → Bytes
  | 0, _ => []
  | w + 1, n => ofNat w (n / 256) ++ [UInt8.ofNat n]

/-- The number with the given big-endian bytes. -/
def toNat (b : Bytes) : Nat := b.foldl (fun n x => 256 * n + x.toNat) 0

@[simp] theorem length_ofNat (w n : Nat) : (ofNat w n).length = w := by
  induction w generalizing n with
  | zero => rfl
  | succ w ih => simp [ofNat, ih]

@[simp] theorem toNat_nil : toNat [] = 0 := rfl

@[simp] theorem toNat_concat (b : Bytes) (x : UInt8) :
    toNat (b ++ [x]) = 256 * toNat b + x.toNat := by
  simp [toNat]

theorem toNat_ofNat (w n : Nat) : toNat (ofNat w n) = n % Nat.pow 256 w := by
  induction w generalizing n with
  | zero => exact (Nat.mod_one n).symm
  | succ w ih =>
    have h : Nat.pow 256 (w + 1) = 256 * Nat.pow 256 w := Nat.pow_succ'
    rw [ofNat, toNat_concat, ih, UInt8.toNat_ofNat', h, Nat.mod_mul]
    omega

/-! ## Parts of a byte string -/

/-- The `w` bytes of `b` from offset `i` on; fewer where `b` ends before. -/
def slice (b : Bytes) (i w : Nat) : Bytes := (b.drop i).take w

/-- The big-endian number in the `w` bytes of `b` from offset `i` on. -/
def field (b : Bytes) (i w : Nat) : Nat := toNat (slice b i w)

/-- `b` with `d` laid over it from offset `i` on. -/
def write (b : Bytes) (i : Nat) (d : Bytes) : Bytes := b.take i ++ d ++ b.drop (i + d.length)

theorem length_slice {b : Bytes} {i w : Nat} (h : i + w ≤ b.length) : (slice b i w).length = w := by
  simp [slice]; omega

theorem length_write {b d : Bytes} {i : Nat} (h : i + d.length ≤ b.length) :
    (write b i d).length = b.length := by
  simp [write]; omega

end Bytes

end InetHost
