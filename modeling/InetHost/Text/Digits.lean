import InetHost.Bytes

/-!
# Hexadecimal digits

* `hex w n`: the lower-case hexadecimal digits of `n`, at least `w` of them;
* `hexBytes`: two digits for every byte.
-/

namespace InetHost.Text

/-- The lower-case digit of `n % 16`. -/
def hexDigit (n : Nat) : Char := Nat.digitChar (n % 16)

/-- The hexadecimal digits of `n`, padded with zeros to at least `w`. -/
def hex (w n : Nat) : String :=
  let ds := Nat.toDigits 16 n
  String.ofList (List.replicate (w - ds.length) '0' ++ ds)

/-- The two digits of a byte, high half first. -/
def hexByte (x : UInt8) : List Char := [hexDigit (x.toNat / 16), hexDigit x.toNat]

/-- Two digits for every byte. -/
def hexBytes (b : Bytes) : String := String.ofList (b.flatMap hexByte)

/-- The value of a hexadecimal digit, in either case. -/
def hexValue? (c : Char) : Option Nat :=
  if '0' ≤ c ∧ c ≤ '9' then some (c.toNat - 48)
  else if 'a' ≤ c ∧ c ≤ 'f' then some (c.toNat - 87)
  else if 'A' ≤ c ∧ c ≤ 'F' then some (c.toNat - 55)
  else none

/-- The bytes with the given digits, two digits a byte. -/
def ofHex? : List Char → Option Bytes
  | [] => some []
  | [_] => none
  | h :: l :: r => do
    let x := UInt8.ofNat (16 * (← hexValue? h) + (← hexValue? l))
    return x :: (← ofHex? r)

end InetHost.Text
