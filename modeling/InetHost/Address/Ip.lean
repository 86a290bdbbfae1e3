import InetHost.Bytes

/-!
# IPv4 addresses

* `Ip`: four octets, with `Ip.octets` and `Ip.ofBytes` between them and the wire (`ofBytes_octets`);
* `Ip.text`: dotted decimal; `Ip.read?` reads it at the start of a text.
-/

namespace InetHost

/-- An IPv4 address. -/
structure Ip where
  (a b c d : UInt8)
  deriving DecidableEq, Repr, Inhabited

namespace Ip

/-- The four octets as they stand on the wire. -/
def octets (p : Ip) : Bytes := [p.a, p.b, p.c, p.d]

/-- The address in the first four bytes; missing bytes count as zero. -/
def ofBytes (b : Bytes) : Ip := ⟨b.getD 0 0, b.getD 1 0, b.getD 2 0, b.getD 3 0⟩

/-- Dotted decimal. -/
def text (p : Ip) : String := ".".intercalate (p.octets.map fun x => x.toNat.repr)

instance : ToString Ip := ⟨text⟩

/-! ## Reading an address -/

/-- The number that some decimal digits write. -/
def decimal (ds : List Char) : Nat := ds.foldl (fun n c => 10 * n + (c.toNat - 48)) 0

/-- An octet at the start of `cs`: at most three digits, no idle zero in front, at most 255. -/
def octet? (cs : List Char) : Option (UInt8 × List Char) :=
  let ds := cs.takeWhile Char.isDigit
  if ds ≠ [] ∧ ds.length ≤ 3 ∧ (ds.head? = some '0' → ds.length = 1) ∧ decimal ds ≤ 255 then
    some (UInt8.ofNat (decimal ds), cs.dropWhile Char.isDigit)
  else none

/-- What follows the separator `c`. -/
def after? (c : Char) : List Char → Option (List Char)
  | [] => none
  | x :: r => if x = c then some r else none

/-- Reads four octets between points, and gives back what follows. -/
def read? (cs : List Char) : Option (Ip × List Char) := do
  let (a, cs) ← octet? cs
  let (b, cs) ← octet? (← after? '.' cs)
  let (c, cs) ← octet? (← after? '.' cs)
  let (d, cs) ← octet? (← after? '.' cs)
  return (⟨a, b, c, d⟩, cs)

/-- Reads four octets between points, and nothing else. -/
def ofText? (s : String) : Option Ip :=
  match read? s.toList with
  | some (p, []) => some p
  | _ => none

/-! ## On the wire -/

@[simp] theorem length_octets (p : Ip) : p.octets.length = 4 := rfl

@[simp] theorem ofBytes_octets (p : Ip) (r : Bytes) : ofBytes (p.octets ++ r) = p := rfl

end Ip

end InetHost
