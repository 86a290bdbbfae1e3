import InetHost.Text.Digits

/-!
# Link addresses

* `Mac`: six octets, with `Mac.octets` and `Mac.ofBytes` between them and the wire
  (`ofBytes_octets`);
* `Mac.zero`, `Mac.broadcast`: nobody and everybody;
* `Mac.text`: pairs of hexadecimal digits, joined by colons.
-/

namespace InetHost

/-- A link address. -/
structure Mac where
  (a b c d e f : UInt8)
  deriving DecidableEq, Repr, Inhabited

namespace Mac

/-- The address of nobody. -/
def zero : Mac := ⟨0, 0, 0, 0, 0, 0⟩

/-- The address of everybody on the link. -/
def broadcast : Mac := ⟨255, 255, 255, 255, 255, 255⟩

/-- The six octets as they stand on the wire. -/
def octets (m : Mac) : Bytes := [m.a, m.b, m.c, m.d, m.e, m.f]

/-- The address in the first six bytes; missing bytes count as zero. -/
def ofBytes (b : Bytes) : Mac :=
  ⟨b.getD 0 0, b.getD 1 0, b.getD 2 0, b.getD 3 0, b.getD 4 0, b.getD 5 0⟩

/-- Pairs of hexadecimal digits, joined by colons. -/
def text (m : Mac) : String := ":".intercalate (m.octets.map fun x => Text.hex 2 x.toNat)

instance : ToString Mac := ⟨text⟩

@[simp] theorem length_octets (m : Mac) : m.octets.length = 6 := rfl

@[simp] theorem ofBytes_octets (m : Mac) (r : Bytes) : ofBytes (m.octets ++ r) = m := rfl

end Mac

end InetHost
