/-!
# Sequence numbers

Sequence numbers count bytes modulo `2 ^ 32`, and are compared by the distance from one to the other:
a number is after another if it lies less than half the circle ahead of it.

* `SeqNum.compare`: the order of two numbers;
* `SeqNum.covers`: an acknowledgement reaches a number.
-/

namespace InetHost.Tcp

/-- A sequence number. -/
abbrev SeqNum := UInt32

namespace SeqNum

/-- A number this far ahead, or farther, is no longer after the other. -/
def halfCircle : UInt32 := 0x7fffffff

/-- The order of two sequence numbers. -/
def compare (a b : SeqNum) : Ordering :=
  if a - b = 0 then .eq else if a - b < halfCircle then .gt else .lt

/-- The acknowledgement `a` reaches the number `b`. -/
def covers (a b : SeqNum) : Bool := compare a b != .lt

end SeqNum

end InetHost.Tcp
