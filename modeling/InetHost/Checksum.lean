import InetHost.Address.Ip

/-!
# The Internet checksum

The checksum of a message is the complement of the sum of its big-endian 16-bit words, where a carry
out of the top bit is added back at the bottom. The word that will hold the checksum is left out.

* `Checksum.words`: the words of a byte string, an odd last byte being a high byte;
  `Checksum.total`: the sum of some words;
* `Checksum.fold`: the sum with its carries added back. `fold_carry` and `fold_of_lt` say that
  adding high half and low half until no carry is left computes it;
* `checksum`: of a message; `checksumBetween`: with the addresses, the protocol and the length of
  the message summed in front (the pseudo-header of a transport protocol).
-/

namespace InetHost

namespace Checksum

/-- The big-endian 16-bit words; an odd last byte is the high byte of a last word. -/
def words : Bytes → List Nat
  | [] => []
  | [x] => [256 * x.toNat]
  | x :: y :: r => (256 * x.toNat + y.toNat) :: words r

/-- The sum of some words. -/
def total (l : List Nat) : Nat := l.foldr (· + ·) 0

/-- The sum of all words but the one with index `skip`. -/
def wordSum (b : Bytes) (skip : Nat) : Nat := total ((words b).eraseIdx skip)

/-- A sum with every carry out of 16 bits added back: the representative of `n` modulo 65535 in
`1 … 65535`, and `0` for `0` alone. -/
def fold (n : Nat) : Nat := if n = 0 then 0 else (n - 1) % 65535 + 1

theorem fold_of_lt {n : Nat} (h : n < 65536) : fold n = n := by
  unfold fold
  split <;> omega

theorem fold_carry (n : Nat) : fold (n / 65536 + n % 65536) = fold n := by
  unfold fold
  split <;> split <;> omega

theorem fold_lt (n : Nat) : fold n < 65536 := by
  unfold fold
  split <;> omega

/-- The complement of the folded sum. -/
def complement (n : Nat) : UInt16 := UInt16.ofNat (65535 - fold n)

/-- What the pseudo-header of a transport message adds to the sum. -/
def pseudoSum (src dst : Ip) (protocol : UInt8) (length : Nat) : Nat :=
  total (words src.octets) + total (words dst.octets) + protocol.toNat + length

end Checksum

open Checksum

/-- The checksum of `b` with the word at index `skip` left out; `0` for no bytes at all. -/
def checksum (b : Bytes) (skip : Nat) : UInt16 :=
  if b.isEmpty then 0 else complement (wordSum b skip)

/-- The checksum of a transport message between two addresses. -/
def checksumBetween (src dst : Ip) (protocol : UInt8) (b : Bytes) (skip : Nat) : UInt16 :=
  complement (pseudoSum src dst protocol b.length + wordSum b skip)

end InetHost
