import InetHost.Address.Ip
import InetHost.Address.Mac

/-!
# ARP packets

An ARP packet asks who has an address, or answers such a question.

* `Packet`: the operation, and a link address and an IPv4 address for either side;
* `Packet.encode`, `Packet.decode?`: the packet on the wire (`decode_encode`). The reader looks at no
  byte beyond the packet and at none of the four fields that only name the kinds of addresses.
-/

namespace InetHost.Arp

/-- The length of a packet. -/
def packetLength : Nat := 28

/-- The operation of a question. -/
def request : UInt16 := 1

/-- The operation of an answer. -/
def reply : UInt16 := 2

/-- An ARP packet. -/
structure Packet where
  op : UInt16
  senderMac : Mac
  senderIp : Ip
  targetMac : Mac
  targetIp : Ip
  deriving DecidableEq, Repr

namespace Packet

/-- A packet as it stands on the wire: IPv4 addresses of four bytes over Ethernet addresses of six. -/
def encode (p : Packet) : Bytes :=
  Bytes.ofNat 2 1 ++ Bytes.ofNat 2 0x0800 ++ Bytes.ofNat 1 6 ++ Bytes.ofNat 1 4 ++
    Bytes.ofNat 2 p.op.toNat ++ p.senderMac.octets ++ p.senderIp.octets ++ p.targetMac.octets ++
    p.targetIp.octets

/-- Reads a packet; there is none in fewer than 28 bytes. -/
def decode? (b : Bytes) : Option Packet :=
  if b.length < packetLength then none
  else some
    { op := UInt16.ofNat (Bytes.field b 6 2)
      senderMac := Mac.ofBytes (b.drop 8)
      senderIp := Ip.ofBytes (b.drop 14)
      targetMac := Mac.ofBytes (b.drop 18)
      targetIp := Ip.ofBytes (b.drop 24) }

@[simp] theorem length_encode (p : Packet) : p.encode.length = packetLength := by
  simp [encode, packetLength]

/-- **What is written reads back**, whatever follows it. -/
theorem decode_encode (p : Packet) (r : Bytes) : decode? (p.encode ++ r) = some p := by
  obtain ⟨op, sm, si, tm, ti⟩ := p
  have ho : UInt16.ofNat (Bytes.toNat (Bytes.ofNat 2 op.toNat)) = op := by
    have := op.toNat_lt
    rw [Bytes.toNat_ofNat, Nat.mod_eq_of_lt (by omega), UInt16.ofNat_toNat]
  rw [decode?, if_neg (by simp)]
  simp only [Option.some.injEq, Packet.mk.injEq]
  exact ⟨ho, rfl, rfl, rfl, rfl⟩

end Packet

end InetHost.Arp
