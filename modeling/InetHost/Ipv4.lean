import InetHost.Checksum

/-!
# IPv4 packets

* `header`: the twenty bytes in front of what the host sends, the checksum included;
* `Packet`: what a receiver takes out of a packet. Options, type of service, identification and
  lifetime are passed over, and so is what lies behind the packet's total length;
* `Packet.decode`: reads a packet or names its first `Fault`.
-/

namespace InetHost.Ipv4

/-- The length of a header without options. -/
def headerLength : Nat := 20

/-- The greatest length of a packet. -/
def maxLength : Nat := 65535

/-! ## Protocols -/

/-- Control messages. -/
def icmp : UInt8 := 1

/-- Group membership. -/
def igmp : UInt8 := 2

/-- Streams. -/
def tcp : UInt8 := 6

/-- Datagrams. -/
def udp : UInt8 := 17

/-! ## Writing -/

/-- A header whose checksum field holds `sum`. -/
def headerWith (sum : Nat) (ttl protocol : UInt8) (length : Nat) (src dst : Ip) : Bytes :=
  [0x45, 0] ++ Bytes.ofNat 2 length ++ Bytes.ofNat 2 0 ++ Bytes.ofNat 2 0 ++ [ttl, protocol] ++
    Bytes.ofNat 2 sum ++ src.octets ++ dst.octets

/-- The header of a packet of `length` bytes: version 4, no options, not a fragment. -/
def header (ttl protocol : UInt8) (length : Nat) (src dst : Ip) : Bytes :=
  headerWith (checksum (headerWith 0 ttl protocol length src dst) 5).toNat ttl protocol length src
    dst

@[simp] theorem length_headerWith (sum : Nat) (ttl protocol : UInt8) (length : Nat) (src dst : Ip) :
    (headerWith sum ttl protocol length src dst).length = headerLength := by
  simp [headerWith, headerLength]

@[simp] theorem length_header (ttl protocol : UInt8) (length : Nat) (src dst : Ip) :
    (header ttl protocol length src dst).length = headerLength := by
  simp [header]

/-! ## Reading -/

/-- What a receiver takes out of a packet. -/
structure Packet where
  src : Ip
  dst : Ip
  protocol : UInt8
  payload : Bytes
  deriving DecidableEq, Repr

/-- Why some bytes are no packet. -/
inductive Fault where
  | short (received : Nat)
  | version (n : Nat)
  /-- Header, total length and bytes received do not fit into each other. -/
  | length (header total received : Nat)
  | checksum (src : Ip)
  deriving DecidableEq, Repr

/-- Reads a packet; of several faults the first in the order of `Fault` is named. -/
def Packet.decode (b : Bytes) : Except Fault Packet :=
  let first := Bytes.field b 0 1
  let header := 4 * (first % 16)
  let total := Bytes.field b 2 2
  let src := Ip.ofBytes (b.drop 12)
  if b.length < headerLength then .error (.short b.length)
  else if first / 16 ≠ 4 then .error (.version (first / 16))
  else if header < headerLength ∨ total < header ∨ b.length < total then
    .error (.length header total b.length)
  else if (checksum (b.take header) 5).toNat ≠ Bytes.field b 10 2 then .error (.checksum src)
  else .ok
    { src := src
      dst := Ip.ofBytes (b.drop 16)
      protocol := b.getD 9 0
      payload := Bytes.slice b header (total - header) }

end InetHost.Ipv4
