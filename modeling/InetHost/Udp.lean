import InetHost.Address.Endpoint
import InetHost.Checksum
import InetHost.Ipv4

/-!
# UDP datagrams

* `encode`: a datagram on the wire, its checksum included. A checksum of zero is sent as `0xffff`,
  as zero stands for "no checksum";
* `Datagram`, `Datagram.decode`: what a receiver takes out of a datagram, or its `Fault`. The
  checksum is not looked at, nor is what lies behind the length that the datagram states.
-/

namespace InetHost.Udp

/-- The length of a datagram's header. -/
def headerLength : Nat := 8

/-! ## Writing -/

/-- A datagram whose checksum field holds `sum`. -/
def encodeWith (sum : Nat) (f : Flow) (d : Bytes) : Bytes :=
  Bytes.ofNat 2 f.src.port.toNat ++ Bytes.ofNat 2 f.dst.port.toNat ++
    Bytes.ofNat 2 (headerLength + d.length) ++ Bytes.ofNat 2 sum ++ d

/-- The checksum to send: never zero. -/
def wireChecksum (f : Flow) (d : Bytes) : UInt16 :=
  let sum := checksumBetween f.src.ip f.dst.ip Ipv4.udp (encodeWith 0 f d) 3
  if sum = 0 then 0xffff else sum

/-- A datagram as it stands on the wire. -/
def encode (f : Flow) (d : Bytes) : Bytes := encodeWith (wireChecksum f d).toNat f d

@[simp] theorem length_encode (f : Flow) (d : Bytes) :
    (encode f d).length = headerLength + d.length := by
  simp [encode, encodeWith, headerLength]
  omega

/-! ## Reading -/

/-- What a receiver takes out of a datagram. -/
structure Datagram where
  srcPort : UInt16
  dstPort : UInt16
  payload : Bytes
  deriving DecidableEq, Repr

/-- Why some bytes are no datagram. -/
inductive Fault where
  | short (received : Nat)
  /-- The stated length does not fit between a header's and that of the bytes received. -/
  | length (stated received : Nat)
  deriving DecidableEq, Repr

/-- Reads a datagram. -/
def Datagram.decode (b : Bytes) : Except Fault Datagram :=
  let stated := Bytes.field b 4 2
  if b.length < headerLength then .error (.short b.length)
  else if stated < headerLength ∨ b.length < stated then .error (.length stated b.length)
  else .ok
    { srcPort := UInt16.ofNat (Bytes.field b 0 2)
      dstPort := UInt16.ofNat (Bytes.field b 2 2)
      payload := Bytes.slice b headerLength (stated - headerLength) }

end InetHost.Udp
