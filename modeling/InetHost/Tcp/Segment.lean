import InetHost.Address.Endpoint
import InetHost.Checksum
import InetHost.Ipv4
import InetHost.Tcp.SeqNum

/-!
# TCP segments

* `Flags`: the control bits of a segment;
* `Header`: the fields that a connection fills in, and `encode`: the segment on the wire, its checksum
  included;
* `Segment`, `Segment.decode`: what a receiver takes out of a segment, or its `Fault`. Checksum,
  window, urgent pointer and options are passed over;
* `Header.reset`: the answer to a segment that belongs to no connection.
-/

namespace InetHost.Tcp

/-- The length of a header without options. -/
def headerLength : Nat := 20

/-! ## Control bits -/

/-- The control bits of a segment. -/
structure Flags where
  bits : UInt8
  deriving DecidableEq, Repr, Inhabited

namespace Flags

/-- No more data follows. -/
def fin : Flags := ⟨1⟩

/-- The start of a connection. -/
def syn : Flags := ⟨2⟩

/-- There is no connection. -/
def rst : Flags := ⟨4⟩

/-- Data to hand on at once. -/
def psh : Flags := ⟨8⟩

/-- The acknowledgement number counts. -/
def ack : Flags := ⟨16⟩

instance : OrOp Flags := ⟨fun f g => ⟨f.bits ||| g.bits⟩⟩

/-- All bits of `g` are set. -/
def has (f g : Flags) : Bool := f.bits &&& g.bits == g.bits

end Flags

/-! ## Writing -/

/-- The fields of a segment that a connection fills in. -/
structure Header where
  seq : SeqNum
  ack : SeqNum
  flags : Flags
  window : UInt16
  deriving DecidableEq, Repr, Inhabited

/-- The answer to a segment that belongs to no connection: it states the number that the peer
expects, or acknowledges the peer's. -/
def Header.reset (flags : Flags) (seq ack : SeqNum) : Header :=
  if flags.has .ack then ⟨ack, 0, .rst, 0⟩ else ⟨0, seq + 1, .rst ||| .ack, 0⟩

/-- A segment whose checksum field holds `sum`. -/
def encodeWith (sum : Nat) (s : Stream) (h : Header) (d : Bytes) : Bytes :=
  Bytes.ofNat 2 s.here.port.toNat ++ Bytes.ofNat 2 s.peer.port.toNat ++
    Bytes.ofNat 4 h.seq.toNat ++ Bytes.ofNat 4 h.ack.toNat ++ [0x50, h.flags.bits] ++
    Bytes.ofNat 2 h.window.toNat ++ Bytes.ofNat 2 sum ++ Bytes.ofNat 2 0 ++ d

/-- A segment of a connection as it stands on the wire. -/
def encode (s : Stream) (h : Header) (d : Bytes) : Bytes :=
  encodeWith (checksumBetween s.here.ip s.peer.ip Ipv4.tcp (encodeWith 0 s h d) 8).toNat s h d

@[simp] theorem length_encode (s : Stream) (h : Header) (d : Bytes) :
    (encode s h d).length = headerLength + d.length := by
  simp [encode, encodeWith, headerLength]
  omega

/-! ## Reading -/

/-- What a receiver takes out of a segment. -/
structure Segment where
  srcPort : UInt16
  dstPort : UInt16
  seq : SeqNum
  ack : SeqNum
  flags : Flags
  payload : Bytes
  deriving DecidableEq, Repr, Inhabited

/-- Why some bytes are no segment. -/
inductive Fault where
  | short (received : Nat)
  /-- The data does not start between the end of a header and that of the segment. -/
  | offset (stated : Nat)
  deriving DecidableEq, Repr

/-- Reads a segment. -/
def Segment.decode (b : Bytes) : Except Fault Segment :=
  let offset := 4 * (Bytes.field b 12 1 / 16)
  if b.length < headerLength then .error (.short b.length)
  else if offset < headerLength ∨ b.length < offset then .error (.offset offset)
  else .ok
    { srcPort := UInt16.ofNat (Bytes.field b 0 2)
      dstPort := UInt16.ofNat (Bytes.field b 2 2)
      seq := UInt32.ofNat (Bytes.field b 4 4)
      ack := UInt32.ofNat (Bytes.field b 8 4)
      flags := ⟨b.getD 13 0⟩
      payload := b.drop offset }

end InetHost.Tcp
