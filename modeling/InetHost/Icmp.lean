import InetHost.Checksum

/-!
# ICMP echo messages

* `Message`: the type of a message and all of its bytes, read by `Message.decode?`;
* `echoReply`: the answer to an echo request. Type and code are zero, the checksum is new, and all
  else (identifier, sequence number, data) is the request's.
-/

namespace InetHost.Icmp

/-- The length of a message's header. -/
def headerLength : Nat := 8

/-- The type of an echo request. -/
def echoRequest : UInt8 := 8

/-- The type of an echo reply. -/
def echoReplyType : UInt8 := 0

/-- A control message. -/
structure Message where
  type : UInt8
  bytes : Bytes
  deriving DecidableEq, Repr

/-- Reads a message; there is none in fewer bytes than a header has. -/
def Message.decode? (b : Bytes) : Option Message :=
  if b.length < headerLength then none else some ⟨b.getD 0 0, b⟩

/-- The answer to the request `b`, with `sum` in its checksum field. -/
def echoReplyWith (sum : Nat) (b : Bytes) : Bytes :=
  [echoReplyType, 0] ++ Bytes.ofNat 2 sum ++ b.drop 4

/-- The answer to the request `b`. -/
def echoReply (b : Bytes) : Bytes := echoReplyWith (checksum (echoReplyWith 0 b) 1).toNat b

theorem length_echoReply {b : Bytes} (h : headerLength ≤ b.length) :
    (echoReply b).length = b.length := by
  simp [echoReply, echoReplyWith, headerLength] at h ⊢
  omega

end InetHost.Icmp
