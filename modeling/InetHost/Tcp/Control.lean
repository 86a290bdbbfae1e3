import InetHost.Buffer.Bounded
import InetHost.Notice

/-!
# The control block of a connection

`Control` is what a connection knows of its two byte streams: its state, the next sequence number it
will use, the next number it expects, and whether it owes an acknowledgement. It sends nothing
itself; every transition says what is to be sent.

* `Control.accept`: the answer to a first SYN;
* `Control.take`: flags, acknowledgement and data of a segment. Data that is taken is given out at
  once, and a FIN is only noted until the application has seen the data;
* `Control.finish`: the answer to a FIN, or the acknowledgement that is still owed;
* `Control.sent`, `Control.closed`: data or a FIN of the host's own went out. Until then nothing
  changes, so a failed attempt can be repeated as it was.
-/

namespace InetHost.Tcp

/-- The control block of a connection. -/
structure Control where
  state : State
  /-- The next sequence number of the host's own stream. -/
  next : SeqNum
  /-- The next sequence number of the peer's stream. -/
  expected : SeqNum
  /-- Data was taken and not yet acknowledged. -/
  owesAck : Bool
  buffer : BoundedBuffer
  deriving DecidableEq, Inhabited

/-- What is to be done after a segment was taken. -/
structure Outcome where
  reply : Option Header := none
  /-- Data for the application. -/
  deliver : Option Bytes := none
  /-- The connection is over. -/
  teardown : Bool := false
  /-- The segment has a FIN, which is to be answered once its data was read. -/
  fin : Bool := false
  /-- The end of the peer's stream was taken. -/
  ended : Bool := false
  notice : Option Notice := none

namespace Control

variable (c : Control)

/-! ## Headers -/

/-- The room that is left for the peer's data. -/
def window : UInt16 := UInt16.ofNat (min c.buffer.available 65535)

/-- A header at the connection's present position. -/
def header (flags : Flags) : Header := ⟨c.next, c.expected, flags, c.window⟩

/-- A connection whose peer started with the sequence number `isn`, and the SYN|ACK that answers. The
host's own stream starts at 1, and the SYN takes one number. -/
def accept (isn : SeqNum) (capacity : Nat) : Control × Header :=
  let c : Control := ⟨.synReceived, 1, isn + 1, false, .empty capacity⟩
  ({ c with next := c.next + 1 }, c.header (.syn ||| .ack))

/-! ## Segments of the peer -/

/-- A SYN for a connection: where the first answer may have been lost it is given again. -/
def repeatSyn : Outcome :=
  if c.state = .synReceived then
    { reply := some { c.header (.syn ||| .ack) with seq := c.next - 1 } }
  else { notice := some (.unexpectedSyn c.state) }

/-- The state after the acknowledgement number `ack`. -/
def acknowledged (ack : SeqNum) : State :=
  match c.state with
  | .synReceived => .established
  | .finWait1 => if SeqNum.covers ack c.next then .finWait2 else .finWait1
  | .closing => .timeWait
  | .lastAck => .closed
  | s => s

/-- Takes the data `d` of a segment with sequence number `seq`. -/
def takeData (seq : SeqNum) (d : Bytes) (fin : Bool) : Control × Outcome :=
  if d.isEmpty then (c, { fin })
  else if c.state.mayReceive then
    match c.buffer.extend? d with
    | none => (c, { notice := some (.dataOverflow d.length seq) })
    | some b =>
      ({ c with
          expected := c.expected + UInt32.ofNat d.length
          owesAck := true
          buffer := b.drain.2 },
        { deliver := some b.drain.1, fin })
  else (c, { notice := some (.dataDropped c.state) })

/-- Takes the flags, the acknowledgement and the data of a segment. -/
def take (seg : Segment) : Control × Outcome :=
  if seg.flags.has .rst then ({ c with state := .closed }, { teardown := true })
  else if seg.flags.has .syn then (c, c.repeatSyn)
  else if seg.flags.has .ack then
    let c' := { c with state := c.acknowledged seg.ack }
    if c.state ≠ c'.state ∧ c'.state.isOver then (c', { teardown := true })
    else c'.takeData seg.seq seg.payload (seg.flags.has .fin)
  else c.takeData seg.seq seg.payload (seg.flags.has .fin)

/-- The end of the peer's stream: it takes one number, and is acknowledged with the host's own FIN
where that has not gone out yet. -/
def finished : Control × Outcome :=
  let c := { c with owesAck := false }
  let e := { c with expected := c.expected + 1 }
  match c.state with
  | .established =>
    ({ e with state := .lastAck, next := e.next + 1 },
      { reply := some (e.header (.fin ||| .ack)), ended := true })
  | .finWait1 => ({ e with state := .closing }, { reply := some (e.header .ack), ended := true })
  | .finWait2 =>
    ({ e with state := .timeWait },
      { reply := some (e.header .ack), ended := true, teardown := true })
  | s => (c, { notice := some (.finIgnored s) })

/-- The end of a segment, after the application has seen its data. -/
def finish (fin : Bool) : Control × Outcome :=
  if fin then c.finished
  else if c.owesAck then ({ c with owesAck := false }, { reply := some (c.header .ack) })
  else (c, {})

/-! ## Segments of the host -/

/-- The header of the application's data. -/
def dataHeader : Header := c.header (.psh ||| .ack)

/-- Data of `n` bytes went out. It carried an acknowledgement. -/
def sent (n : Nat) : Control := { c with next := c.next + UInt32.ofNat n, owesAck := false }

/-- The header of the host's FIN, while the connection is open. -/
def closeHeader? : Option Header :=
  if c.state.mayClose then some (c.header (.fin ||| .psh ||| .ack)) else none

/-- The host's FIN went out. -/
def closed : Control := { c with state := .finWait1, next := c.next + 1, owesAck := false }

end Control

end InetHost.Tcp
