import InetHost.Host.Call
import InetHost.Host.Internet

/-!
# Connections

* `listen`: a listener for the connections to a port; a port has at most one;
* `receiveSegment`: a segment goes to the connection between its two ends. Where there is none, a SYN
  opens one if the port has a listener, and is refused otherwise;
* `sendData`, `close`: data or a FIN of the host's own. Where it cannot be sent nothing changes.

Every segment of a connection leaves through the device on which its first segment came.
-/

namespace InetHost.Host

/-! ## Sending segments -/

/-- Send a segment between two ends through a device, for connection `c` or to refuse one. -/
def sendSegment (c : Option ConnId) (d : DeviceId) (s : Stream) (t : Tcp.Header) (data : Bytes) :
    Act (Except NetError Unit) := do
  let r ← sendPacket (.withRoom headroom (Tcp.encode s t data)) Ipv4.tcp s.peer.ip d
  record (.emitted c d s t data r.toBool)
  return r

/-- Send a segment without data, and report a failure. -/
def answer (c : Option ConnId) (d : DeviceId) (s : Stream) (t : Tcp.Header) : Act Unit := do
  match ← sendSegment c d s t [] with
  | .ok _ => pure ()
  | .error e => note (.replyFailed s t.flags e)

/-- Send a segment of a connection through its device. -/
def emit (c : ConnId) (t : Tcp.Header) (data : Bytes) : Act (Except NetError Unit) := do
  let k := (← get).connection c
  sendSegment (some c) k.device k.stream t data

/-- Answer a segment of a connection. -/
def answerOn (c : ConnId) (t : Tcp.Header) : Act Unit := do
  let k := (← get).connection c
  answer (some c) k.device k.stream t

/-! ## The connections -/

/-- Change the control block of a connection. -/
def setControl (c : ConnId) (k : Tcp.Control) : Act Unit := do
  let before := ((← get).connection c).control.state
  modify fun h => { h with connections := h.connections.modify c ({ · with control := k }) }
  unless k.state = before do record (.entered c k.state)

/-- Remove the connection between two ends, as connection `decided` is over. -/
def removeStream (s : Stream) (decided : ConnId) : Act Unit := do
  match (← get).stream? s with
  | none => return
  | some c =>
    modify fun h => { h with streams := h.streams.filter (·.1 ≠ s) }
    record (.removed c s decided)

/-- Open a connection. It takes the place of one that came between the same two ends meanwhile. -/
def openStream (s : Stream) (d : DeviceId) (service : StreamService) (isn : Tcp.SeqNum)
    (k : Tcp.Control) : Act ConnId := do
  let h ← get
  let c := h.connections.length
  modify fun h => { h with
    connections := h.connections ++ [{ stream := s, device := d, control := k, service }]
    streams := h.streams.filter (·.1 ≠ s) ++ [(s, c)] }
  (h.stream? s).forM fun old => record (.replaced old s)
  record (.opened c s isn)
  return c

/-! ## Listening -/

/-- The number of a port's listener. -/
def acceptor? (h : Host) (port : UInt16) : Option Nat := h.acceptors.findIdx? (·.port == port)

/-- Add a listener for the connections to a port, if the port has none. -/
def listen (port : UInt16) (service : StreamService) : Act (Except NetError Unit) := do
  match (← get).acceptor? port with
  | some _ => return .error .portTaken
  | none =>
    modify fun h => { h with acceptors := h.acceptors ++ [⟨port, service, 0⟩] }
    return .ok ()

/-! ## Receiving segments -/

/-- Let a connection's control block take a step. -/
def steer (c : ConnId) (f : Tcp.Control → Tcp.Control × Tcp.Outcome) : Act Tcp.Outcome := do
  let (k, o) := f ((← get).connection c).control
  setControl c k
  if o.ended then record (.ended c)
  o.notice.forM note
  return o

/-- Answer what a step asks for, and remove the connection where it is over. -/
def settle (c : ConnId) (o : Tcp.Outcome) : Act Unit := do
  o.reply.forM (answerOn c)
  if o.teardown then
    let s := ((← get).connection c).stream
    note (.streamClosed s)
    removeStream s c

/-- Open the connection that a SYN asks for, if a listener accepts it. -/
def acceptStream (app : Application) (d : DeviceId) (s : Stream) (seg : Tcp.Segment) :
    Run Unit := do
  match (← get).acceptor? s.here.port with
  | some a =>
    if seg.flags.has .ack then reset
    else
      app (.accept a s)
      let h ← get
      let service := (h.acceptors.getD a default).service
      let (k, t) := Tcp.Control.accept seg.seq h.config.receiveBuffer
      let c ← openStream s d service seg.seq k
      answerOn c t
  | none => reset
where
  reset : Run Unit := do
    note (.streamRefused s)
    answer none d s (.reset seg.flags seg.seq seg.ack)

/-- Take a segment of a connection: the application reads its data before its end is answered. -/
def receiveOn (app : Application) (c : ConnId) (seg : Tcp.Segment) : Run Unit := do
  let o ← steer c (·.take seg)
  settle c o
  unless o.teardown do
    match o.deliver with
    | none => pure ()
    | some data =>
      record (.delivered c data)
      app (.read c data)
    settle c (← steer c (·.finish o.fin))

/-- Take a segment that came in on a device from `src`. -/
def receiveSegment (app : Application) (d : DeviceId) (b : Bytes) (src : Ip) : Run Unit := do
  match Tcp.Segment.decode b with
  | .error f => note (.badSegment f src)
  | .ok seg =>
    let h ← get
    let s : Stream := ⟨⟨(h.device d).ip, seg.dstPort⟩, ⟨src, seg.srcPort⟩⟩
    record (.arrived s seg)
    match h.stream? s with
    | some c => receiveOn app c seg
    | none =>
      if seg.flags.has .rst then return
      else if seg.flags.has .syn then acceptStream app d s seg
      else note (.noStream s seg.flags)

/-! ## Sending and closing -/

/-- Send data on a connection, as one segment. -/
def sendData (s : Stream) (data : Bytes) : Act (Except NetError Unit) := do
  let h ← get
  if h.config.maxSegment < data.length then
    return .error (.segmentTooLong data.length h.config.maxSegment)
  match h.stream? s with
  | none => return .error .noConnection
  | some c =>
    let k := (h.connection c).control
    if k.state.maySend then
      let r ← emit c k.dataHeader data
      if r.toBool then setControl c (k.sent data.length)
      return r
    else return .error (.notSendable s k.state)

/-- Start to close a connection; one that is closing or gone needs nothing. -/
def close (s : Stream) : Act (Except NetError Unit) := do
  let h ← get
  match h.stream? s with
  | none => return .ok ()
  | some c =>
    let k := (h.connection c).control
    match k.closeHeader? with
    | none => return .ok ()
    | some t =>
      let r ← emit c t []
      if r.toBool then setControl c k.closed
      return r

/-- The state of a connection. -/
def stateOf (h : Host) (s : Stream) : Option Tcp.State :=
  (h.stream? s).map fun c => (h.connection c).control.state

end InetHost.Host
