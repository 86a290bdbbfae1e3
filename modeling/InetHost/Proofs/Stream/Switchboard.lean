import InetHost.Proofs.Run.Chore
import Mathlib.Data.List.GetD

/-!
# The switchboard of a host

All that a host does on its connections can be told from a few of its parts: the connections that are
alive, the control block of every connection, and what the journal says about connections and about
calls of the application. Together they are the host's `Switchboard`.

* `Line`, `Switchboard`; `Host.board`: the switchboard of a host;
* `Switchboard.take`, `finish`, `send`, `shut`, `connect`: what a host does on a switchboard. Whether
  a segment could be sent is not decided here but told by an argument.
-/

namespace InetHost

/-! ## Events of connections -/

/-- The connection whose doings an event tells. -/
def Event.about : Event → Option ConnId
  | .opened c _ _ | .delivered c _ | .ended c | .entered c _ => some c
  | .emitted c _ _ _ _ _ => c
  | _ => none

/-- An event of connections, or a call of the application. -/
def Event.onBoard : Event → Bool
  | .arrived _ _ | .opened _ _ _ | .emitted _ _ _ _ _ _ | .delivered _ _ | .ended _ | .entered _ _
  | .removed _ _ _ | .replaced _ _ => true
  | e => e.isCall

theorem Event.onBoard_of_isCall {e : Event} (he : e.isCall = true) : e.onBoard = true := by
  cases e <;> first | rfl | cases he

/-! ## Lines -/

/-- A connection without the application that it serves. -/
structure Line where
  stream : Stream
  device : DeviceId
  control : Tcp.Control
  deriving Inhabited

/-- The line of a connection. -/
def Connection.line (k : Connection) : Line := ⟨k.stream, k.device, k.control⟩

/-- The parts of a host that have to do with its connections. -/
structure Switchboard where
  /-- The size of a receive buffer. -/
  capacity : Nat
  /-- The addresses of the devices. -/
  addresses : List Ip
  streams : List (Stream × ConnId)
  lines : List Line
  /-- The events of connections and the calls of the application, the last first. -/
  history : List Event

/-- The switchboard of a host. -/
def Host.board (h : Host) : Switchboard where
  capacity := h.config.receiveBuffer
  addresses := h.devices.map (·.ip)
  streams := h.streams
  lines := h.connections.map (·.line)
  history := h.journal.filter Event.onBoard

namespace Switchboard

variable (v : Switchboard)

/-- The connection that is alive between two ends. -/
def stream? (s : Stream) : Option ConnId := v.streams.lookup s

/-- The line of a connection. -/
def line (c : ConnId) : Line := v.lines.getD c default

/-- The control block of a connection. -/
def control (c : ConnId) : Tcp.Control := (v.line c).control

/-- The address of a device. -/
def address (d : DeviceId) : Ip := v.addresses.getD d default

/-! ## What is done on a switchboard -/

/-- Enter an event. -/
def log (e : Event) : Switchboard := { v with history := e :: v.history }

/-- Enter that a segment of a connection was to be sent. -/
def emit (c : ConnId) (t : Tcp.Header) (data : Bytes) (sent : Bool) : Switchboard :=
  v.log (.emitted (some c) (v.line c).device (v.line c).stream t data sent)

/-- Write the control block of a connection. -/
def write (c : ConnId) (k : Tcp.Control) : Switchboard :=
  { v with lines := v.lines.modify c ({ · with control := k }) }

/-- Change the control block of a connection. -/
def setControl (c : ConnId) (k : Tcp.Control) : Switchboard :=
  if k.state = (v.control c).state then v.write c k else (v.write c k).log (.entered c k.state)

/-- Remove the connection between two ends, as connection `decided` is over. -/
def remove (s : Stream) (decided : ConnId) : Switchboard :=
  match v.stream? s with
  | none => v
  | some c => { v with streams := v.streams.filter (·.1 ≠ s) }.log (.removed c s decided)

/-- A control block took a step. -/
def steer (c : ConnId) (r : Tcp.Control × Tcp.Outcome) : Switchboard :=
  let w := v.setControl c r.1
  if r.2.ended then w.log (.ended c) else w

/-- The reply of a step, if it has one, is sent. -/
def reply (c : ConnId) (o : Tcp.Outcome) (sent : Bool) : Switchboard :=
  match o.reply with
  | some t => v.emit c t [] sent
  | none => v

/-- What a step asked for is done. -/
def settle (c : ConnId) (o : Tcp.Outcome) (sent : Bool) : Switchboard :=
  let w := v.reply c o sent
  if o.teardown then w.remove (w.line c).stream c else w

/-- The data of a step, if it has any, is about to be read. -/
def deliver (c : ConnId) (o : Tcp.Outcome) : Switchboard :=
  match o.deliver with
  | some b => v.log (.delivered c b)
  | none => v

/-- A connection takes a segment. -/
def take (c : ConnId) (seg : Tcp.Segment) (sent : Bool) : Switchboard :=
  let r := (v.control c).take seg
  ((v.steer c r).settle c r.2 sent).deliver c r.2

/-- A connection comes to the end of a segment. -/
def finish (c : ConnId) (fin : Bool) (sent : Bool) : Switchboard :=
  let r := (v.control c).finish fin
  (v.steer c r).settle c r.2 sent

/-- A segment of the host's own is sent. Where that succeeds the control block becomes `k`. -/
def advance (c : ConnId) (t : Tcp.Header) (data : Bytes) (k : Tcp.Control) (sent : Bool) :
    Switchboard :=
  let w := v.emit c t data sent
  if sent then w.setControl c k else w

/-- Data of the application is sent. -/
def send (c : ConnId) (data : Bytes) (sent : Bool) : Switchboard :=
  let k := v.control c
  v.advance c k.dataHeader data (k.sent data.length) sent

/-- The host's FIN is sent. -/
def shut (c : ConnId) (t : Tcp.Header) (sent : Bool) : Switchboard :=
  v.advance c t [] (v.control c).closed sent

/-- A connection takes its place between two ends. -/
def place (s : Stream) (d : DeviceId) (isn : Tcp.SeqNum) (k : Tcp.Control) : Switchboard :=
  let c := v.lines.length
  let w : Switchboard := { v with
    lines := v.lines ++ [⟨s, d, k⟩]
    streams := v.streams.filter (·.1 ≠ s) ++ [(s, c)] }
  let w := match v.stream? s with
    | some old => w.log (.replaced old s)
    | none => w
  w.log (.opened c s isn)

/-- A connection is opened, and its first segment answered. -/
def connect (s : Stream) (d : DeviceId) (isn : Tcp.SeqNum) (sent : Bool) : Switchboard :=
  let (k, t) := Tcp.Control.accept isn v.capacity
  (v.place s d isn k).emit v.lines.length t [] sent

end Switchboard

/-! ## Host and switchboard -/

namespace Host

open Switchboard

variable {h : Host}

@[simp] theorem stream?_board (h : Host) (s : Stream) : h.board.stream? s = h.stream? s := rfl

@[simp] theorem length_lines_board (h : Host) : h.board.lines.length = h.connections.length :=
  List.length_map _

@[simp] theorem line_board (h : Host) (c : ConnId) : h.board.line c = (h.connection c).line := by
  unfold Switchboard.line board connection
  rw [show (default : Line) = (default : Connection).line from rfl]
  exact List.getD_map _ _ _

@[simp] theorem control_board (h : Host) (c : ConnId) :
    h.board.control c = (h.connection c).control := by
  rw [Switchboard.control, line_board]
  rfl

@[simp] theorem address_board (h : Host) (d : DeviceId) : h.board.address d = (h.device d).ip := by
  unfold Switchboard.address board device
  rw [show (default : Ip) = (default : Device).ip from rfl]
  exact List.getD_map _ _ _

theorem map_modify {α β : Type} {f : α → α} (g : α → β) (f' : β → β) (hg : ∀ a, g (f a) = f' (g a))
    (l : List α) (n : Nat) : (l.modify n f).map g = (l.map g).modify n f' := by
  induction l generalizing n with
  | nil => simp
  | cons a l ih => cases n <;> simp [hg, ih]

theorem board_record (h : Host) (e : Event) :
    ((record e).run h).2.board = if e.onBoard then h.board.log e else h.board := by
  change board { h with journal := e :: h.journal } = _
  unfold board
  by_cases he : e.onBoard
  · rw [if_pos he, List.filter_cons_of_pos he]
    rfl
  · rw [if_neg he, List.filter_cons_of_neg he]

theorem board_log {e : Event} (he : e.onBoard = true) (h : Host) :
    ((record e).run h).2.board = h.board.log e := by
  rw [board_record, if_pos he]

end Host

end InetHost
