import InetHost.Notice
import InetHost.Operation

/-!
# Events

A host keeps a journal of what happens. Some events can be seen from outside: frames on the wire,
notices, and the start of application code with its answers (`Event.visible`). The others say which
part of the host did what.
-/

namespace InetHost

/-- The number of a connection, counted over all that were ever opened. -/
abbrev ConnId := Nat

/-- Something that happened. -/
inductive Event where
  -- seen from outside
  | wire (d : DeviceId) (frame : Bytes)
  | noticed (n : Notice)
  | accepting (port : UInt16) (s : Stream)
  | reading (s : Stream) (data : Bytes)
  | notifying (id : Label) (f : Flow) (data : Bytes)
  | jobRuns (id : Label)
  | taskRuns (id : Label)
  | answered (r : Reply)
  /-- The application is about to send a packet or a frame of its own making through a device. -/
  | crafting (d : DeviceId)
  /-- It was sent or refused. -/
  | crafted (d : DeviceId)
  /-- A device was asked to send a frame. -/
  | offered (d : DeviceId) (frame : Bytes) (refusal : Option Refusal)
  /-- The hardware of a device was given a frame. -/
  | transmitted (d : DeviceId) (frame : Bytes) (refusal : Option Refusal)
  /-- A link address was to be stored. -/
  | stored (ip : Ip) (mac : Mac) (kept : Bool)
  /-- A device was presented as the owner of its address. -/
  | presented (d : DeviceId)
  /-- A segment came in. -/
  | arrived (s : Stream) (seg : Tcp.Segment)
  /-- A connection was opened by a segment with sequence number `isn`. -/
  | opened (c : ConnId) (s : Stream) (isn : Tcp.SeqNum)
  /-- A segment was to be sent through a device, for a connection or to refuse one. -/
  | emitted (c : Option ConnId) (d : DeviceId) (s : Stream) (t : Tcp.Header) (data : Bytes)
      (sent : Bool)
  /-- Data of a connection is about to be read. -/
  | delivered (c : ConnId) (data : Bytes)
  /-- The end of the peer's stream was taken. -/
  | ended (c : ConnId)
  /-- The state of a connection changed. -/
  | entered (c : ConnId) (state : Tcp.State)
  /-- Connection `c` was removed from between its two ends, as `decided` was over. -/
  | removed (c : ConnId) (s : Stream) (decided : ConnId)
  /-- Connection `c` lost its place between its two ends to a new one. -/
  | replaced (c : ConnId) (s : Stream)
  /-- A job was put on a queue. -/
  | put (q : QueueId) (j : Job)
  /-- A job was taken from a queue to be run. -/
  | started (q : QueueId) (j : Job)
  /-- A queue was found empty after `n` jobs. -/
  | drained (q : QueueId) (n : Nat)
  /-- The task of a device ran when nobody held the device any more. -/
  | deserted (d : DeviceId)

/-- An event can be seen from outside. -/
def Event.visible : Event → Bool
  | wire _ _ | noticed _ | accepting _ _ | reading _ _ | notifying _ _ _ | jobRuns _ | taskRuns _
  | answered _ => true
  | _ => false

end InetHost
