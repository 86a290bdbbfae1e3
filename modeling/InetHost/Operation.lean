import InetHost.Config
import InetHost.Address.Mac

/-!
# Operations and scripts

What can be asked of a host, from outside or by the application code that the host calls.

* `Op`: an operation, `Reply`: its answer;
* `Script`: application code, as a list of operations for every call of it; `Script.entry` picks the
  list of a call;
* `Job`: deferred work on a queue;
* `Context`: what application code knows of the call that it serves. `Content.resolve` and
  `Target.resolve` say what an operation means by it.
-/

namespace InetHost

/-! ## Names -/

/-- The number of a device. -/
abbrev DeviceId := Nat

/-- The number of a queue; the host's own queue is the first. -/
abbrev QueueId := Nat

/-- The number of a task. -/
abbrev TaskId := Nat

/-- The name that an application gives to a listener, a job or a task. -/
inductive Label where
  | number (n : Nat)
  | word (s : String)
  deriving DecidableEq, Repr, Inhabited

/-! ## What an operation refers to -/

/-- Data: some bytes, or those that the application was called with. -/
inductive Content where
  | bytes (b : Bytes)
  | received
  deriving DecidableEq, Repr

/-- A connection: a given one, or the one that the application was called for. -/
inductive Target where
  | stream (s : Stream)
  | current
  deriving DecidableEq, Repr

/-- What application code knows of the call that it serves. -/
structure Context where
  /-- The connection it was called for. -/
  stream : Option Stream := none
  /-- The way of the datagram it was called for. -/
  flow : Option Flow := none
  /-- The data it was called with. -/
  data : Bytes := []
  deriving DecidableEq, Repr, Inhabited

/-- The bytes that are meant. -/
def Content.resolve (x : Context) : Content → Bytes
  | bytes b => b
  | received => x.data

/-- The connection that is meant. -/
def Target.resolve (x : Context) : Target → Option Stream
  | stream s => some s
  | current => x.stream

/-! ## Operations -/

/-- An operation on a host. -/
inductive Op where
  -- frames and queues
  | receive (d : DeviceId) (frame : Content)
  | defer (d : DeviceId) (frame : Content)
  | poll (q : QueueId)
  | pending (q : QueueId)
  -- addresses
  | register (d : DeviceId)
  | ownerOf (ip : Ip)
  | announce (d : DeviceId)
  | advertise (d : DeviceId)
  | lookup (d : DeviceId) (ip : Ip)
  | store (ip : Ip) (mac : Mac)
  -- single layers
  | receiveArp (d : DeviceId) (data : Content)
  | receivePacket (d : DeviceId) (data : Content)
  | receiveIcmp (d : DeviceId) (data : Content) (src : Ip)
  | receiveSegment (d : DeviceId) (data : Content) (src : Ip)
  | receiveDatagram (d : DeviceId) (data : Content) (src : Ip)
  | sendPacket (d : DeviceId) (protocol : UInt8) (dst : Ip) (room : Nat) (data : Content)
  | sendFrame (d : DeviceId) (type : UInt16) (dst : Mac) (room : Nat) (data : Content)
  -- streams
  | listen (port : UInt16) (accept read : List (List Op))
  | send (t : Target) (data : Content)
  | close (t : Target)
  | stateOf (t : Target)
  -- datagrams
  | subscribe (port : UInt16) (id : Label) (notify : List (List Op))
  | sendDatagram (f : Option Flow) (data : Content)
  -- services
  | serveEcho
  | servePage
  -- views
  | summary
  | settings
  | deviceState (d : DeviceId)
  -- devices
  | setFailure (d : DeviceId) (r : Option Refusal)
  | release (d : DeviceId)
  -- jobs and tasks
  | spawn (q : QueueId) (id : Label) (ops : List Op)
  | define (id : Label) (runs : List (List Op))
  | enqueue (id : Label) (q : QueueId)
  | taskState (id : Label)

/-- Application code: the operations of its first call, of its second, and so on. -/
abbrev Script := List (List Op)

/-- The operations of call number `k`; after the last list, the last again. -/
def Script.entry (s : Script) (k : Nat) : List Op := s.getD (min k (s.length - 1)) []

/-- The answer to an operation. -/
inductive Reply where
  | done
  | failed (e : NetError)
  | flag (b : Bool)
  | count (n : Nat)
  | device (d : Option DeviceId)
  | mac (m : Option Mac)
  | state (s : Option Tcp.State)
  | text (s : String)
  /-- The number of jobs on a queue. -/
  | queue (pending : Nat)
  | task (queued : Bool)
  /-- Addresses of a device, and the number of its staged frames where it stages them. -/
  | interface (mac : Mac) (ip : Ip) (staged : Option Nat)
  deriving DecidableEq, Repr, Inhabited

/-- The answer to an operation that has no value to give. -/
def Reply.ofExcept : Except NetError Unit → Reply
  | .ok _ => .done
  | .error e => .failed e

/-! ## Deferred work -/

/-- A piece of deferred work. -/
inductive Job where
  /-- A received frame. -/
  | frame (d : DeviceId) (b : Bytes)
  /-- Application code that runs once. -/
  | once (id : Label) (ops : List Op)
  /-- A task that can be put on a queue again and again. -/
  | task (t : TaskId)

end InetHost
