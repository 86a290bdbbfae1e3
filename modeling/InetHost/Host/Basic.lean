import InetHost.Arp.Table
import InetHost.Buffer.Packet
import InetHost.Event
import InetHost.Tcp.Control

/-!
# The state of a host

* `Device`, `Connection`, `Acceptor`, `Subscriber`, `Task`: what a host has to do with;
* `Host`: all of it, with a journal of what happened;
* `Act`: what changes a host at once; `Run`: what may call application code and so need not end;
* `record`, `note`: entries in the journal.
-/

namespace InetHost

/-! ## Devices -/

/-- The frames that wait for a device's hardware. -/
structure Staging where
  /-- The queue of the task that hands them over. -/
  queue : QueueId
  task : TaskId
  frames : List Bytes
  deriving DecidableEq, Repr, Inhabited

/-- A network device. -/
structure Device where
  mac : Mac
  ip : Ip
  /-- Without staging, a frame reaches the hardware at once. -/
  staging : Option Staging := none
  /-- How the hardware takes the next frames, one after another: without an error or with one. After the
  last entry, the last again. -/
  outcomes : List (Option Refusal) := []
  /-- The application holds the device. -/
  held : Bool := true
  deriving DecidableEq, Repr, Inhabited

/-- The error with which the hardware fails next. -/
def Device.failure (v : Device) : Option Refusal := v.outcomes.headD none

/-- The outcomes that are left when the hardware has been given a frame. -/
def Device.outcomesLeft (v : Device) : List (Option Refusal) :=
  if v.outcomes.tail.isEmpty then v.outcomes else v.outcomes.tail

/-! ## Connections and listeners -/

/-- Application code for connections. -/
inductive StreamService where
  /-- Sends back what it reads. -/
  | echo
  /-- Answers every read with a page. -/
  | page
  | script (accept read : Script)
  deriving Inhabited

/-- Application code for datagrams. -/
inductive DatagramService where
  /-- Sends back what it reads. -/
  | echo
  | script (id : Label) (notify : Script)
  deriving Inhabited

/-- A connection. -/
structure Connection where
  stream : Stream
  /-- The device on which its first segment came. -/
  device : DeviceId
  control : Tcp.Control
  service : StreamService
  /-- The number of reads so far. -/
  reads : Nat := 0
  deriving Inhabited

/-- A listener for connections. -/
structure Acceptor where
  port : UInt16
  service : StreamService
  /-- The number of calls so far. -/
  calls : Nat := 0
  deriving Inhabited

/-- A listener for datagrams. -/
structure Subscriber where
  port : UInt16
  service : DatagramService
  /-- The number of calls so far. -/
  calls : Nat := 0
  deriving Inhabited

/-! ## Tasks -/

/-- What a task does when it runs. -/
inductive TaskBody where
  /-- Hands a staged frame to the hardware of a device. -/
  | transmit (d : DeviceId)
  | script (id : Label) (runs : Script)
  deriving Inhabited

/-- Work that can be put on a queue again and again, but waits there at most once. -/
structure Task where
  body : TaskBody
  /-- The task is on a queue. -/
  queued : Bool := false
  /-- The number of runs so far. -/
  runs : Nat := 0
  deriving Inhabited

/-! ## The host -/

/-- The state of a host. -/
structure Host where
  config : Config := {}
  arp : Arp.Table := .empty config.arpCapacity
  /-- The device that owns an address. -/
  owners : List (Ip × DeviceId) := []
  /-- Every connection ever opened. -/
  connections : List Connection := []
  /-- The connections that are alive, under their two ends. -/
  streams : List (Stream × ConnId) := []
  acceptors : List Acceptor := []
  subscribers : List Subscriber := []
  devices : List Device := []
  /-- The jobs that wait, queue by queue. -/
  queues : List (List Job) := []
  tasks : List Task := []
  /-- The tasks that the application knows by name. -/
  taskNames : List (Label × TaskId) := []
  /-- Devices that an operation in progress holds. -/
  lent : List DeviceId := []
  /-- What happened, the last first. -/
  journal : List Event := []
  deriving Inhabited

/-- What changes a host at once. -/
abbrev Act := StateM Host

/-- What may call application code; `none` where it has not come to an end. -/
abbrev Run := OptionT Act

namespace Host

variable (h : Host)

/-- A device by its number. -/
def device (d : DeviceId) : Device := h.devices.getD d default

/-- A connection by its number. -/
def connection (c : ConnId) : Connection := h.connections.getD c default

/-- The connection that is alive between two ends. -/
def stream? (s : Stream) : Option ConnId := h.streams.lookup s

/-- The device that owns an address. -/
def owner? (ip : Ip) : Option DeviceId := h.owners.lookup ip

/-- A queue by its number; one that was never used is empty. -/
def queue (q : QueueId) : List Job := h.queues.getD q []

/-- A task by its number. -/
def task (t : TaskId) : Task := h.tasks.getD t default

/-! ## The journal -/

/-- Enter an event in the journal. -/
def record (e : Event) : Act Unit := modify fun h => { h with journal := e :: h.journal }

/-- Report a fact. -/
def note (n : Notice) : Act Unit := record (.noticed n)

/-- The events in the journal after its first `n`, in the order in which they happened. -/
def eventsAfter (n : Nat) : List Event := (h.journal.take (h.journal.length - n)).reverse

end Host

end InetHost
