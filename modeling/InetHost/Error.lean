import InetHost.Address.Endpoint
import InetHost.Text.Quoted
import InetHost.Tcp.State

/-!
# Errors

* `ErrorKind`: what sort of error it is, with the standard text of the sort;
* `Refusal`: the error of a device that does not take a frame;
* `NetError`: the causes. `NetError.kind` sorts them, `NetError.message` is their text and
  `NetError.describe` names sort and text, as log messages do.
-/

namespace InetHost

/-! ## Sorts of errors -/

/-- A sort of error. -/
inductive ErrorKind where
  | invalidInput
  | invalidData
  | notFound
  | notConnected
  | addrInUse
  | unsupported
  | wouldBlock
  | brokenPipe
  | timedOut
  | other
  /-- A caller moved the head of a buffer out of its store. -/
  | overrun
  deriving DecidableEq, Repr, Inhabited

namespace ErrorKind

/-- The name of a sort. -/
def name : ErrorKind → String
  | invalidInput => "InvalidInput"
  | invalidData => "InvalidData"
  | notFound => "NotFound"
  | notConnected => "NotConnected"
  | addrInUse => "AddrInUse"
  | unsupported => "Unsupported"
  | wouldBlock => "WouldBlock"
  | brokenPipe => "BrokenPipe"
  | timedOut => "TimedOut"
  | other => "Other"
  | overrun => "Overrun"

/-- The standard text of a sort, for errors without one of their own. -/
def text : ErrorKind → String
  | invalidInput => "invalid input parameter"
  | invalidData => "invalid data"
  | notFound => "entity not found"
  | notConnected => "not connected"
  | addrInUse => "address in use"
  | unsupported => "unsupported"
  | wouldBlock => "operation would block"
  | brokenPipe => "broken pipe"
  | timedOut => "timed out"
  | other => "other error"
  | overrun => "buffer overrun"

end ErrorKind

/-- Why a device does not take a frame. -/
structure Refusal where
  kind : ErrorKind
  detail : Option String := none
  deriving DecidableEq, Repr, Inhabited

/-! ## Causes -/

/-- What can go wrong. -/
inductive NetError where
  /-- The configured packet size is under the least that every host takes. -/
  | mtuTooSmall
  | ttlZero
  | arpCapacityZero
  | receiveBufferZero
  | ipv6Address
  | addressText
  /-- A packet does not fit the length field of its header. -/
  | packetTooLong (length : Nat)
  /-- The link address of a destination is not known. -/
  | unresolved (ip : Ip)
  /-- No device owns a source address. -/
  | noDevice (ip : Ip)
  | datagramTooLong (length max : Nat)
  | segmentTooLong (length max : Nat)
  /-- There is no such connection. -/
  | noConnection
  /-- The connection is in a state in which nothing is sent. -/
  | notSendable (s : Stream) (state : Tcp.State)
  /-- The port has a listener already. -/
  | portTaken
  | refused (r : Refusal)
  /-- The head of a buffer was to move beyond the end of its store. -/
  | bufferOverflow
  /-- The head of a buffer was to move before the start of its store. -/
  | bufferUnderflow
  deriving DecidableEq, Repr, Inhabited

namespace NetError

/-- The sort of an error. -/
def kind : NetError → ErrorKind
  | mtuTooSmall | ttlZero | arpCapacityZero | receiveBufferZero => .invalidData
  | ipv6Address => .unsupported
  | addressText | packetTooLong _ | datagramTooLong _ _ | segmentTooLong _ _ => .invalidInput
  | unresolved _ | noDevice _ => .notFound
  | noConnection | notSendable _ _ => .notConnected
  | portTaken => .addrInUse
  | refused r => r.kind
  | bufferOverflow | bufferUnderflow => .overrun

/-- The text of an error that has one of its own. -/
def detail? : NetError → Option String
  | mtuTooSmall => some "mtu<576"
  | ttlZero => some "ttl is zero"
  | arpCapacityZero => some "arp_capacity is zero"
  | receiveBufferZero => some "tcp_recv_buffer_size is zero"
  | ipv6Address => some "ipv6 is not supported"
  | addressText => some "invalid IPv4 socket address syntax"
  | packetTooLong n => some s!"ip packet too long: {n}"
  | unresolved ip => some s!"{ip} is not resolved"
  | noDevice ip => some s!"no device for {ip}"
  | datagramTooLong n max => some s!"udp payload too long: {n}>{max}"
  | segmentTooLong n max => some s!"tcp payload too long: {n}>{max}"
  | noConnection | portTaken => none
  | notSendable s state => some s!"tcp {s} is {state}"
  | refused r => r.detail
  | bufferOverflow => some "net: sbuff overflow"
  | bufferUnderflow => some "net: sbuff underflow"

variable (e : NetError)

/-- The text of an error: its own, or that of its sort. -/
def message : String := e.detail?.getD e.kind.text

/-- Sort and text by name. -/
def describe : String :=
  match e.detail? with
  | some t => s!"Custom \x7b kind: {e.kind.name}, error: {Text.quoted t} \x7d"
  | none => s!"Kind({e.kind.name})"

end NetError

end InetHost
