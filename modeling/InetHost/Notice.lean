import InetHost.Address.Mac
import InetHost.Error
import InetHost.Ipv4
import InetHost.Tcp.Segment
import InetHost.Udp

/-!
# Notices

What a host reports about packets that it drops and answers that it cannot send. A `Notice` is the
fact; `Notice.level` says how grave it is and `Notice.text` puts it into words.
-/

namespace InetHost

/-- How grave a notice is. -/
inductive Level where
  | warn
  | debug
  deriving DecidableEq, Repr

/-- The name of a level. -/
def Level.name : Level → String
  | warn => "WARN"
  | debug => "DEBUG"

/-- A fact that a host reports. -/
inductive Notice where
  -- frames
  | frameShort (received : Nat)
  | ipv6Dropped
  | unknownType (type : UInt16)
  | transmitFailed (ip : Ip) (e : NetError)
  -- address resolution
  | arpShort (received : Nat)
  | arpOperation (op : UInt16)
  | arpRequestFailed (ip : Ip) (e : NetError)
  | arpReplyFailed (ip : Ip) (e : NetError)
  | arpTableFull (ip : Ip) (mac : Mac)
  -- packets
  | registered (ip : Ip)
  | badPacket (f : Ipv4.Fault)
  | igmpIgnored (src : Ip)
  | unknownProtocol (protocol : UInt8) (src : Ip)
  -- control messages
  | icmpShort (received : Nat) (src : Ip)
  | icmpIgnored (type : UInt8) (src : Ip)
  | echoFailed (ip : Ip) (e : NetError)
  -- datagrams
  | badDatagram (f : Udp.Fault) (src : Ip)
  | noListener (f : Flow)
  -- connections
  | badSegment (f : Tcp.Fault) (src : Ip)
  | noStream (s : Stream) (flags : Tcp.Flags)
  | streamRefused (s : Stream)
  | streamClosed (s : Stream)
  | replyFailed (s : Stream) (flags : Tcp.Flags) (e : NetError)
  | unexpectedSyn (state : Tcp.State)
  | dataDropped (state : Tcp.State)
  | dataOverflow (length : Nat) (seq : Tcp.SeqNum)
  | finIgnored (state : Tcp.State)
  -- services
  | echoListenFailed (e : NetError)
  | pageListenFailed (e : NetError)
  | streamEchoFailed (peer : Endpoint) (e : NetError)
  | datagramEchoFailed (peer : Endpoint) (e : NetError)
  | pageFailed (peer : Endpoint) (e : NetError)
  deriving DecidableEq, Repr

namespace Notice

/-- How grave a notice is: what a well-behaved peer may cause is for debugging only. -/
def level : Notice → Level
  | ipv6Dropped | arpOperation _ | registered _ | igmpIgnored _ | icmpIgnored _ _ | noListener _
  | noStream _ _ | streamRefused _ | streamClosed _ | unexpectedSyn _ | dataDropped _
  | finIgnored _ => .debug
  | _ => .warn

/-- Hexadecimal with its mark and at least `w` digits. -/
def marked (w n : Nat) : String := "0x" ++ Text.hex w n

/-- The words for a notice. -/
def text : Notice → String
  | frameShort n => s!"ethernet frame too short: {n} bytes"
  | ipv6Dropped => "ipv6 frame dropped"
  | unknownType t => s!"unknown ethernet frame type: {marked 4 t.toNat}"
  | transmitFailed ip e => s!"device {ip} transmit failed: {e.describe}"
  | arpShort n => s!"arp packet too short: {n} bytes"
  | arpOperation op => s!"unsupported arp operation {op.toNat}"
  | arpRequestFailed ip e => s!"arp request for {ip} failed: {e.describe}"
  | arpReplyFailed ip e => s!"arp reply to {ip} failed: {e.describe}"
  | arpTableFull ip mac => s!"arp table full, dropping {ip} is-at {mac}"
  | registered ip => s!"device {ip} registered"
  | badPacket (.short n) => s!"ip packet too short: {n} bytes"
  | badPacket (.version n) => s!"not an ipv4 packet: version {n}"
  | badPacket (.length h t n) => s!"bad ip packet length: header={h},total={t},received={n}"
  | badPacket (.checksum src) => s!"bad ip header checksum from {src}"
  | igmpIgnored src => s!"igmp packet from {src} ignored"
  | unknownProtocol p src => s!"unsupported ip protocol {p.toNat} from {src}"
  | icmpShort n src => s!"icmp packet too short: {n} bytes from {src}"
  | icmpIgnored t src => s!"icmp type {t.toNat} from {src} ignored"
  | echoFailed ip e => s!"icmp echo reply to {ip} failed: {e.describe}"
  | badDatagram (.short n) src => s!"udp packet too short: {n} bytes from {src}"
  | badDatagram (.length l n) src => s!"bad udp length {l} from {src}, received {n}"
  | noListener f => s!"udp {f} has no listener"
  | badSegment (.short n) src => s!"tcp packet too short: {n} bytes from {src}"
  | badSegment (.offset n) src => s!"bad tcp data offset {n} from {src}"
  | noStream s f => s!"tcp {s} has no connection, flags={marked 2 f.bits.toNat}"
  | streamRefused s => s!"tcp {s} refused"
  | streamClosed s => s!"tcp {s} closed"
  | replyFailed s f e => s!"tcp {s} reply failed,flags={marked 2 f.bits.toNat}: {e.describe}"
  | unexpectedSyn st => s!"unexpected syn in {st}"
  | dataDropped st => s!"data in {st} dropped"
  | dataOverflow n seq => s!"tcp receive buffer overflow, {n} bytes dropped,seq={seq.toNat}"
  | finIgnored st => s!"fin in {st} ignored"
  | echoListenFailed e => s!"cannot listen on port 7 for tcp echo: {e.describe}"
  | pageListenFailed e => s!"failed to listen on port 80: {e.describe}"
  | streamEchoFailed peer e => s!"tcp echo to {peer} failed: {e.describe}"
  | datagramEchoFailed peer e => s!"udp echo to {peer} failed: {e.describe}"
  | pageFailed peer e => s!"http response to {peer} failed: {e.describe}"

end Notice

end InetHost
