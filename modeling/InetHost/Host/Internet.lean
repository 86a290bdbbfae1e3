import InetHost.Host.Resolve
import InetHost.Icmp
import InetHost.Ipv4

/-!
# Sending packets

* `register`: a device becomes the owner of its address, unless the address has an owner;
* `announce`: register a device and tell everybody its address;
* `sendPacket`: a packet is built in a buffer and sent to the link address of its destination;
* `receiveIcmp`: the answer to an echo request.
-/

namespace InetHost.Host

/-- Make a device the owner of its address, if nobody is. -/
def register (d : DeviceId) : Act Unit := do
  record (.presented d)
  let h ← get
  let ip := (h.device d).ip
  if (h.owner? ip).isNone then
    note (.registered ip)
    modify fun h => { h with owners := h.owners ++ [(ip, d)] }

/-- Register a device and tell everybody its address. -/
def announce (d : DeviceId) : Act (Except NetError Unit) := do
  register d
  advertise d

/-- The headroom that the headers of a packet and of a frame take. -/
def headroom : Nat := Ethernet.headerLength + Ipv4.headerLength

/-- Put a packet's header in front of a buffer's content and send the packet to `dst`. Of several
faults the first counts: no room for the header, too long, not resolved, no room for the frame's
header. -/
def sendPacket (b : PacketBuffer) (protocol : UInt8) (dst : Ip) (d : DeviceId) :
    Act (Except NetError Unit) := do
  let h ← get
  let length := Ipv4.headerLength + b.size
  match b.prepend (Ipv4.header h.config.ttl protocol length (h.device d).ip dst) with
  | .error e => return .error e
  | .ok b =>
    if Ipv4.maxLength < length then return .error (.packetTooLong length)
    match ← lookup d dst with
    | none => return .error (.unresolved dst)
    | some mac => sendFrame b Ethernet.ipv4Type mac d

/-- Take a control message that came in on a device from `src`. -/
def receiveIcmp (d : DeviceId) (b : Bytes) (src : Ip) : Act Unit := do
  match Icmp.Message.decode? b with
  | none => note (.icmpShort b.length src)
  | some m =>
    if m.type = Icmp.echoRequest then
      match ← sendPacket (.withRoom headroom (Icmp.echoReply m.bytes)) Ipv4.icmp src d with
      | .ok _ => pure ()
      | .error e => note (.echoFailed src e)
    else note (.icmpIgnored m.type src)

end InetHost.Host
