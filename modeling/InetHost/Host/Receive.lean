import InetHost.Host.Datagram
import InetHost.Host.Stream

/-!
# Receiving frames

A frame is taken apart from the outside in, and every layer either drops it with a notice or hands
its content to the next.

* `receiveFrame`: an Ethernet frame;
* `receivePacket`: an IPv4 packet. Its device is registered whatever the packet is.
-/

namespace InetHost.Host

/-- Take a packet that came in on a device. -/
def receivePacket (app : Application) (d : DeviceId) (b : Bytes) : Run Unit := do
  register d
  match Ipv4.Packet.decode b with
  | .error f => note (.badPacket f)
  | .ok p =>
    if p.protocol = Ipv4.icmp then receiveIcmp d p.payload p.src
    else if p.protocol = Ipv4.igmp then note (.igmpIgnored p.src)
    else if p.protocol = Ipv4.tcp then receiveSegment app d p.payload p.src
    else if p.protocol = Ipv4.udp then receiveDatagram app d p.payload p.src
    else note (.unknownProtocol p.protocol p.src)

/-- Take a frame that came in on a device. -/
def receiveFrame (app : Application) (d : DeviceId) (b : Bytes) : Run Unit := do
  match Ethernet.Frame.decode? b with
  | none => note (.frameShort b.length)
  | some f =>
    if f.type = Ethernet.ipv4Type then receivePacket app d f.payload
    else if f.type = Ethernet.arpType then receiveArp d f.payload
    else if f.type = Ethernet.ipv6Type then note .ipv6Dropped
    else note (.unknownType f.type)

end InetHost.Host
