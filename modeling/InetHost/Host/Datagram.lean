import InetHost.Host.Call
import InetHost.Host.Internet

/-!
# Datagrams

* `subscribe`: a listener for the datagrams to a port; a port may have several;
* `receiveDatagram`: every listener that the port has when the datagram comes in is called, in the
  order in which they came;
* `sendDatagram`: a datagram leaves through the device that owns its source address.
-/

namespace InetHost.Host

/-- Add a listener for the datagrams to a port. -/
def subscribe (port : UInt16) (service : DatagramService) : Act Unit :=
  modify fun h => { h with subscribers := h.subscribers ++ [⟨port, service, 0⟩] }

/-- The numbers of a port's listeners, in the order in which they came. -/
def subscribersOf (h : Host) (port : UInt16) : List Nat :=
  (List.range h.subscribers.length).filter fun u =>
    (h.subscribers.getD u default).port == port

/-- Take a datagram that came in on a device from `src`. -/
def receiveDatagram (app : Application) (d : DeviceId) (b : Bytes) (src : Ip) : Run Unit := do
  match Udp.Datagram.decode b with
  | .error f => note (.badDatagram f src)
  | .ok m =>
    let h ← get
    let flow : Flow := ⟨⟨src, m.srcPort⟩, ⟨(h.device d).ip, m.dstPort⟩⟩
    match h.subscribersOf m.dstPort with
    | [] => note (.noListener flow)
    | us => us.forM fun u => app (.notify u flow m.payload)

/-- Send a datagram. -/
def sendDatagram (f : Flow) (data : Bytes) : Act (Except NetError Unit) := do
  let h ← get
  match h.owner? f.src.ip with
  | none => return .error (.noDevice f.src.ip)
  | some d =>
    if h.config.maxDatagram < data.length then
      return .error (.datagramTooLong data.length h.config.maxDatagram)
    sendPacket (.withRoom headroom (Udp.encode f data)) Ipv4.udp f.dst.ip d

end InetHost.Host
