import InetHost.Arp.Packet
import InetHost.Host.Link

/-!
# Resolving addresses

* `lookup`: the link address of an address. Where it is not known a question is broadcast, and the
  caller does not wait for the answer;
* `store`: note a link address, with a notice where the table is full;
* `advertise`: tell everybody a device's own address;
* `receiveArp`: answer a question for the receiving device's address and note an answer to it.
-/

namespace InetHost.Host

/-- Broadcast the question who has `ip`. -/
def askFor (d : DeviceId) (ip : Ip) : Act (Except NetError Unit) := do
  let v := (← get).device d
  let p : Arp.Packet := ⟨Arp.request, v.mac, v.ip, .zero, ip⟩
  sendFrame (.withRoom Ethernet.headerLength p.encode) Ethernet.arpType .broadcast d

/-- Tell `mac`, whose address is `ip`, the device's address; everybody, if `mac` is nobody's. -/
def tell (d : DeviceId) (mac : Mac) (ip : Ip) : Act (Except NetError Unit) := do
  let v := (← get).device d
  let p : Arp.Packet := ⟨Arp.reply, v.mac, v.ip, mac, ip⟩
  let dst := if mac = .zero then .broadcast else mac
  sendFrame (.withRoom Ethernet.headerLength p.encode) Ethernet.arpType dst d

/-- Tell everybody the device's address. -/
def advertise (d : DeviceId) : Act (Except NetError Unit) := do
  tell d .zero ((← get).device d).ip

/-- The link address of `ip`, if it is known; else ask for it. -/
def lookup (d : DeviceId) (ip : Ip) : Act (Option Mac) := do
  match (← get).arp.get? ip with
  | some mac => return some mac
  | none =>
    match ← askFor d ip with
    | .ok _ => pure ()
    | .error e => note (.arpRequestFailed ip e)
    return none

/-- Note that `ip` is at `mac`; `false` where there is no room for it. -/
def store (ip : Ip) (mac : Mac) : Act Bool := do
  match (← get).arp.insert? ip mac with
  | some t =>
    modify ({ · with arp := t })
    record (.stored ip mac true)
    return true
  | none =>
    record (.stored ip mac false)
    note (.arpTableFull ip mac)
    return false

/-- Take an ARP packet that came in on a device. -/
def receiveArp (d : DeviceId) (b : Bytes) : Act Unit := do
  match Arp.Packet.decode? b with
  | none => note (.arpShort b.length)
  | some p =>
    if p.targetIp = ((← get).device d).ip then
      if p.op = Arp.request then
        match ← tell d p.senderMac p.senderIp with
        | .ok _ => pure ()
        | .error e => note (.arpReplyFailed p.senderIp e)
      else if p.op = Arp.reply then
        discard (store p.senderIp p.senderMac)
      else note (.arpOperation p.op)

end InetHost.Host
