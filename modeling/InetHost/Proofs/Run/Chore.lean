import InetHost.Proofs.Run.History
import InetHost.Proofs.Run.Within

/-!
# Chores

A host does a small number of things that have nothing to do with its connections. A `Chore` is one of
them, with what is known when it is done: a frame is offered only if it is `Framed`, and a task is put
on a queue only by a name that it has. All else that a host does apart from its connections, and apart
from running jobs, is made of `Chores`, one after another.

* `arpFrame`, `packetFrame`: the frames that a host makes;
* `Framed`: the frames that it offers apart from its connections. `X` stands for further frames, so
  that the same chores serve to send a segment;
* `Polling`: what a host does to run jobs;
* `does_sendFrame`, `does_sendPacket`, …: what sending is made of, for every relation between hosts;
* `chores_sendPacket`, `chores_receiveArp`, …: one lemma for each act.
-/

namespace InetHost

/-- Application code starts, or goes on after the answer to an operation. -/
def Event.isCall : Event → Bool
  | .accepting _ _ | .reading _ _ | .notifying _ _ _ | .jobRuns _ | .taskRuns _ | .answered _ => true
  | _ => false

/-- An event that stands in the journal for itself: nothing changes with it. Only the task of a device
reports that the hardware failed. -/
def Event.isRemark : Event → Bool
  | .noticed (.transmitFailed _ _) => false
  | .noticed _ | .crafting _ | .crafted _ => true
  | _ => false

namespace Host

/-! ## Frames -/

/-- A frame with an ARP packet from a device. -/
def arpFrame (h : Host) (d : DeviceId) (dst : Mac) (op : UInt16) (mac : Mac) (ip : Ip) : Bytes :=
  Ethernet.header dst (h.device d).mac Ethernet.arpType ++
    Arp.Packet.encode ⟨op, (h.device d).mac, (h.device d).ip, mac, ip⟩

/-- A frame with a packet from a device. -/
def packetFrame (h : Host) (d : DeviceId) (protocol : UInt8) (dst : Ip) (mac : Mac) (m : Bytes) :
    Bytes :=
  Ethernet.header mac (h.device d).mac Ethernet.ipv4Type ++
    (Ipv4.header h.config.ttl protocol (Ipv4.headerLength + m.length) (h.device d).ip dst ++ m)

/-- A packet with the content `m` may go out to `dst`: it is not too long, and `mac` is where. -/
structure Routed (h : Host) (dst : Ip) (mac : Mac) (m : Bytes) : Prop where
  resolved : h.arp.get? dst = some mac
  short : Ipv4.headerLength + m.length ≤ Ipv4.maxLength

/-- The frames that a host offers apart from its connections. -/
inductive Framed (h : Host) (d : DeviceId) : Bytes → Prop
  | arp (dst : Mac) (op : UInt16) (mac : Mac) (ip : Ip) (ho : op = Arp.request ∨ op = Arp.reply) :
    Framed h d (h.arpFrame d dst op mac ip)
  | echo (dst : Ip) (mac : Mac) (b : Bytes) (hb : Icmp.headerLength ≤ b.length)
    (hr : h.Routed dst mac (Icmp.echoReply b)) :
    Framed h d (h.packetFrame d Ipv4.icmp dst mac (Icmp.echoReply b))
  | datagram (f : Flow) (mac : Mac) (data : Bytes) (ho : h.owner? f.src.ip = some d)
    (hd : data.length ≤ h.config.maxDatagram) (hr : h.Routed f.dst.ip mac (Udp.encode f data)) :
    Framed h d (h.packetFrame d Ipv4.udp f.dst.ip mac (Udp.encode f data))
  | crafted (f : Bytes) (hc : h.journal.head? = some (.crafting d)) : Framed h d f

/-! ## Chores -/

/-- Something that a host does apart from its connections. -/
inductive Chore (X : Host → DeviceId → Bytes → Prop) (h : Host) : Host → Prop
  | record (e : Event) (he : e.isRemark = true) : Chore X h ((record e).run h).2
  | offer (d : DeviceId) (f : Bytes) (hf : Framed h d f ∨ X h d f) : Chore X h ((offer d f).run h).2
  | register (d : DeviceId) : Chore X h ((register d).run h).2
  | store (ip : Ip) (mac : Mac) : Chore X h ((store ip mac).run h).2
  | listen (port : UInt16) (service : StreamService) : Chore X h ((listen port service).run h).2
  | subscribe (port : UInt16) (service : DatagramService) :
    Chore X h ((subscribe port service).run h).2
  | put (q : QueueId) (j : Job) (hj : ∀ t, j ≠ .task t) : Chore X h ((put q j).run h).2
  | enqueue (q : QueueId) (t : TaskId) (ht : ∃ id, h.taskNames.lookup id = some t) :
    Chore X h ((enqueue q t).run h).2
  | defineTask (id : Label) (runs : Script) : Chore X h ((defineTask id runs).run h).2
  | countRun (t : TaskId) (n : Nat) : Chore X h ((modifyTask t ({ · with runs := n })).run h).2
  | countAccept (a n : Nat) :
    Chore X h { h with acceptors := h.acceptors.modify a ({ · with calls := n }) }
  | countNotify (u n : Nat) :
    Chore X h { h with subscribers := h.subscribers.modify u ({ · with calls := n }) }
  | countRead (c : ConnId) (n : Nat) :
    Chore X h { h with connections := h.connections.modify c ({ · with reads := n }) }
  | device (d : DeviceId) (f : Device → Device)
    (hf : ∀ v, (f v).mac = v.mac ∧ (f v).ip = v.ip ∧ (f v).staging = v.staging ∧
      ((f v).held = true → v.held = true)) :
    Chore X h { h with devices := h.devices.modify d f }
  | lend (l : List DeviceId) : Chore X h { h with lent := l }

/-- Chores, one after another. -/
abbrev Chores (X : Host → DeviceId → Bytes → Prop) : Host → Host → Prop :=
  Relation.ReflTransGen (Chore X)

/-- Something that a host does while it runs the jobs of a queue, the jobs themselves apart. -/
inductive Polling (h : Host) : Host → Prop
  | next (q : QueueId) : Polling h ((next? q).run h).2
  | dequeued (t : TaskId) : Polling h ((dequeued t).run h).2
  | transmitNext (d : DeviceId) : Polling h ((transmitNext d).run h).2
  | deserted (d : DeviceId) : Polling h ((record (.deserted d)).run h).2
  | drained (q : QueueId) (n : Nat) : Polling h ((record (.drained q n)).run h).2

variable {X : Host → DeviceId → Bytes → Prop} {h : Host}

/-! ## What sending is made of -/

theorem window_of_prepend {b b' : PacketBuffer} {c : Bytes} (hb : b.prepend c = .ok b') :
    b'.window = c ++ b.window := by
  by_cases hr : c.length ≤ b.head
  · obtain ⟨b₁, h₁, h₂, -⟩ := b.prepend_eq_ok hr
    obtain rfl : b₁ = b' := Except.ok.inj (h₁.symm.trans hb)
    exact h₂
  · rw [b.prepend_eq_error (Nat.not_le.mp hr)] at hb
    cases hb

theorem run_lookup {d : DeviceId} {ip : Ip} {mac : Mac} (hm : h.arp.get? ip = some mac) :
    (lookup d ip).run h = (some mac, h) := by
  unfold lookup
  rw [act_get, hm]
  rfl

theorem lookup_eq_none {d : DeviceId} {ip : Ip} (hm : h.arp.get? ip = none) :
    ((lookup d ip).run h).1 = none := by
  unfold lookup
  rw [act_get, hm]
  dsimp only
  rw [StateT.run_bind]
  cases (askFor d ip).run h with
  | mk r h' => cases r <;> rfl

section Sending

variable {R : Host → Host → Prop} [Std.Refl R] {d : DeviceId} {ip : Ip} {mac : Mac}

theorem does_report (r : Except NetError Unit) {n : NetError → Notice}
    (hn : ∀ e, Does R h (note (n e))) :
    Does R h (match r with | .ok _ => pure () | .error e => note (n e) : Act Unit) := by
  cases r with
  | ok => exact Does.pure ()
  | error e => exact hn e

theorem does_sendFrame {b : PacketBuffer} {type : UInt16} {dst : Mac}
    (ho : Does R h (offer d (Ethernet.header dst (h.device d).mac type ++ b.window))) :
    Does R h (sendFrame b type dst d) := by
  refine Does.get ?_
  split
  · exact Does.pure _
  · rename_i b' hb
    rw [window_of_prepend hb]
    exact ho

theorem does_askFor (ho : Does R h (offer d (h.arpFrame d .broadcast Arp.request .zero ip))) :
    Does R h (askFor d ip) := by
  refine Does.get (does_sendFrame ?_)
  rw [PacketBuffer.window_withRoom]
  exact ho

theorem does_tell
    (ho : Does R h (offer d (h.arpFrame d (if mac = .zero then .broadcast else mac) Arp.reply mac ip))) :
    Does R h (tell d mac ip) := by
  refine Does.get (does_sendFrame ?_)
  rw [PacketBuffer.window_withRoom]
  exact ho

variable [IsTrans Host R]

theorem does_lookup (ha : Does R h (askFor d ip))
    (hn : ∀ e h, Does R h (note (.arpRequestFailed ip e))) : Does R h (lookup d ip) := by
  refine Does.get ?_
  split
  · exact Does.pure _
  · refine Does.bind ha ?_
    split
    · exact Does.pure _
    · exact Does.bind (hn _ _) (Does.pure _)

/-- **A packet goes out in one frame**, if it is routed; else nothing but a question does. -/
theorem does_sendPacket {room : Nat} {m : Bytes} {protocol : UInt8} {dst : Ip}
    (hl : Does R h (lookup d dst))
    (ho : ∀ mac, h.Routed dst mac m → Does R h (offer d (h.packetFrame d protocol dst mac m))) :
    Does R h (sendPacket (.withRoom room m) protocol dst d) := by
  have hs : (PacketBuffer.withRoom room m).size = m.length := by
    rw [← PacketBuffer.length_window, PacketBuffer.window_withRoom]
  refine Does.get ?_
  simp only [hs]
  split
  · exact Does.pure _
  · rename_i b hb
    have hw := window_of_prepend hb
    rw [PacketBuffer.window_withRoom] at hw
    split
    · exact Does.pure _
    · rename_i hm
      refine Does.bind hl ?_
      cases hr : h.arp.get? dst with
      | none =>
        rw [lookup_eq_none hr]
        exact Does.pure _
      | some mac =>
        rw [run_lookup hr]
        refine does_sendFrame ?_
        rw [hw]
        exact ho mac ⟨hr, Nat.not_lt.mp hm⟩

end Sending

/-! ## Acts made of chores -/

theorem Chore.does {α : Type} {x : Act α} (hx : Chore X h (x.run h).2) : Does (Chores X) h x :=
  Relation.ReflTransGen.single hx

theorem chores_note (n : Notice) (hn : (Event.noticed n).isRemark = true := by rfl) :
    Does (Chores X) h (note n) :=
  Chore.does (.record (.noticed n) hn)

theorem chores_report (r : Except NetError Unit) (n : NetError → Notice)
    (hn : ∀ e, (Event.noticed (n e)).isRemark = true := by exact fun _ => rfl) :
    Does (Chores X) h (match r with | .ok _ => pure () | .error e => note (n e) : Act Unit) :=
  does_report r fun e => chores_note (n e) (hn e)

theorem chores_offer {d : DeviceId} {f : Bytes} (hf : Framed h d f) : Does (Chores X) h (offer d f) :=
  Chore.does (.offer d f (.inl hf))

theorem chores_askFor (d : DeviceId) (ip : Ip) : Does (Chores X) h (askFor d ip) :=
  does_askFor (chores_offer (.arp .broadcast Arp.request .zero ip (.inl rfl)))

theorem chores_tell (d : DeviceId) (mac : Mac) (ip : Ip) : Does (Chores X) h (tell d mac ip) :=
  does_tell (chores_offer (.arp _ Arp.reply mac ip (.inr rfl)))

theorem chores_advertise (d : DeviceId) : Does (Chores X) h (advertise d) :=
  Does.get (chores_tell d .zero _)

theorem chores_announce (d : DeviceId) : Does (Chores X) h (announce d) :=
  Does.bind (Chore.does (.register d)) (chores_advertise d)

theorem chores_lookup (d : DeviceId) (ip : Ip) : Does (Chores X) h (lookup d ip) :=
  does_lookup (chores_askFor d ip) fun _ _ => chores_note _

theorem chores_receiveArp (d : DeviceId) (b : Bytes) : Does (Chores X) h (receiveArp d b) := by
  unfold receiveArp
  split
  · exact chores_note _
  · rename_i p _
    refine Does.get ?_
    split_ifs
    · exact Does.bind (chores_tell d _ _) (chores_report _ (.arpReplyFailed p.senderIp))
    · exact Chore.does (.store p.senderIp p.senderMac)
    · exact chores_note _
    · exact Does.pure _

/-! ### Packets -/

theorem chores_sendPacket {room : Nat} {m : Bytes} {protocol : UInt8} {dst : Ip} {d : DeviceId}
    (hf : ∀ mac, h.Routed dst mac m →
      Framed h d (h.packetFrame d protocol dst mac m) ∨ X h d (h.packetFrame d protocol dst mac m)) :
    Does (Chores X) h (sendPacket (.withRoom room m) protocol dst d) :=
  does_sendPacket (chores_lookup d dst) fun mac hr => Chore.does (.offer d _ (hf mac hr))

theorem chores_receiveIcmp (d : DeviceId) (b : Bytes) (src : Ip) :
    Does (Chores X) h (receiveIcmp d b src) := by
  unfold receiveIcmp
  split
  · exact chores_note _
  · rename_i m hm
    split_ifs
    · refine Does.bind (chores_sendPacket fun mac hr => .inl ?_) (chores_report _ (.echoFailed src))
      refine .echo src mac m.bytes ?_ hr
      unfold Icmp.Message.decode? at hm
      split at hm
      · cases hm
      · rename_i hb
        cases hm
        exact Nat.not_lt.mp hb
    · exact chores_note _

theorem chores_sendDatagram (f : Flow) (data : Bytes) :
    Does (Chores X) h (sendDatagram f data) := by
  refine Does.get ?_
  split
  · exact Does.pure _
  · rename_i d hd
    split
    · exact Does.pure _
    · rename_i hl
      exact chores_sendPacket fun mac hr => .inl (.datagram f mac data hd (Nat.not_lt.mp hl) hr)

/-! ### Services -/

theorem chores_echoDatagram (f : Flow) (data : Bytes) :
    Does (Chores X) h (echoDatagram f data) :=
  Does.bind (chores_sendDatagram f.reverse data) (chores_report _ (.datagramEchoFailed f.src))

theorem chores_serveEcho : Does (Chores X) h serveEcho := by
  refine Does.bind (Chore.does (.listen echoPort .echo)) ?_
  split
  · exact Does.bind (chores_note _) (Does.pure _)
  · exact Does.bind (Chore.does (.subscribe echoPort .echo)) (Does.pure _)

theorem chores_servePage : Does (Chores X) h servePage := by
  refine Does.bind (Chore.does (.listen pagePort .page)) ?_
  split
  · exact Does.pure _
  · exact Does.bind (chores_note _) (Does.pure _)

end Host

end InetHost
