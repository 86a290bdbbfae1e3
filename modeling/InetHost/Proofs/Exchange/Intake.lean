import InetHost.Proofs.Exchange.Reading
import InetHost.Proofs.Frame.Grammar
import InetHost.Proofs.Run.Leads

/-!
# Frames that are taken in and frames that are dropped

A frame either carries something that is for a host, which is told from its bytes, or it is dropped.

* `Intake`, `Carries`: what a frame can carry for a host, and which frames carry it;
* `handle`: what the host does about it;
* `Dropped`: what is the case when a frame was dropped;
* `Carries.run_receiveFrame`, `dropped_receiveFrame`: a frame that carries something is taken in, and one
  that does not is dropped;
* **`intake`**: so it is for every host and every byte string.
-/

namespace InetHost

/-! ## What a frame carries -/

/-- What a frame can carry for a host. -/
inductive Intake where
  /-- Somebody asks for the device's link address. -/
  | question (p : Arp.Packet)
  /-- Somebody tells a link address. -/
  | answer (p : Arp.Packet)
  /-- An echo request. -/
  | ping (src : Ip) (m : Bytes)
  | datagram (f : Flow) (data : Bytes)
  | segment (s : Stream) (g : Tcp.Segment)

/-- An entry in the journal that says that something came in and no more. -/
def Event.isTrace : Event → Bool
  | .noticed _ | .presented _ | .arrived _ _ => true
  | _ => false

namespace Host

variable {app : Application} {h h' : Host} {d : DeviceId} {b : Bytes} {m : Intake}

/-- A segment is for the host: there is a connection between its two ends, or it asks for one. -/
def Wanted (h : Host) (s : Stream) (g : Tcp.Segment) : Prop :=
  (h.stream? s).isSome ∨ g.flags.has .syn ∧ ¬ g.flags.has .rst

/-- **A frame that came in on device `d` carries something for the host.** -/
inductive Carries (h : Host) (d : DeviceId) (b : Bytes) : Intake → Prop
  | question {f : Ethernet.Frame} {p : Arp.Packet} (hf : f.Reads b) (ht : f.type = 0x0806)
    (hp : p.Reads f.payload) (hi : p.targetIp = (h.device d).ip) (ho : p.op = 1) :
    Carries h d b (.question p)
  | answer {f : Ethernet.Frame} {p : Arp.Packet} (hf : f.Reads b) (ht : f.type = 0x0806)
    (hp : p.Reads f.payload) (hi : p.targetIp = (h.device d).ip) (ho : p.op = 2) :
    Carries h d b (.answer p)
  | ping {f : Ethernet.Frame} {p : Ipv4.Packet} (hf : f.Reads b) (ht : f.type = 0x0800)
    (hp : p.Reads f.payload) (hq : p.protocol = 1) (hl : 8 ≤ p.payload.length)
    (ho : p.payload.getD 0 0 = 8) : Carries h d b (.ping p.src p.payload)
  | datagram {f : Ethernet.Frame} {p : Ipv4.Packet} {m : Udp.Datagram} (hf : f.Reads b)
    (ht : f.type = 0x0800) (hp : p.Reads f.payload) (hq : p.protocol = 17) (hm : m.Reads p.payload)
    (hu : ∃ l ∈ h.subscribers, l.port = m.dstPort) :
    Carries h d b (.datagram ⟨⟨p.src, m.srcPort⟩, ⟨(h.device d).ip, m.dstPort⟩⟩ m.payload)
  | segment {f : Ethernet.Frame} {p : Ipv4.Packet} {g : Tcp.Segment} (hf : f.Reads b)
    (ht : f.type = 0x0800) (hp : p.Reads f.payload) (hq : p.protocol = 6) (hg : g.Reads p.payload)
    (hw : h.Wanted ⟨⟨(h.device d).ip, g.dstPort⟩, ⟨p.src, g.srcPort⟩⟩ g) :
    Carries h d b (.segment ⟨⟨(h.device d).ip, g.dstPort⟩, ⟨p.src, g.srcPort⟩⟩ g)

/-- What a host does about what a frame carries. -/
def handle (app : Application) (d : DeviceId) : Intake → Run Unit
  | .question p => liftM do
    match ← tell d p.senderMac p.senderIp with
    | .ok _ => pure ()
    | .error e => note (.arpReplyFailed p.senderIp e)
  | .answer p => liftM (discard (store p.senderIp p.senderMac))
  | .ping src m => liftM do
    register d
    match ← sendPacket (.withRoom headroom (Icmp.echoReply m)) Ipv4.icmp src d with
    | .ok _ => pure ()
    | .error e => note (.echoFailed src e)
  | .datagram f data => do
    register d
    ((← get).subscribersOf f.dst.port).forM fun u => app (.notify u f data)
  | .segment s g => do
    register d
    record (.arrived s g)
    match (← get).stream? s with
    | some c => receiveOn app c g
    | none => acceptStream app d s g

/-! ## What is taken in -/

theorem subscribersOf_eq_nil {port : UInt16} :
    h.subscribersOf port = [] ↔ ∀ l ∈ h.subscribers, l.port ≠ port := by
  unfold subscribersOf
  rw [List.filter_eq_nil_iff]
  constructor
  · intro hn l hl
    obtain ⟨u, hu, rfl⟩ := List.mem_iff_getElem.mp hl
    simpa [hu] using hn u (List.mem_range.mpr hu)
  · intro hn u hu
    have hl := List.mem_range.mp hu
    simpa [hl] using hn _ (List.getElem_mem hl)

theorem run_receiveFrame_arpType {f : Ethernet.Frame} (hf : f.Reads b) (ht : f.type = Ethernet.arpType)
    (app : Application) :
    (receiveFrame app d b).run h = (some (), ((receiveArp d f.payload).run h).2) := by
  have hn : f.type ≠ Ethernet.ipv4Type := by rw [ht]; decide
  unfold receiveFrame
  rw [Ethernet.Frame.decode?_eq_some.mpr hf]
  dsimp only
  rw [if_neg hn, if_pos ht]
  rfl

theorem run_receiveFrame_ipv4Type {f : Ethernet.Frame} (hf : f.Reads b)
    (ht : f.type = Ethernet.ipv4Type) (app : Application) :
    (receiveFrame app d b).run h = (receivePacket app d f.payload).run h := by
  unfold receiveFrame
  rw [Ethernet.Frame.decode?_eq_some.mpr hf]
  dsimp only
  rw [if_pos ht]

theorem run_receiveArp {p : Arp.Packet} (hp : p.Reads b) (hi : p.targetIp = (h.device d).ip) :
    (receiveArp d b).run h =
      (if p.op = Arp.request then do
        match ← tell d p.senderMac p.senderIp with
        | .ok _ => pure ()
        | .error e => note (.arpReplyFailed p.senderIp e)
      else if p.op = Arp.reply then discard (store p.senderIp p.senderMac)
      else note (.arpOperation p.op) : Act Unit).run h := by
  unfold receiveArp
  rw [Arp.Packet.decode?_eq_some.mpr hp]
  dsimp only
  rw [act_get]
  exact congrArg (StateT.run · h) (if_pos hi)

theorem run_receiveIcmp {src : Ip} (hl : 8 ≤ b.length) :
    (receiveIcmp d b src).run h =
      (if b.getD 0 0 = Icmp.echoRequest then do
        match ← sendPacket (.withRoom headroom (Icmp.echoReply b)) Ipv4.icmp src d with
        | .ok _ => pure ()
        | .error e => note (.echoFailed src e)
      else note (.icmpIgnored (b.getD 0 0) src) : Act Unit).run h := by
  have hm : Icmp.Message.decode? b = some ⟨b.getD 0 0, b⟩ :=
    Icmp.Message.decode?_eq_some.mpr ⟨hl, rfl⟩
  unfold receiveIcmp
  exact hm ▸ rfl

/-- A packet comes to its protocol, and its device is presented. -/
theorem run_receivePacket {p : Ipv4.Packet} (hp : p.Reads b) (app : Application) :
    (receivePacket app d b).run h =
      (if p.protocol = Ipv4.icmp then liftM (receiveIcmp d p.payload p.src)
      else if p.protocol = Ipv4.igmp then liftM (note (.igmpIgnored p.src))
      else if p.protocol = Ipv4.tcp then receiveSegment app d p.payload p.src
      else if p.protocol = Ipv4.udp then receiveDatagram app d p.payload p.src
      else liftM (note (.unknownProtocol p.protocol p.src)) : Run Unit).run
        ((register d).run h).2 := by
  unfold receivePacket
  rw [run_act, Ipv4.Packet.decode_eq_ok.mpr hp]

theorem run_receiveFrame_segment {f : Ethernet.Frame} {p : Ipv4.Packet} (hf : f.Reads b)
    (ht : f.type = 0x0800) (hp : p.Reads f.payload) (hq : p.protocol = 6) (app : Application) :
    (receiveFrame app d b).run h =
      (receiveSegment app d p.payload p.src).run ((register d).run h).2 := by
  have hn : p.protocol ≠ Ipv4.icmp ∧ p.protocol ≠ Ipv4.igmp := by
    rw [hq]
    decide
  rw [run_receiveFrame_ipv4Type hf ht, run_receivePacket hp, if_neg hn.1, if_neg hn.2,
    if_pos (show p.protocol = Ipv4.tcp from hq)]

theorem run_receiveDatagram {m : Udp.Datagram} {src : Ip} {f : Flow} (hm : m.Reads b)
    (hf : f = ⟨⟨src, m.srcPort⟩, ⟨(h.device d).ip, m.dstPort⟩⟩)
    (hu : ∃ l ∈ h.subscribers, l.port = m.dstPort) (app : Application) :
    (receiveDatagram app d b src).run h =
      ((h.subscribersOf f.dst.port).forM fun u => app (.notify u f m.payload) : Run Unit).run h := by
  have hl : h.subscribersOf m.dstPort ≠ [] := by
    rw [ne_eq, subscribersOf_eq_nil]
    obtain ⟨l, hl, hp⟩ := hu
    exact fun hn => hn l hl hp
  obtain ⟨u, us, hs⟩ := List.exists_cons_of_ne_nil hl
  subst hf
  unfold receiveDatagram
  rw [Udp.Datagram.decode_eq_ok.mpr hm]
  dsimp only
  rw [run_get, hs]

/-- A segment that is for the host comes to its connection or to its port's listener. -/
theorem run_receiveSegment {g : Tcp.Segment} {src : Ip} {s : Stream} (hg : g.Reads b)
    (hs : s = ⟨⟨(h.device d).ip, g.dstPort⟩, ⟨src, g.srcPort⟩⟩) (hw : h.Wanted s g)
    (app : Application) :
    (receiveSegment app d b src).run h =
      (match h.stream? s with
      | some c => receiveOn app c g
      | none => acceptStream app d s g : Run Unit).run ((record (.arrived s g)).run h).2 := by
  subst hs
  unfold receiveSegment
  rw [Tcp.Segment.decode_eq_ok.mpr hg]
  dsimp only
  rw [run_get, run_act]
  cases hc : h.stream? ⟨⟨(h.device d).ip, g.dstPort⟩, ⟨src, g.srcPort⟩⟩ with
  | some c => rfl
  | none =>
    obtain ⟨hs, hr⟩ := hw.resolve_left (by simp [hc])
    dsimp only
    rw [if_neg hr, if_pos hs]

theorem run_receiveSegment_registered {g : Tcp.Segment} {src : Ip} {s : Stream} {c : ConnId}
    (hc : h.stream? s = some c) (hg : g.Reads b)
    (hs : s = ⟨⟨(h.device d).ip, g.dstPort⟩, ⟨src, g.srcPort⟩⟩) (app : Application) :
    (receiveSegment app d b src).run h =
      (receiveOn app c g).run ((record (.arrived s g)).run h).2 := by
  rw [run_receiveSegment hg hs (.inl (by rw [hc]; rfl)), hc]

/-- **A frame that carries something is taken in.** -/
theorem Carries.run_receiveFrame (hc : Carries h d b m) (app : Application) :
    (receiveFrame app d b).run h = (handle app d m).run h := by
  obtain ⟨os, j, hr⟩ := run_register d h
  cases hc with
  | @question f p hf ht hp hi ho =>
    rw [run_receiveFrame_arpType hf ht, run_receiveArp hp hi, if_pos (show p.op = Arp.request from ho)]
    rfl
  | @answer f p hf ht hp hi ho =>
    have hn : p.op ≠ Arp.request := by rw [ho]; decide
    rw [run_receiveFrame_arpType hf ht, run_receiveArp hp hi, if_neg hn,
      if_pos (show p.op = Arp.reply from ho)]
    rfl
  | @ping f p hf ht hp hq hl ho =>
    rw [run_receiveFrame_ipv4Type hf ht, run_receivePacket hp,
      if_pos (show p.protocol = Ipv4.icmp from hq), run_lift, run_receiveIcmp hl,
      if_pos (show p.payload.getD 0 0 = Icmp.echoRequest from ho)]
    rfl
  | @datagram f p m hf ht hp hq hm hu =>
    have hn : p.protocol ≠ Ipv4.icmp ∧ p.protocol ≠ Ipv4.igmp ∧ p.protocol ≠ Ipv4.tcp := by
      rw [hq]; decide
    rw [run_receiveFrame_ipv4Type hf ht, run_receivePacket hp, if_neg hn.1, if_neg hn.2.1,
      if_neg hn.2.2, if_pos (show p.protocol = Ipv4.udp from hq), hr]
    unfold handle
    rw [run_act, run_get, hr]
    refine run_receiveDatagram hm rfl ?_ app
    exact hu
  | @segment f p g hf ht hp hq hg hw =>
    rw [run_receiveFrame_segment hf ht hp hq, hr]
    unfold handle
    rw [run_act, hr, run_act, run_get]
    refine run_receiveSegment hg rfl ?_ app
    exact hw

/-! ## What is dropped -/

/-- Nothing happened but that something came in. -/
def Traced (h h' : Host) : Prop :=
  ∃ new, h' = { h with journal := new ++ h.journal } ∧ ∀ e ∈ new, e.isTrace = true

theorem traced_refl (h : Host) : Traced h h := ⟨[], rfl, List.forall_mem_nil _⟩

theorem traced_note (n : Notice) (h : Host) : Traced h ((note n).run h).2 :=
  ⟨[.noticed n], rfl, List.forall_mem_singleton.mpr rfl⟩

/-- Code passes over what it is given: whatever the application is, it is not called. -/
def Ignores (x : Application → Run Unit) (h : Host) : Prop :=
  ∃ h', (∀ app, (x app).run h = (some (), h')) ∧ Traced h h'

theorem traced_receiveArp
    (hn : ∀ p : Arp.Packet, p.Reads b → p.targetIp = (h.device d).ip → p.op ≠ 1 ∧ p.op ≠ 2) :
    Traced h ((receiveArp d b).run h).2 := by
  cases hp : Arp.Packet.decode? b with
  | none =>
    unfold receiveArp
    rw [hp]
    exact traced_note _ h
  | some p =>
    have hr := Arp.Packet.decode?_eq_some.mp hp
    by_cases hi : p.targetIp = (h.device d).ip
    · obtain ⟨h₁, h₂⟩ := hn p hr hi
      rw [run_receiveArp hr hi, if_neg (show p.op ≠ Arp.request from h₁),
        if_neg (show p.op ≠ Arp.reply from h₂)]
      exact traced_note _ h
    · unfold receiveArp
      rw [hp]
      dsimp only
      rw [act_get, if_neg hi]
      exact traced_refl h

theorem traced_receiveIcmp {src : Ip} (hn : 8 ≤ b.length → b.getD 0 0 ≠ 8) :
    Traced h ((receiveIcmp d b src).run h).2 := by
  by_cases hl : 8 ≤ b.length
  · rw [run_receiveIcmp hl, if_neg (show b.getD 0 0 ≠ Icmp.echoRequest from hn hl)]
    exact traced_note _ h
  · unfold receiveIcmp Icmp.Message.decode?
    rw [if_pos (by unfold Icmp.headerLength; omega)]
    exact traced_note _ h

theorem ignores_receiveDatagram {src : Ip}
    (hn : ∀ m : Udp.Datagram, m.Reads b → ∀ l ∈ h.subscribers, l.port ≠ m.dstPort) :
    Ignores (receiveDatagram · d b src) h := by
  unfold receiveDatagram
  cases hm : Udp.Datagram.decode b with
  | error f => exact ⟨_, fun _ => rfl, traced_note _ h⟩
  | ok m =>
    have hu : h.subscribersOf m.dstPort = [] :=
      subscribersOf_eq_nil.mpr (hn m (Udp.Datagram.decode_eq_ok.mp hm))
    let f : Flow := ⟨⟨src, m.srcPort⟩, ⟨(h.device d).ip, m.dstPort⟩⟩
    refine ⟨_, fun app => ?_, traced_note (.noListener f) h⟩
    dsimp only
    rw [run_get, hu]
    rfl

theorem ignores_receiveSegment {src : Ip}
    (hn : ∀ g : Tcp.Segment, g.Reads b →
      ¬ h.Wanted ⟨⟨(h.device d).ip, g.dstPort⟩, ⟨src, g.srcPort⟩⟩ g) :
    Ignores (receiveSegment · d b src) h := by
  unfold receiveSegment
  cases hg : Tcp.Segment.decode b with
  | error f => exact ⟨_, fun _ => rfl, traced_note _ h⟩
  | ok g =>
    let s : Stream := ⟨⟨(h.device d).ip, g.dstPort⟩, ⟨src, g.srcPort⟩⟩
    have hw := hn g (Tcp.Segment.decode_eq_ok.mp hg)
    unfold Wanted at hw
    push Not at hw
    have hs : h.stream? s = none := Option.not_isSome_iff_eq_none.mp hw.1
    by_cases hr : g.flags.has .rst
    · refine ⟨{ h with journal := .arrived s g :: h.journal }, fun app => ?_, [.arrived s g], rfl,
        List.forall_mem_singleton.mpr rfl⟩
      dsimp only
      rw [run_get, run_act, hs]
      dsimp only
      rw [if_pos hr]
      rfl
    · have hy : ¬ g.flags.has .syn := fun hy => hr (hw.2 hy)
      refine ⟨{ h with journal := .noticed (.noStream s g.flags) :: .arrived s g :: h.journal },
        fun app => ?_, [.noticed (.noStream s g.flags), .arrived s g], rfl, by simp [Event.isTrace]⟩
      dsimp only
      rw [run_get, run_act, hs]
      dsimp only
      rw [if_neg hr, if_neg hy]
      rfl

/-- **A frame was dropped.** Nothing is different but that a packet's device owns its address now, if
nobody did, and that the journal says that something came in. -/
structure Dropped (h : Host) (d : DeviceId) (b : Bytes) (h' : Host) : Prop where
  rest : h' = { h with owners := h'.owners, journal := h'.journal }
  owners : h'.owners = h.owners ∨
    (∃ f : Ethernet.Frame, f.Reads b ∧ f.type = 0x0800) ∧ h.owner? (h.device d).ip = none ∧
      h'.owners = h.owners ++ [((h.device d).ip, d)]
  journal : ∃ new, h'.journal = new ++ h.journal ∧ ∀ e ∈ new, e.isTrace = true

theorem Traced.dropped (ht : Traced h h') (d : DeviceId) (b : Bytes) : Dropped h d b h' := by
  obtain ⟨new, rfl, hn⟩ := ht
  exact ⟨rfl, .inl rfl, new, rfl, hn⟩

theorem dropped_register {f : Ethernet.Frame} (hf : f.Reads b) (ht : f.type = 0x0800) :
    Dropped h d b ((register d).run h).2 := by
  rcases register_cases d h with ⟨-, hr⟩ | ⟨ho, hr⟩
  · rw [hr]
    exact ⟨rfl, .inl rfl, [.presented d], rfl, List.forall_mem_singleton.mpr rfl⟩
  · rw [hr]
    exact ⟨rfl, .inr ⟨⟨f, hf, ht⟩, ho, rfl⟩,
      [.noticed (.registered (h.device d).ip), .presented d], rfl, by simp [Event.isTrace]⟩

theorem Dropped.traced {h₁ : Host} (hd : Dropped h d b h₁) (ht : Traced h₁ h') : Dropped h d b h' := by
  obtain ⟨new, rfl, hn⟩ := ht
  obtain ⟨more, hj, hm⟩ := hd.journal
  refine ⟨?_, hd.owners, new ++ more, ?_, List.forall_mem_append.mpr ⟨hn, hm⟩⟩
  · rw [hd.rest]
  · rw [List.append_assoc, ← hj]

theorem dropped_receivePacket {f : Ethernet.Frame} (hf : f.Reads b) (ht : f.type = 0x0800)
    (hn : ∀ m, ¬ Carries h d b m) :
    ∃ h', (∀ app, (receivePacket app d f.payload).run h = (some (), h')) ∧ Dropped h d b h' := by
  have hd : Dropped h d b ((register d).run h).2 := dropped_register hf ht
  cases hp : Ipv4.Packet.decode f.payload with
  | error e =>
    refine ⟨_, fun app => ?_, hd.traced (traced_note (.badPacket e) _)⟩
    unfold receivePacket
    rw [run_act, hp]
    rfl
  | ok p =>
    have hr := Ipv4.Packet.decode_eq_ok.mp hp
    obtain ⟨os, j, hh⟩ := run_register d h
    simp only [run_receivePacket hr]
    suffices hi : Ignores (fun app =>
        if p.protocol = Ipv4.icmp then liftM (receiveIcmp d p.payload p.src)
        else if p.protocol = Ipv4.igmp then liftM (note (.igmpIgnored p.src))
        else if p.protocol = Ipv4.tcp then receiveSegment app d p.payload p.src
        else if p.protocol = Ipv4.udp then receiveDatagram app d p.payload p.src
        else liftM (note (.unknownProtocol p.protocol p.src))) ((register d).run h).2 by
      obtain ⟨h', hr', ht'⟩ := hi
      exact ⟨h', hr', hd.traced ht'⟩
    rw [hh]
    split_ifs with h₁ h₂ h₃ h₄
    · exact ⟨_, fun _ => rfl, traced_receiveIcmp fun hl ho => hn _ (.ping hf ht hr h₁ hl ho)⟩
    · exact ⟨_, fun _ => rfl, traced_note _ _⟩
    · exact ignores_receiveSegment fun g hg hw => hn _ (.segment hf ht hr h₃ hg hw)
    · exact ignores_receiveDatagram fun m hm l hl hp =>
        hn _ (.datagram hf ht hr h₄ hm ⟨l, hl, hp⟩)
    · exact ⟨_, fun _ => rfl, traced_note _ _⟩

/-- **A frame that carries nothing is dropped**, whatever the application is. -/
theorem dropped_receiveFrame (hn : ∀ m, ¬ Carries h d b m) :
    ∃ h', (∀ app, (receiveFrame app d b).run h = (some (), h')) ∧ Dropped h d b h' := by
  cases hf : Ethernet.Frame.decode? b with
  | none =>
    refine ⟨_, fun app => ?_, (traced_note (.frameShort b.length) h).dropped d b⟩
    unfold receiveFrame
    rw [hf]
    rfl
  | some f =>
    have hr := Ethernet.Frame.decode?_eq_some.mp hf
    by_cases hi : f.type = Ethernet.ipv4Type
    · simp only [run_receiveFrame_ipv4Type hr hi]
      exact dropped_receivePacket hr hi hn
    · by_cases ha : f.type = Ethernet.arpType
      · refine ⟨_, run_receiveFrame_arpType hr ha, Traced.dropped (traced_receiveArp ?_) d b⟩
        intro p hp ht
        exact ⟨fun ho => hn _ (.question hr ha hp ht ho), fun ho => hn _ (.answer hr ha hp ht ho)⟩
      · have hx : ∃ n, ∀ app, receiveFrame app d b = liftM (note n) := by
          unfold receiveFrame
          simp only [hf, if_neg hi, if_neg ha]
          split_ifs
          · exact ⟨_, fun _ => rfl⟩
          · exact ⟨_, fun _ => rfl⟩
        obtain ⟨n, hx⟩ := hx
        refine ⟨_, fun app => ?_, (traced_note n h).dropped d b⟩
        rw [hx]
        rfl

/-! ## What comes in -/

/-- **A frame is taken in if it carries something, and dropped if it does not**, whatever the host was
used for and whatever the application is. -/
theorem intake (h : Host) (d : DeviceId) (b : Bytes) :
    (∀ m, Carries h d b m → ∀ app, (receiveFrame app d b).run h = (handle app d m).run h) ∧
      ((∀ m, ¬ Carries h d b m) →
        ∃ h', (∀ app, (receiveFrame app d b).run h = (some (), h')) ∧ Dropped h d b h') :=
  ⟨fun _ hc app => hc.run_receiveFrame app, dropped_receiveFrame⟩

/-- The question of 10.0.0.2 who has an address. -/
def inquiry (ip : Ip) : Arp.Packet := ⟨1, ⟨2, 0, 0, 0, 0, 2⟩, ⟨10, 0, 0, 2⟩, .zero, ip⟩

/-- The frame in which it is broadcast. -/
def inquiryFrame (ip : Ip) : Ethernet.Frame :=
  ⟨.broadcast, ⟨2, 0, 0, 0, 0, 2⟩, 0x0806, (inquiry ip).encode⟩

theorem intake_inquiry :
    Carries (talked []) 0 (inquiryFrame talker.ip).encode (.question (inquiry talker.ip)) ∧
      (∀ app, (receiveFrame app 0 (inquiryFrame talker.ip).encode).run (talked []) =
        (handle app 0 (.question (inquiry talker.ip))).run (talked [])) ∧
      (∀ m, ¬ Carries (talked []) 0 (inquiryFrame ⟨10, 0, 0, 3⟩).encode m) ∧
      ∃ h', (∀ app, (receiveFrame app 0 (inquiryFrame ⟨10, 0, 0, 3⟩).encode).run (talked []) =
        (some (), h')) ∧ Dropped (talked []) 0 (inquiryFrame ⟨10, 0, 0, 3⟩).encode h' := by
  have hd : ((talked []).device 0).ip = talker.ip := by decide +kernel
  have hf : ∀ {ip f}, f.Reads (inquiryFrame ip).encode ↔ inquiryFrame ip = f := by
    intro ip f
    rw [← Ethernet.Frame.decode?_eq_some, Ethernet.Frame.decode_encode, Option.some.injEq]
  have hp : ∀ {ip p}, Arp.Packet.Reads (inquiry ip).encode p ↔ inquiry ip = p := by
    intro ip p
    rw [← Arp.Packet.decode?_eq_some, ← List.append_nil (inquiry ip).encode,
      Arp.Packet.decode_encode, Option.some.injEq]
  have hc : Carries (talked []) 0 (inquiryFrame talker.ip).encode (.question (inquiry talker.ip)) :=
    .question (hf.mpr rfl) rfl (hp.mpr rfl) hd.symm rfl
  have hn : ∀ m, ¬ Carries (talked []) 0 (inquiryFrame ⟨10, 0, 0, 3⟩).encode m := by
    intro m hm
    cases hm with
    | question hr ht hq hi ho | answer hr ht hq hi ho =>
      obtain rfl := hf.mp hr
      obtain rfl := hp.mp hq
      rw [hd] at hi
      exact absurd hi (by decide)
    | ping hr ht | datagram hr ht | segment hr ht =>
      obtain rfl := hf.mp hr
      exact absurd ht (by decide)
  exact ⟨hc, (intake _ 0 _).1 _ hc, hn, (intake _ 0 _).2 hn⟩

end Host

end InetHost
