import InetHost.Proofs.Exchange.PacketOutcome

/-!
# Echo requests

Who is sent an echo request answers it in one frame. The answer is no request, so whoever receives it passes
over it, and two hosts never answer each other without end.

* `Icmp.Answers m r`: the message `r` answers the request `m`; **`Icmp.answers_echoReply`**: so does what
  a host makes of it;
* `Pinged`: an echo request comes in, in a packet or in a frame;
* `Bears`, **`Bears.dropped`**: a frame bears a packet, and one with an answer is dropped by every host;
* `pong`, **`run_pong`**: the host offers one frame, and may report that it failed;
* `Undisturbed`: all that may change with it;
* **`Visited.answersPings`**: how a host answers echo requests.
-/

namespace InetHost

open Checksum

/-- **A message answers an echo request.** -/
structure Icmp.Answers (m r : Bytes) : Prop where
  type : r.getD 0 1 = 0
  code : r.getD 1 1 = 0
  /-- Identifier, sequence number and data are those of the request. -/
  rest : r.drop 4 = m.drop 4
  length : r.length = m.length
  /-- The checksum verifies over all of it. -/
  sum : fold (total (words r)) = 0xffff

theorem Icmp.answers_echoReply {m : Bytes} (hm : 8 ≤ m.length) : Answers m (echoReply m) where
  type := rfl
  code := rfl
  rest := rfl
  length := length_echoReply hm
  sum := by
    have hs := message_echoReply ⟨0, 0, 0, 0⟩ ⟨0, 0, 0, 0⟩ m
    unfold Ipv4.icmp at hs
    cases hs with
    | icmp hs => exact hs

/-- A report that an answer was too long for a packet. -/
def Event.isOverlong : Event → Bool
  | .noticed (.echoFailed _ (.packetTooLong _)) => true
  | _ => false

namespace Host

variable {h h' h₁ h₂ : Host} {d e : DeviceId} {src : Ip} {m f : Bytes} {x : Application → Run Unit}

/-! ## Requests -/

/-- **An echo request comes in on a device** from `src`, in a packet or in a frame. -/
inductive Pinged (d : DeviceId) (src : Ip) (m : Bytes) : (Application → Run Unit) → Prop
  | packet {b : Bytes} {dst : Ip} (hp : Ipv4.Packet.Reads b ⟨src, dst, 1, m⟩) (hl : 8 ≤ m.length)
    (ht : m.getD 0 0 = 8) : Pinged d src m (receivePacket · d b)
  | frame {b : Bytes} {f : Ethernet.Frame} {dst : Ip} (hf : f.Reads b) (hi : f.type = 0x0800)
    (hp : Ipv4.Packet.Reads f.payload ⟨src, dst, 1, m⟩) (hl : 8 ≤ m.length)
    (ht : m.getD 0 0 = 8) : Pinged d src m (receiveFrame · d b)

/-- The request is answered. -/
def pong (d : DeviceId) (src : Ip) (m : Bytes) : Act Unit := do
  match ← sendPacket (.withRoom headroom (Icmp.echoReply m)) Ipv4.icmp src d with
  | .ok _ => pure ()
  | .error e => note (.echoFailed src e)

theorem Pinged.length (hx : Pinged d src m x) : 8 ≤ m.length := by
  cases hx with
  | packet _ hl | frame _ _ _ hl => exact hl

theorem Pinged.short (hx : Pinged d src m x) : Ipv4.headerLength + m.length ≤ Ipv4.maxLength := by
  have hs : ∀ {b : Bytes} {dst : Ip}, Ipv4.Packet.Reads b ⟨src, dst, 1, m⟩ → 20 + m.length ≤ 65535 := by
    intro b dst hp
    have hl := length_payload_le hp
    have hf : Bytes.field b 2 2 < 65536 := Bytes.field_lt b 2 2
    dsimp only at hl
    omega
  cases hx with
  | packet hp | frame _ _ hp => exact hs hp

/-- **Every application sees the request answered**, after the device was presented. -/
theorem Pinged.run (hx : Pinged d src m x) (app : Application) :
    (x app).run h = (some (), ((pong d src m).run ((register d).run h).2).2) := by
  have hr : ∀ {b : Bytes} {dst : Ip}, Ipv4.Packet.Reads b ⟨src, dst, 1, m⟩ → 8 ≤ m.length →
      m.getD 0 0 = 8 → (receivePacket app d b).run h =
        (some (), ((pong d src m).run ((register d).run h).2).2) := by
    intro b dst hp hl ht
    rw [run_receivePacket hp, if_pos (show (1 : UInt8) = Ipv4.icmp from rfl), run_lift,
      run_receiveIcmp hl, if_pos (show m.getD 0 0 = Icmp.echoRequest from ht)]
    rfl
  cases hx with
  | packet hp hl ht => exact hr hp hl ht
  | frame hf hi hp hl ht => exact (run_receiveFrame_ipv4Type hf hi app).trans (hr hp hl ht)

/-! ## Answers -/

/-- A frame between two link addresses bears a packet. -/
def Bears (f : Bytes) (dst src : Mac) (p : Ipv4.Packet) : Prop :=
  ∃ c, Ethernet.Frame.Reads f ⟨dst, src, 0x0800, c⟩ ∧ p.Reads c

theorem bears_packetFrame {protocol : UInt8} {dst : Ip} {mac : Mac}
    (hl : Ipv4.headerLength + m.length ≤ Ipv4.maxLength) :
    Bears (h.packetFrame d protocol dst mac m) mac (h.device d).mac
      ⟨(h.device d).ip, dst, protocol, m⟩ := by
  refine ⟨_, Ethernet.Frame.decode?_eq_some.mp (decode_header ..), ?_⟩
  exact Ipv4.Packet.decode_eq_ok.mp (Ipv4.Packet.decode_header _ _ _ _ hl)

/-- What a frame bears it does not bear otherwise. -/
theorem Bears.unique {dst mac : Mac} {p : Ipv4.Packet} (hb : Bears f dst mac p) {a : Ethernet.Frame}
    (ha : a.Reads f) : a.type = 0x0800 ∧ ∀ {q : Ipv4.Packet}, q.Reads a.payload → q = p := by
  obtain ⟨c, hf, hp⟩ := hb
  rw [← Ethernet.Frame.decode?_eq_some] at ha hf
  obtain rfl := Option.some.inj (ha.symm.trans hf)
  refine ⟨rfl, fun {q} hq => ?_⟩
  rw [← Ipv4.Packet.decode_eq_ok] at hp hq
  exact Except.ok.inj (hq.symm.trans hp)

/-- **An answer is dropped by whoever receives it**: no application is called and nothing is sent. -/
theorem Bears.dropped {mac mac' : Mac} {ip dst : Ip} {r : Bytes}
    (hb : Bears f mac mac' ⟨ip, dst, 1, r⟩) (hr : Icmp.Answers m r) (g : Host) (e : DeviceId) :
    ∃ g', (∀ app, (receiveFrame app e f).run g = (some (), g')) ∧ Dropped g e f g' := by
  refine dropped_receiveFrame fun i hi => ?_
  cases hi with
  | question hf ht | answer hf ht => cases (hb.unique hf).1.symm.trans ht
  | ping hf ht hp hq hl ho =>
    obtain rfl := (hb.unique hf).2 hp
    dsimp only at hl ho
    have h₀ := hr.type
    rw [List.getD_eq_getElem _ _ (by omega)] at ho h₀
    cases ho.symm.trans h₀
  | datagram hf ht hp hq | segment hf ht hp hq =>
    obtain rfl := (hb.unique hf).2 hp
    cases hq

/-! ## Offering the answer -/

/-- The frame that the host offers: the answer, or a question where the way back is not known. -/
def pongFrame (h : Host) (d : DeviceId) (src : Ip) (m : Bytes) : Bytes :=
  match h.arp.get? src with
  | some mac => h.packetFrame d Ipv4.icmp src mac (Icmp.echoReply m)
  | none => h.arpFrame d .broadcast Arp.request .zero src

/-- What it reports after that, the last first. -/
def pongNotices (h : Host) (d : DeviceId) (src : Ip) : List Notice :=
  match h.arp.get? src, (h.device d).face.result with
  | some _, .ok _ => []
  | some _, .error e => [.echoFailed src e]
  | none, r => .echoFailed src (.unresolved src) :: askingFailed src r

/-- **The host offers one frame**, and may report that it failed. -/
theorem run_pong (hl : 8 ≤ m.length) (hm : Ipv4.headerLength + m.length ≤ Ipv4.maxLength)
    (d : DeviceId) (src : Ip) (h : Host) :
    ((pong d src m).run h).2 =
      ((offer d (h.pongFrame d src m)).run h).2.noting (h.pongNotices d src) := by
  rw [← Icmp.length_echoReply hl] at hm
  unfold pong pongFrame pongNotices
  rw [StateT.run_bind]
  cases hr : h.arp.get? src with
  | some mac =>
    dsimp only
    rw [run_sendPacket ⟨hr, hm⟩,
      ← result_offer d (h.packetFrame d Ipv4.icmp src mac (Icmp.echoReply m)) h]
    generalize (offer d (h.packetFrame d Ipv4.icmp src mac (Icmp.echoReply m))).run h = r
    obtain ⟨r, h'⟩ := r
    cases r <;> rfl
  | none =>
    rw [← PacketBuffer.window_withRoom headroom (Icmp.echoReply m), PacketBuffer.length_window] at hm
    rw [run_sendPacket_unresolved (by simp [headroom]) hm hr, run_lookup_asking hr]
    rfl

/-- What is reported is no failure of the hardware, and not that the answer was too long. -/
theorem mem_pongNotices {n : Notice} (hn : n ∈ h.pongNotices d src) :
    (Event.noticed n).onQueue = false ∧ (Event.noticed n).isOverlong = false := by
  unfold pongNotices at hn
  split at hn
  · cases hn
  · rename_i e _ he
    obtain rfl := List.mem_singleton.mp hn
    cases e with
    | packetTooLong k => exact absurd he (result_ne_tooLong _ k)
    | _ => exact ⟨rfl, rfl⟩
  · rcases List.mem_cons.mp hn with rfl | hn
    · exact ⟨rfl, rfl⟩
    · unfold askingFailed at hn
      split at hn
      · cases hn
      · obtain rfl := List.mem_singleton.mp hn
        exact ⟨rfl, rfl⟩

theorem keepsQueues_noting {ns : List Notice} (hn : ∀ n ∈ ns, (Event.noticed n).onQueue = false) (h : Host) :
    KeepsQueues h (h.noting ns) := by
  refine ⟨rfl, rfl, rfl, fun _ => rfl, fun _ => rfl, fun _ => rfl, fun _ => rfl, fun _ => id,
    ns.map .noticed, rfl, fun e he => ?_⟩
  obtain ⟨n, hm, rfl⟩ := List.mem_map.mp he
  exact hn n hm

/-! ## What changes -/

/-- **All that may change with an echo request.** -/
structure Undisturbed (d : DeviceId) (h h' : Host) : Prop where
  /-- Connections, link addresses, listeners and all the rest stay as they are. -/
  rest : h' = { h with
    owners := h'.owners, devices := h'.devices, tasks := h'.tasks, queues := h'.queues,
    journal := h'.journal }
  /-- As with every packet, its device owns its address now, if nobody did. -/
  owners : h'.owners = h.owners ∨
    h.owner? (h.device d).ip = none ∧ h'.owners = h.owners ++ [((h.device d).ip, d)]
  /-- No application is called, and the answer is never too long. -/
  journal : ∃ new, h'.journal = new ++ h.journal ∧
    ∀ e ∈ new, e.isCall = false ∧ e.isOverlong = false

theorem isCall_of_told {w : Face} {new : List Event} (hn : new.filter (! ·.isPut) = w.told d f) :
    ∀ x ∈ new, x.isCall = false ∧ x.isOverlong = false := by
  intro x hx
  have hd := isDispatch_of_told hx hn
  cases x with
  | noticed n =>
    have hm : Event.noticed n ∈ w.told d f := hn ▸ List.mem_filter.mpr ⟨hx, rfl⟩
    unfold Face.told transmission at hm
    revert hm
    cases w.staged <;> cases w.failure <;> simp
  | _ => first | exact ⟨rfl, rfl⟩ | cases hd

theorem undisturbed_register (d : DeviceId) (h : Host) : Undisturbed d h ((register d).run h).2 := by
  rcases register_cases d h with ⟨-, hr⟩ | ⟨ho, hr⟩
  · rw [hr]
    exact ⟨rfl, .inl rfl, [.presented d], rfl, List.forall_mem_singleton.mpr ⟨rfl, rfl⟩⟩
  · rw [hr]
    exact ⟨rfl, .inr ⟨ho, rfl⟩, [.noticed (.registered (h.device d).ip), .presented d], rfl,
      by simp [Event.isCall, Event.isOverlong]⟩

theorem Undisturbed.pong (u : Undisturbed d h h₁) (hl : 8 ≤ m.length)
    (hm : Ipv4.headerLength + m.length ≤ Ipv4.maxLength) (src : Ip) :
    Undisturbed d h ((Host.pong d src m).run h₁).2 := by
  obtain ⟨ds, ts, qs, j, ho⟩ := run_offer_eq d (h₁.pongFrame d src m) h₁
  obtain ⟨new, hj, -, ht⟩ := journal_offer d (h₁.pongFrame d src m) h₁
  obtain ⟨older, hj₁, hn⟩ := u.journal
  rw [run_pong hl hm]
  refine ⟨?_, ?_, (h₁.pongNotices d src).map .noticed ++ new ++ older, ?_, ?_⟩
  · rw [ho, u.rest]
    rfl
  · rw [ho]
    exact u.owners
  · unfold noting
    rw [hj, hj₁, List.append_assoc, List.append_assoc]
  · refine List.forall_mem_append.mpr ⟨List.forall_mem_append.mpr ⟨fun x hx => ?_, isCall_of_told ht⟩, hn⟩
    obtain ⟨n, hn, rfl⟩ := List.mem_map.mp hx
    exact ⟨rfl, (mem_pongNotices hn).2⟩

/-- What is reported around it does not matter to a frame that was sent. -/
theorem Sent.around (hs : Sent d f h₁ h₂) (u : KeepsFrames h h₁) (u' : KeepsFrames h₂ h') (v : Stored h') :
    Sent d f h h' := by
  have ha : ∀ e, asked e h'.journal = asked e h.journal ++ if d = e then [f] else [] := fun e => by
    rw [u'.asked_eq, hs.asks, u.asked_eq]
  refine ⟨ha, fun hd e => ?_, fun hd => ?_, fun hl => ?_⟩
  · rw [u'.wired_eq, hs.wires (by rw [u.staging, hd]), u.wired_eq]
  · obtain ⟨hd', hw⟩ := hs.waits (by rw [u.staging, hd])
    exact ⟨by rw [u'.staging, hd'], fun e => by rw [u'.wired_eq, hw, u.wired_eq]⟩
  · exact v.hands (by rw [ha, if_pos rfl]) hl

/-- **A device that works sends what is offered for an echo request**, and nothing else is sent. -/
theorem Visited.sent_pong (hv : Visited h) (hl : 8 ≤ m.length)
    (hm : Ipv4.headerLength + m.length ≤ Ipv4.maxLength) (src : Ip) (hw : Works (h.device d)) :
    Sent d (h.pongFrame d src m) h ((pong d src m).run ((register d).run h).2).2 := by
  have hs : KeepsQueues h ((register d).run h).2 := keepsQueues_register d
  have v := hv.stored.shift (.move (.keepsQueues hs))
  obtain ⟨os, j, hr⟩ := run_register d h
  have hf : ((register d).run h).2.pongFrame d src m = h.pongFrame d src m := by
    rw [hr]
    rfl
  have hn : ∀ n ∈ ((register d).run h).2.pongNotices d src, (Event.noticed n).onQueue = false :=
    fun n hn => (mem_pongNotices hn).1
  rw [run_pong hl hm, hf]
  have ho := (sent_offer v (by rw [hr]; exact hw) (h.pongFrame d src m)).2
  have hr' := keepsQueues_noting hn ((offer d (h.pongFrame d src m)).run ((register d).run h).2).2
  exact ho.around hs.keepsFrames hr'.keepsFrames
    ((v.shift (.move (.offer d _))).shift (.move (.keepsQueues hr')))

/-! ## All echo requests -/

/-- **How a host answers echo requests**, whatever the application is. -/
structure AnswersPings (h : Host) : Prop where
  /-- A device that works sends one frame to a source whose link address is known. It bears the answer to the
  request, from the device's address to the source, and whoever receives it drops it. -/
  answered : ∀ {d src m x mac}, Pinged d src m x → h.arp.get? src = some mac → Works (h.device d) →
    ∃ f r h', (∀ app, (x app).run h = (some (), h')) ∧ Sent d f h h' ∧
      Bears f mac (h.device d).mac ⟨(h.device d).ip, src, 1, r⟩ ∧ Icmp.Answers m r ∧
      ∀ g e, ∃ g', (∀ app, (receiveFrame app e f).run g = (some (), g')) ∧ Dropped g e f g'
  /-- If the link address of the source is not known, it sends one question for it instead, and little else
  changes. -/
  wanting : ∀ {d src m x}, Pinged d src m x → h.arp.get? src = none → Works (h.device d) →
    ∃ h', (∀ app, (x app).run h = (some (), h')) ∧ Undisturbed d h h' ∧
      Sent d (h.arpFrame d .broadcast Arp.request .zero src) h h'
  /-- So it is in any case and on any device, and the answer is never too long. -/
  undisturbed : ∀ {d src m x}, Pinged d src m x →
    ∃ h', (∀ app, (x app).run h = (some (), h')) ∧ Undisturbed d h h'

/-- **An echo request is answered in one frame**, or by a question for the way back. -/
theorem Visited.answersPings (hv : Visited h) : AnswersPings h where
  answered {d src m x mac} hx hr hw := by
    have ha := Icmp.answers_echoReply hx.length
    have hb : Bears (h.pongFrame d src m) mac (h.device d).mac
        ⟨(h.device d).ip, src, 1, Icmp.echoReply m⟩ := by
      unfold pongFrame
      rw [hr]
      exact bears_packetFrame (ha.length ▸ hx.short)
    exact ⟨_, _, _, hx.run, hv.sent_pong hx.length hx.short src hw, hb, ha, hb.dropped ha⟩
  wanting {d src m x} hx hr hw := by
    have hs := hv.sent_pong hx.length hx.short src hw
    unfold pongFrame at hs
    rw [hr] at hs
    exact ⟨_, hx.run, (undisturbed_register d h).pong hx.length hx.short src, hs⟩
  undisturbed {d src m x} hx :=
    ⟨_, hx.run, (undisturbed_register d h).pong hx.length hx.short src⟩

/-! ### A request of odd length -/

/-- A host that knows its neighbour. -/
def neighbourly : Host := talked [.store ⟨10, 0, 0, 2⟩ ⟨2, 0, 0, 0, 0, 2⟩]

/-- An echo request with one byte of data, in a packet with options and a frame that is filled up. -/
def oddPing : Ethernet.Frame :=
  ⟨talker.mac, ⟨2, 0, 0, 0, 0, 2⟩, 0x0800,
    [0x46, 0, 0, 33, 0, 0, 0, 0, 64, 1, 0x63, 0xd8, 10, 0, 0, 2, 10, 0, 0, 1, 1, 1, 1, 1] ++
      [8, 0, 0xa7, 0xfe, 0, 1, 0, 0, 0x50] ++ [7, 7, 7]⟩

/-- What it asks. -/
def oddPing.message : Bytes := [8, 0, 0xa7, 0xfe, 0, 1, 0, 0, 0x50]

theorem pinged_oddPing : Pinged 0 ⟨10, 0, 0, 2⟩ oddPing.message (receiveFrame · 0 oddPing.encode) := by
  have hf : oddPing.Reads oddPing.encode :=
    Ethernet.Frame.decode?_eq_some.mp (Ethernet.Frame.decode_encode oddPing)
  have hp : Ipv4.Packet.Reads oddPing.payload ⟨⟨10, 0, 0, 2⟩, talker.ip, 1, oddPing.message⟩ :=
    Ipv4.Packet.decode_eq_ok.mp (by decide +kernel)
  exact .frame hf rfl hp (by decide) rfl

theorem answersPings_neighbourly : Visited neighbourly ∧
    Pinged 0 ⟨10, 0, 0, 2⟩ oddPing.message (receiveFrame · 0 oddPing.encode) ∧
    Works (neighbourly.device 0) ∧ ∃ f r h',
      (∀ app, (receiveFrame app 0 oddPing.encode).run neighbourly = (some (), h')) ∧
      Sent 0 f neighbourly h' ∧ Icmp.Answers oddPing.message r ∧
      Bears f ⟨2, 0, 0, 0, 0, 2⟩ talker.mac ⟨talker.ip, ⟨10, 0, 0, 2⟩, 1, r⟩ := by
  have hv : Visited neighbourly := visited_talked (by decide +kernel)
  have hm : neighbourly.arp.get? ⟨10, 0, 0, 2⟩ = some ⟨2, 0, 0, 0, 0, 2⟩ := by decide +kernel
  have hw : Works (neighbourly.device 0) := fun _ => by decide +kernel
  have hd : (neighbourly.device 0).mac = talker.mac ∧ (neighbourly.device 0).ip = talker.ip := by
    decide +kernel
  obtain ⟨f, r, h', hrun, hs, hb, ha, -⟩ := hv.answersPings.answered pinged_oddPing hm hw
  rw [hd.1, hd.2] at hb
  exact ⟨hv, pinged_oddPing, hw, f, r, h', hrun, hs, ha, hb⟩

end Host

end InetHost
