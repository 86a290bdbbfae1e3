import InetHost.Proofs.Exchange.Intake

/-!
# What a host does not look at

Link addresses, the options of a packet and what lies behind the content that a frame, a packet or a
datagram states are not looked at.

* `Udp.Datagram.Reads.of_take`, `Arp.Packet.Reads.of_take`: what is read in the bytes in front is read
  whatever follows;
* `Indistinct`: frames that differ in nothing else;
* **`Indistinct.overlooked`**: a host that takes one of them is in every respect like one that takes the other;
* `after?_congr`: so it is in a history of many operations.
-/

namespace InetHost

/-- A datagram is read in the bytes that it states for itself. -/
theorem Udp.Datagram.Reads.of_take {b b' : Bytes} {m : Datagram} (hm : m.Reads b)
    (ht : b'.take (Bytes.field b 4 2) = b.take (Bytes.field b 4 2)) : m.Reads b' := by
  have hs := hm.stated
  have hp := hm.present
  have hl := congrArg List.length ht
  rw [List.length_take, List.length_take] at hl
  have hf {j : Nat} (hj : j + 2 ≤ 8) : Bytes.field b' j 2 = Bytes.field b j 2 :=
    Bytes.field_of_take ht (by omega)
  exact
    { length := by omega
      stated := by rw [hf (by decide)]; exact hs
      present := by rw [hf (by decide)]; omega
      srcPort := by rw [hf (by decide)]; exact hm.srcPort
      dstPort := by rw [hf (by decide)]; exact hm.dstPort
      payload := by rw [hf (by decide), Bytes.slice_of_take ht (by omega)]; exact hm.payload }

/-- An ARP packet is read in its first 28 bytes. -/
theorem Arp.Packet.Reads.of_take {b b' : Bytes} {p : Packet} (hp : p.Reads b)
    (ht : b'.take 28 = b.take 28) : p.Reads b' := by
  have hl := congrArg List.length ht
  rw [List.length_take, List.length_take] at hl
  have hb := hp.length
  have hg {j : Nat} (hj : j < 28) : b'.getD j 0 = b.getD j 0 := by
    have hj' := congrArg (·[j]?) ht
    simp only [List.getElem?_take, if_pos hj] at hj'
    rw [List.getD_eq_getElem?_getD, hj', ← List.getD_eq_getElem?_getD]
  have hm {j : Nat} (hj : j + 6 ≤ 28) : Mac.ofBytes (b'.drop j) = Mac.ofBytes (b.drop j) := by
    simp only [Mac.ofBytes, List.getD_eq_getElem?_getD, List.getElem?_drop]
    simp only [← List.getD_eq_getElem?_getD]
    rw [hg (by omega), hg (by omega), hg (by omega), hg (by omega), hg (by omega), hg (by omega)]
  have hi {j : Nat} (hj : j + 4 ≤ 28) : Ip.ofBytes (b'.drop j) = Ip.ofBytes (b.drop j) := by
    simp only [Ip.ofBytes, List.getD_eq_getElem?_getD, List.getElem?_drop]
    simp only [← List.getD_eq_getElem?_getD]
    rw [hg (by omega), hg (by omega), hg (by omega), hg (by omega)]
  exact
    { length := by omega
      op := by rw [Bytes.field_of_take ht (by decide)]; exact hp.op
      senderMac := by rw [hm (by decide)]; exact hp.senderMac
      senderIp := by rw [hi (by decide)]; exact hp.senderIp
      targetMac := by rw [hm (by decide)]; exact hp.targetMac
      targetIp := by rw [hi (by decide)]; exact hp.targetIp }

namespace Host

variable {b₁ b₂ : Bytes}

/-- **Two frames are alike for a host.** They carry packets that read the same; or packets between the
same addresses with the same datagram, whatever follows its stated length; or the same bytes of an ARP
packet, whatever follows these. -/
inductive Indistinct (b₁ b₂ : Bytes) : Prop
  | packet {f₁ f₂ : Ethernet.Frame} {p₁ p₂ : Ipv4.Packet} (hf₁ : f₁.Reads b₁) (hf₂ : f₂.Reads b₂)
    (ht₁ : f₁.type = 0x0800) (ht₂ : f₂.type = 0x0800) (hp₁ : p₁.Reads f₁.payload)
    (hp₂ : p₂.Reads f₂.payload) (hs : p₂.src = p₁.src) (hd : p₂.dst = p₁.dst)
    (hq : p₂.protocol = p₁.protocol) (hc : p₂.payload = p₁.payload) : Indistinct b₁ b₂
  | datagram {f₁ f₂ : Ethernet.Frame} {p₁ p₂ : Ipv4.Packet} {m : Udp.Datagram} (hf₁ : f₁.Reads b₁)
    (hf₂ : f₂.Reads b₂) (ht₁ : f₁.type = 0x0800) (ht₂ : f₂.type = 0x0800)
    (hp₁ : p₁.Reads f₁.payload) (hp₂ : p₂.Reads f₂.payload) (hs : p₂.src = p₁.src)
    (hd : p₂.dst = p₁.dst) (hq₁ : p₁.protocol = 17) (hq₂ : p₂.protocol = 17)
    (hm : m.Reads p₁.payload)
    (hc : p₂.payload.take (Bytes.field p₁.payload 4 2) =
      p₁.payload.take (Bytes.field p₁.payload 4 2)) : Indistinct b₁ b₂
  | arp {f₁ f₂ : Ethernet.Frame} {p : Arp.Packet} (hf₁ : f₁.Reads b₁) (hf₂ : f₂.Reads b₂)
    (ht₁ : f₁.type = 0x0806) (ht₂ : f₂.type = 0x0806) (hp : p.Reads f₁.payload)
    (hc : f₂.payload.take 28 = f₁.payload.take 28) : Indistinct b₁ b₂

theorem receiveDatagram_congr {m : Udp.Datagram} (h₁ : m.Reads b₁) (h₂ : m.Reads b₂)
    (app : Application) (d : DeviceId) (src : Ip) :
    receiveDatagram app d b₁ src = receiveDatagram app d b₂ src := by
  unfold receiveDatagram
  rw [Udp.Datagram.decode_eq_ok.mpr h₁, Udp.Datagram.decode_eq_ok.mpr h₂]

theorem receiveArp_congr {p : Arp.Packet} (h₁ : p.Reads b₁) (h₂ : p.Reads b₂) (d : DeviceId) :
    receiveArp d b₁ = receiveArp d b₂ := by
  unfold receiveArp
  rw [Arp.Packet.decode?_eq_some.mpr h₁, Arp.Packet.decode?_eq_some.mpr h₂]

theorem run_receivePacket_datagram {b : Bytes} {p : Ipv4.Packet} (hp : p.Reads b)
    (hq : p.protocol = 17) (app : Application) (d : DeviceId) (h : Host) :
    (receivePacket app d b).run h =
      (receiveDatagram app d p.payload p.src).run ((register d).run h).2 := by
  have hn : p.protocol ≠ Ipv4.icmp ∧ p.protocol ≠ Ipv4.igmp ∧ p.protocol ≠ Ipv4.tcp := by
    rw [hq]
    decide
  rw [run_receivePacket hp, if_neg hn.1, if_neg hn.2.1, if_neg hn.2.2,
    if_pos (show p.protocol = Ipv4.udp from hq)]

/-- **Frames that are alike are received alike**, as one and the same code. -/
theorem receiveFrame_congr (ha : Indistinct b₁ b₂) (app : Application) (d : DeviceId) :
    receiveFrame app d b₁ = receiveFrame app d b₂ := by
  funext h
  change (receiveFrame app d b₁).run h = (receiveFrame app d b₂).run h
  cases ha with
  | @packet f₁ f₂ p₁ p₂ hf₁ hf₂ ht₁ ht₂ hp₁ hp₂ hs hd hq hc =>
    rw [run_receiveFrame_ipv4Type hf₁ ht₁, run_receiveFrame_ipv4Type hf₂ ht₂, run_receivePacket hp₁,
      run_receivePacket hp₂, hs, hq, hc]
  | @datagram f₁ f₂ p₁ p₂ m hf₁ hf₂ ht₁ ht₂ hp₁ hp₂ hs hd hq₁ hq₂ hm hc =>
    rw [run_receiveFrame_ipv4Type hf₁ ht₁, run_receiveFrame_ipv4Type hf₂ ht₂,
      run_receivePacket_datagram hp₁ hq₁, run_receivePacket_datagram hp₂ hq₂, hs,
      receiveDatagram_congr hm (hm.of_take hc)]
  | @arp f₁ f₂ p hf₁ hf₂ ht₁ ht₂ hp hc =>
    rw [run_receiveFrame_arpType hf₁ ht₁, run_receiveFrame_arpType hf₂ ht₂,
      receiveArp_congr hp (hp.of_take hc)]

/-! ## Runs -/

variable {n : Nat} {x : Context} {d : DeviceId}

theorem exec_congr (ha : Indistinct b₁ b₂) :
    exec n x (.receive d (.bytes b₁)) = exec n x (.receive d (.bytes b₂)) := by
  cases n with
  | zero => rfl
  | succ n =>
    have hr := receiveFrame_congr ha (answerCall (exec n)) d
    exact congrArg (fun r : Run Unit => do lend d r; return Reply.done) hr

/-- A history in which one of the frames was taken leads where the same with the other leads. -/
theorem after?_congr (ha : Indistinct b₁ b₂) (before behind : List Op) (h : Host) :
    after? n (before ++ .receive d (.bytes b₁) :: behind) h =
      after? n (before ++ .receive d (.bytes b₂) :: behind) h := by
  induction before generalizing h with
  | nil =>
    rw [List.nil_append, List.nil_append, after?, after?, exec_congr ha]
  | cons op ops ih =>
    rw [List.cons_append, List.cons_append, after?, after?]
    simp only [ih]

/-- **What two frames differ in is overlooked.** Received at once or when its turn in a queue comes, on
any host, device and depth, one has the result and the effects of the other: the same application code
is called with the same data, the same frames are sent and the same is noted. So it is with one of
many frames. -/
structure Overlooked (b₁ b₂ : Bytes) : Prop where
  received (app : Application) (d : DeviceId) (h : Host) :
    (receiveFrame app d b₁).run h = (receiveFrame app d b₂).run h
  performed (n : Nat) (x : Context) (d : DeviceId) (h : Host) :
    (exec n x (.receive d (.bytes b₁))).run h = (exec n x (.receive d (.bytes b₂))).run h
  deferred (n : Nat) (d : DeviceId) (h : Host) :
    (runJob (exec n) (.frame d b₁)).run h = (runJob (exec n) (.frame d b₂)).run h
  history (n : Nat) (d : DeviceId) (before behind : List Op) (h : Host) :
    after? n (before ++ .receive d (.bytes b₁) :: behind) h =
      after? n (before ++ .receive d (.bytes b₂) :: behind) h

/-- **Only what a frame carries matters to a host.** -/
theorem Indistinct.overlooked (ha : Indistinct b₁ b₂) : Overlooked b₁ b₂ where
  received app d h := by rw [receiveFrame_congr ha]
  performed n x d h := by rw [exec_congr ha]
  deferred n d h := by
    have hr := receiveFrame_congr ha (answerCall (exec n)) d
    exact congrArg (fun r : Run Unit => (lend d r).run h) hr
  history n d before behind h := after?_congr ha before behind h

/-- A frame of 10.0.0.2 for the talker with some content behind a packet's header. -/
def plainFrame (protocol : UInt8) (content : Bytes) : Ethernet.Frame :=
  ⟨talker.mac, ⟨2, 0, 0, 0, 0, 2⟩, 0x0800,
    Ipv4.header 64 protocol (20 + content.length) ⟨10, 0, 0, 2⟩ talker.ip ++ content⟩

/-- An echo request. -/
def ping : Bytes := [8, 0, 0xf7, 0xff, 0, 0, 0, 0]

/-- The echo request in a frame to everybody that is filled up, with another type of service,
identification and lifetime, and with options. -/
def dressedPing : Ethernet.Frame :=
  ⟨.broadcast, ⟨2, 0, 0, 0, 0, 9⟩, 0x0800,
    [0x46, 16, 0, 32, 0x12, 0x34, 0, 0, 3, 1, 0x8e, 0x95, 10, 0, 0, 2, 10, 0, 0, 1, 1, 1, 1, 1] ++
      ping ++ [7, 7, 7]⟩

/-- A datagram for the talker. -/
def card : Bytes := Udp.encode ⟨⟨⟨10, 0, 0, 2⟩, 4000⟩, ⟨talker.ip, 53⟩⟩ [104, 105]

theorem overlooked_ping :
    Overlooked (plainFrame 1 ping).encode dressedPing.encode ∧
      Overlooked (plainFrame 17 card).encode (plainFrame 17 (card ++ [9, 9])).encode ∧
      Overlooked (inquiryFrame talker.ip).encode ((inquiryFrame talker.ip).encode ++ [9, 9]) := by
  have hf {f : Ethernet.Frame} : f.Reads f.encode :=
    Ethernet.Frame.decode?_eq_some.mp (Ethernet.Frame.decode_encode f)
  have hu : Udp.Datagram.Reads card ⟨4000, 53, [104, 105]⟩ :=
    Udp.Datagram.decode_eq_ok.mp (Udp.Datagram.decode_encode _ (by decide))
  have hq : Arp.Packet.Reads (inquiryFrame talker.ip).payload (inquiry talker.ip) :=
    Arp.Packet.decode?_eq_some.mp (Arp.Packet.decode_encode _ [])
  have h₁ : Ipv4.Packet.Reads (plainFrame 1 ping).payload ⟨⟨10, 0, 0, 2⟩, talker.ip, 1, ping⟩ :=
    Ipv4.Packet.decode_eq_ok.mp (by decide +kernel)
  have h₂ : Ipv4.Packet.Reads dressedPing.payload ⟨⟨10, 0, 0, 2⟩, talker.ip, 1, ping⟩ :=
    Ipv4.Packet.decode_eq_ok.mp (by decide +kernel)
  have h₃ : Ipv4.Packet.Reads (plainFrame 17 card).payload ⟨⟨10, 0, 0, 2⟩, talker.ip, 17, card⟩ :=
    Ipv4.Packet.decode_eq_ok.mp (by decide +kernel)
  have h₄ : Ipv4.Packet.Reads (plainFrame 17 (card ++ [9, 9])).payload
      ⟨⟨10, 0, 0, 2⟩, talker.ip, 17, card ++ [9, 9]⟩ :=
    Ipv4.Packet.decode_eq_ok.mp (by decide +kernel)
  have hp : Ethernet.Frame.Reads ((inquiryFrame talker.ip).encode ++ [9, 9])
      { inquiryFrame talker.ip with payload := (inquiryFrame talker.ip).payload ++ [9, 9] } :=
    Ethernet.Frame.decode?_eq_some.mp (by decide +kernel)
  refine ⟨Indistinct.overlooked (.packet hf hf rfl rfl h₁ h₂ rfl rfl rfl rfl),
    Indistinct.overlooked (.datagram hf hf rfl rfl h₃ h₄ rfl rfl rfl rfl hu ?_),
    Indistinct.overlooked (.arp hf hp rfl rfl hq ?_)⟩
  · decide +kernel
  · decide +kernel

end Host

end InetHost
