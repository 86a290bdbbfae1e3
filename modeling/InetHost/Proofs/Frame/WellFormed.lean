import InetHost.Proofs.Frame.Checksum
import InetHost.Proofs.Frame.Grammar
import InetHost.Proofs.Run.Chore

/-!
# Well-formed frames

What a frame of a host has to look like on the wire, byte for byte, and that the frames that a host
makes look so.

* `ArpPacket`, `Message`, `Ipv4Packet`, `WellFormed`: what to expect of a frame's bytes. All sums are
  taken over the bytes themselves, with the addresses that stand in the packet;
* **`wellFormed_arpFrame`**, **`wellFormed_packetFrame`**: the frames of a host are as expected, if
  the message of a packet is;
* `message_echoReply`, `message_datagram`, `message_segment`: so it is for all payloads.
-/

namespace InetHost

open Checksum

/-! ## What to expect -/

/-- Bytes that are an ARP packet from a device. -/
structure ArpPacket (mac : Mac) (ip : Ip) (p : Bytes) : Prop where
  length : p.length = 28
  hardware : Bytes.field p 0 2 = 1
  protocol : Bytes.field p 2 2 = 0x0800
  hardwareLength : Bytes.field p 4 1 = 6
  protocolLength : Bytes.field p 5 1 = 4
  operation : Bytes.field p 6 2 = 1 ∨ Bytes.field p 6 2 = 2
  senderMac : Mac.ofBytes (p.drop 8) = mac
  senderIp : Ip.ofBytes (p.drop 14) = ip

/-- The sum of a transport message with its pseudo-header. -/
def transportSum (src dst : Ip) (protocol : UInt8) (m : Bytes) : Nat :=
  pseudoSum src dst protocol m.length + total (words m)

/-- Bytes that are a message of a protocol: its checksum verifies. A datagram states its length, and
that it has a checksum. -/
inductive Message (src dst : Ip) (m : Bytes) : UInt8 → Prop
  | icmp (hs : fold (total (words m)) = 0xffff) : Message src dst m 1
  | tcp (hs : fold (transportSum src dst 6 m) = 0xffff) : Message src dst m 6
  | udp (hs : fold (transportSum src dst 17 m) = 0xffff)
    (hl : Bytes.field m 4 2 = 8 + (m.drop 8).length) (hz : Bytes.field m 6 2 ≠ 0) :
    Message src dst m 17

/-- Bytes that are an IPv4 packet from a device. -/
structure Ipv4Packet (ttl : UInt8) (ip : Ip) (p : Bytes) : Prop where
  version : Bytes.field p 0 1 / 16 = 4
  headerLength : Bytes.field p 0 1 % 16 = 5
  length : Bytes.field p 2 2 = p.length
  ttl : p.getD 8 0 = ttl
  src : Ip.ofBytes (p.drop 12) = ip
  checksum : fold (total (words (p.take 20))) = 0xffff
  message : Message (Ip.ofBytes (p.drop 12)) (Ip.ofBytes (p.drop 16)) (p.drop 20) (p.getD 9 0)

/-- **Bytes that are a frame from a device** with the addresses `mac` and `ip`, where `table` holds the
link addresses. -/
inductive WellFormed (ttl : UInt8) (mac : Mac) (ip : Ip) (table : Ip → Option Mac) (f : Bytes) :
    Prop
  | arp (hl : f.length = 42) (hs : Mac.ofBytes (f.drop 6) = mac) (ht : Bytes.field f 12 2 = 0x0806)
    (hp : ArpPacket mac ip (f.drop 14)) : WellFormed ttl mac ip table f
  | packet (hd : table (Ip.ofBytes (f.drop 30)) = some (Mac.ofBytes f))
    (hs : Mac.ofBytes (f.drop 6) = mac) (ht : Bytes.field f 12 2 = 0x0800)
    (hp : Ipv4Packet ttl ip (f.drop 14)) : WellFormed ttl mac ip table f

/-! ## Messages -/

section

variable {w : Nat → Bytes} {a b : Bytes} {i : Nat} (hw : ∀ n, w n = a ++ Bytes.ofNat 2 n ++ b)
  (ha : a.length = 2 * i)

include hw ha

/-- What is written for a checksum verifies, if it completes the sum. -/
theorem fold_transportSum (src dst : Ip) (protocol : UInt8) {n : UInt16}
    (hn : fold (pseudoSum src dst protocol (w 0).length + wordSum (w 0) i + n.toNat) = 65535) :
    fold (transportSum src dst protocol (w n.toNat)) = 65535 := by
  have hl : (w n.toNat).length = (w 0).length := by
    rw [hw, hw]
    simp only [List.length_append, Bytes.length_ofNat]
  unfold transportSum
  rw [hl, hw n.toNat]
  rw [hw 0] at hn ⊢
  exact fold_words_between ha _ hn

/-- So does the checksum between two addresses. -/
theorem fold_checksumBetween (src dst : Ip) (protocol : UInt8) :
    fold (transportSum src dst protocol (w (checksumBetween src dst protocol (w 0) i).toNat)) =
      65535 :=
  fold_transportSum hw ha src dst protocol (fold_add_complement _)

end

theorem message_echoReply (src dst : Ip) (b : Bytes) :
    Message src dst (Icmp.echoReply b) Ipv4.icmp := by
  have hs := fold_words_complete (a := [Icmp.echoReplyType, 0]) (i := 1) rfl 0 (b.drop 4)
  rw [Nat.zero_add, Nat.zero_add] at hs
  exact .icmp hs

theorem message_segment (s : Stream) (t : Tcp.Header) (data : Bytes) :
    Message s.here.ip s.peer.ip (Tcp.encode s t data) Ipv4.tcp :=
  .tcp (fold_checksumBetween (w := fun n => Tcp.encodeWith n s t data)
    (fun _ => List.append_assoc _ (Bytes.ofNat 2 0) data) (by simp) _ _ _)

theorem fold_wireChecksum (f : Flow) (d : Bytes) :
    fold (transportSum f.src.ip f.dst.ip Ipv4.udp (Udp.encode f d)) = 65535 := by
  unfold Udp.encode
  refine fold_transportSum (w := fun n => Udp.encodeWith n f d) (i := 3) (fun _ => rfl) (by simp)
    _ _ _ ?_
  unfold Udp.wireChecksum checksumBetween
  dsimp only
  split_ifs with hz
  · exact fold_add_ones hz
  · exact fold_add_complement _

theorem wireChecksum_ne_zero (f : Flow) (d : Bytes) : Udp.wireChecksum f d ≠ 0 := by
  unfold Udp.wireChecksum
  dsimp only
  split_ifs with hz
  · decide
  · exact hz

theorem field_two (n : Nat) (hn : n < 65536) : Bytes.toNat (Bytes.ofNat 2 n) = n := by
  rw [Bytes.toNat_ofNat]
  exact Nat.mod_eq_of_lt hn

theorem message_datagram (f : Flow) {d : Bytes} (hd : Udp.headerLength + d.length < 65536) :
    Message f.src.ip f.dst.ip (Udp.encode f d) Ipv4.udp := by
  refine .udp (fold_wireChecksum f d) ?_ ?_
  · exact field_two _ hd
  · have hz : Bytes.field (Udp.encode f d) 6 2 = (Udp.wireChecksum f d).toNat :=
      field_two _ (Udp.wireChecksum f d).toNat_lt
    rw [hz]
    exact fun h => wireChecksum_ne_zero f d (UInt16.toNat.inj h)

/-! ## Packets -/

/-- The checksum of a header lies between two parts that do not depend on it. -/
theorem headerWith_eq (n : Nat) (ttl protocol : UInt8) (length : Nat) (src dst : Ip) :
    Ipv4.headerWith n ttl protocol length src dst = [0x45, 0] ++ Bytes.ofNat 2 length ++
      Bytes.ofNat 2 0 ++ Bytes.ofNat 2 0 ++ [ttl, protocol] ++ Bytes.ofNat 2 n ++
        (src.octets ++ dst.octets) :=
  List.append_assoc ..

theorem fold_header (ttl protocol : UInt8) (length : Nat) (src dst : Ip) :
    fold (total (words (Ipv4.header ttl protocol length src dst))) = 65535 := by
  have hs := fold_words_between (a := [0x45, 0] ++
      Bytes.ofNat 2 length ++ Bytes.ofNat 2 0 ++ Bytes.ofNat 2 0 ++ [ttl, protocol]) (i := 5)
      (b := src.octets ++ dst.octets) (by simp) 0 (fold_add_complement _)
  rw [← headerWith_eq, ← headerWith_eq, Nat.zero_add, Nat.zero_add] at hs
  exact hs

namespace Host

variable {h : Host} {d : DeviceId}

theorem ipv4Packet_header {ttl protocol : UInt8} {src dst : Ip} {m : Bytes}
    (hl : Ipv4.headerLength + m.length ≤ Ipv4.maxLength) (hm : Message src dst m protocol) :
    Ipv4Packet ttl src
      (Ipv4.header ttl protocol (Ipv4.headerLength + m.length) src dst ++ m) := by
  have hh : (Ipv4.header ttl protocol (Ipv4.headerLength + m.length) src dst).length = 20 :=
    Ipv4.length_header ..
  have hv : Bytes.field (Ipv4.header ttl protocol (Ipv4.headerLength + m.length) src dst ++ m) 0 1 =
      0x45 := rfl
  refine ⟨by rw [hv], by rw [hv], ?_, rfl, rfl, ?_, ?_⟩
  · rw [List.length_append, hh]
    exact field_two _ (Nat.lt_succ_of_le hl)
  · rw [List.take_left' hh]
    exact fold_header ..
  · rw [List.drop_left' hh]
    exact hm

/-- **A frame with a packet is well-formed**, if its message is. -/
theorem wellFormed_packetFrame {protocol : UInt8} {dst : Ip} {mac : Mac} {m : Bytes}
    (hr : h.Routed dst mac m) (hm : Message (h.device d).ip dst m protocol) :
    WellFormed h.config.ttl (h.device d).mac (h.device d).ip h.arp.get?
      (h.packetFrame d protocol dst mac m) :=
  .packet hr.resolved rfl rfl (ipv4Packet_header hr.short hm)

/-- **A frame with an ARP packet is well-formed**, if it is a question or an answer. -/
theorem wellFormed_arpFrame {ttl : UInt8} {dst mac : Mac} {op : UInt16} {ip : Ip}
    (ho : op = Arp.request ∨ op = Arp.reply) (table : Ip → Option Mac) :
    WellFormed ttl (h.device d).mac (h.device d).ip table (h.arpFrame d dst op mac ip) := by
  have hf : Bytes.field (Arp.Packet.encode ⟨op, (h.device d).mac, (h.device d).ip, mac, ip⟩) 6 2 =
      op.toNat := field_two _ op.toNat_lt
  refine .arp rfl rfl rfl ⟨rfl, rfl, rfl, rfl, rfl, ?_, rfl, rfl⟩
  rcases ho with rfl | rfl
  · exact .inl hf
  · exact .inr hf

end Host

/-! ## What is sent can be read -/

theorem checksum_headerWith (n : Nat) (ttl protocol : UInt8) (length : Nat) (src dst : Ip) :
    checksum (Ipv4.headerWith n ttl protocol length src dst) 5 =
      checksum (Ipv4.headerWith 0 ttl protocol length src dst) 5 := by
  have hs : ∀ n, wordSum (Ipv4.headerWith n ttl protocol length src dst) 5 =
      total (words ([0x45, 0] ++ Bytes.ofNat 2 length ++ Bytes.ofNat 2 0 ++ Bytes.ofNat 2 0 ++
        [ttl, protocol])) + total (words (src.octets ++ dst.octets)) := by
    intro n
    rw [headerWith_eq]
    exact wordSum_between (by simp) n _
  change complement (wordSum _ 5) = complement (wordSum _ 5)
  rw [hs, hs]

theorem Ipv4.Packet.reads_header (ttl protocol : UInt8) (src dst : Ip) {m : Bytes}
    (hl : Ipv4.headerLength + m.length ≤ Ipv4.maxLength) :
    Reads (Ipv4.header ttl protocol (Ipv4.headerLength + m.length) src dst ++ m)
      ⟨src, dst, protocol, m⟩ := by
  have hh : (Ipv4.header ttl protocol (Ipv4.headerLength + m.length) src dst).length = 20 :=
    Ipv4.length_header ..
  generalize hb : Ipv4.header ttl protocol (Ipv4.headerLength + m.length) src dst ++ m = b
  have hn : b.length = 20 + m.length := by rw [← hb, List.length_append, hh]
  have hv : Bytes.field b 0 1 = 0x45 := by rw [← hb]; rfl
  have ht : Bytes.field b 2 2 = 20 + m.length := by
    rw [← hb]
    exact field_two _ (Nat.lt_succ_of_le hl)
  have ho : headerOf b = 20 := by unfold headerOf; rw [hv]
  refine ⟨by omega, by rw [hv], by omega, by omega, by omega, ?_, ?_, by rw [← hb]; rfl,
    by rw [← hb]; rfl, ?_⟩
  · rw [ho, ← hb, List.take_left' hh]
    unfold Ipv4.header
    rw [checksum_headerWith]
    exact (field_two _ (UInt16.toNat_lt _)).symm
  · rw [← hb]
    exact (Nat.zero_add _).symm
  · rw [ho, ht, Nat.add_sub_cancel_left, ← hb]
    unfold Bytes.slice
    rw [List.drop_left' hh, List.take_length]

theorem Tcp.Segment.reads_encode (s : Stream) (t : Tcp.Header) (data : Bytes) :
    Reads (Tcp.encode s t data) ⟨s.here.port, s.peer.port, t.seq, t.ack, t.flags, data⟩ := by
  have hv : Bytes.field (Tcp.encode s t data) 12 1 = 0x50 := rfl
  have ho : offsetOf (Tcp.encode s t data) = 20 := by unfold offsetOf; rw [hv]
  have hl : (Tcp.encode s t data).length = 20 + data.length := Tcp.length_encode ..
  refine ⟨by omega, by omega, by omega, (field_two _ s.here.port.toNat_lt).symm,
    (field_two _ s.peer.port.toNat_lt).symm, ?_, ?_, ?_, by rw [ho]; rfl⟩
  · exact (Nat.mod_eq_of_lt t.seq.toNat_lt).symm.trans (Bytes.toNat_ofNat 4 _).symm
  · exact (Nat.mod_eq_of_lt t.ack.toNat_lt).symm.trans (Bytes.toNat_ofNat 4 _).symm
  · exact (Nat.zero_add _).symm

end InetHost
