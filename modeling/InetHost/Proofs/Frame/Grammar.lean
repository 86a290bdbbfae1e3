import InetHost.Arp.Packet
import InetHost.Ethernet
import InetHost.Icmp
import InetHost.Tcp.Segment
import InetHost.Udp
import Mathlib.Data.List.Induction
import Mathlib.Tactic.SplitIfs

/-!
# What can be read

Which byte strings are read, and as what, in terms of their bytes alone. All numbers are those of the
wire.

* `Bytes.field_lt`, `Bytes.field_one`: a field of `w` bytes is a number below `256 ^ w`;
  `Bytes.field_of_take`, `Bytes.field_of_drop`: it is the same where the bytes are;
* `Ethernet.Frame.Reads`, `Arp.Packet.Reads`, `Ipv4.Packet.Reads`, `Udp.Datagram.Reads`,
  `Tcp.Segment.Reads`: the bytes that are a frame, a packet, …, with what it says;
* `decode_eq_ok`, `decode?_eq_some`: a reader reads exactly these.
-/

namespace InetHost

/-! ## Fields -/

namespace Bytes

theorem toNat_lt (b : Bytes) : toNat b < Nat.pow 256 b.length := by
  induction b using List.reverseRecOn with
  | nil => simp
  | append_singleton b x ih =>
    have hx := x.toNat_lt
    have hp : Nat.pow 256 (b.length + 1) = 256 * Nat.pow 256 b.length := Nat.pow_succ'
    rw [toNat_concat, List.length_append, List.length_singleton, hp]
    omega

theorem field_lt (b : Bytes) (i w : Nat) : field b i w < Nat.pow 256 w := by
  have hl : (slice b i w).length ≤ w := List.length_take_le w _
  exact Nat.lt_of_lt_of_le (toNat_lt _) (Nat.pow_le_pow_right (by omega) hl)

theorem field_one (b : Bytes) (i : Nat) : field b i 1 = (b.getD i 0).toNat := by
  unfold field slice
  rw [List.getD_eq_getElem?_getD]
  by_cases hi : i < b.length
  · rw [List.drop_eq_getElem_cons hi, List.getElem?_eq_getElem hi, List.take_succ_cons,
      List.take_zero]
    simp [toNat]
  · have hi := Nat.le_of_not_lt hi
    rw [List.drop_of_length_le hi, List.getElem?_eq_none hi]
    rfl

theorem ofNat_field_two {x : UInt16} {b : Bytes} {i : Nat} :
    UInt16.ofNat (field b i 2) = x ↔ x.toNat = field b i 2 := by
  have hf : field b i 2 < 65536 := field_lt b i 2
  rw [← UInt16.toNat_inj, UInt16.toNat_ofNat', Nat.mod_eq_of_lt hf, eq_comm]

theorem ofNat_field_four {x : UInt32} {b : Bytes} {i : Nat} :
    UInt32.ofNat (field b i 4) = x ↔ x.toNat = field b i 4 := by
  have hf : field b i 4 < 4294967296 := field_lt b i 4
  rw [← UInt32.toNat_inj, UInt32.toNat_ofNat', Nat.mod_eq_of_lt hf, eq_comm]

theorem getD_eq {x : UInt8} {b : Bytes} {i : Nat} : b.getD i 0 = x ↔ x.toNat = field b i 1 := by
  rw [field_one, ← UInt8.toNat_inj, eq_comm]

section

variable {b b' : Bytes} {j n w : Nat}

/-- Byte strings that begin the same have the same fields there. -/
theorem slice_of_take (h : b'.take n = b.take n) (hn : j + w ≤ n) : slice b' j w = slice b j w := by
  have ht : b'.take (j + w) = b.take (j + w) := by
    rw [← Nat.min_eq_left hn, ← List.take_take, h, List.take_take]
  simp only [slice, List.take_drop, ht]

theorem field_of_take (h : b'.take n = b.take n) (hn : j + w ≤ n) : field b' j w = field b j w :=
  congrArg toNat (slice_of_take h hn)

/-- Byte strings that end the same have the same fields there. -/
theorem field_of_drop (h : b'.drop n = b.drop n) (hn : n ≤ j) : field b' j w = field b j w := by
  obtain ⟨k, rfl⟩ := Nat.exists_eq_add_of_le hn
  simp only [field, slice, ← List.drop_drop, h]

end

end Bytes

/-! ## Frames -/

namespace Ethernet.Frame

/-- Two addresses, a type and any content. -/
structure Reads (b : Bytes) (f : Frame) : Prop where
  length : 14 ≤ b.length
  dst : f.dst = Mac.ofBytes b
  src : f.src = Mac.ofBytes (b.drop 6)
  type : f.type.toNat = Bytes.field b 12 2
  payload : f.payload = b.drop 14

theorem decode?_eq_some {b : Bytes} {f : Frame} : decode? b = some f ↔ Reads b f := by
  obtain ⟨dst, src, type, payload⟩ := f
  by_cases hl : b.length < headerLength
  · simp only [decode?, if_pos hl, reduceCtorEq, false_iff]
    exact fun hr => absurd hl (Nat.not_lt.mpr hr.length)
  · simp only [decode?, if_neg hl, Option.some.injEq, Frame.mk.injEq, Bytes.ofNat_field_two]
    constructor
    · rintro ⟨rfl, rfl, ht, rfl⟩
      exact ⟨Nat.not_lt.mp hl, rfl, rfl, ht, rfl⟩
    · rintro ⟨-, rfl, rfl, ht, rfl⟩
      exact ⟨rfl, rfl, ht, rfl⟩

end Ethernet.Frame

namespace Arp.Packet

/-- An operation and two addresses for either side, whatever follows. -/
structure Reads (b : Bytes) (p : Packet) : Prop where
  length : 28 ≤ b.length
  op : p.op.toNat = Bytes.field b 6 2
  senderMac : p.senderMac = Mac.ofBytes (b.drop 8)
  senderIp : p.senderIp = Ip.ofBytes (b.drop 14)
  targetMac : p.targetMac = Mac.ofBytes (b.drop 18)
  targetIp : p.targetIp = Ip.ofBytes (b.drop 24)

theorem decode?_eq_some {b : Bytes} {p : Packet} : decode? b = some p ↔ Reads b p := by
  obtain ⟨op, sm, si, tm, ti⟩ := p
  by_cases hl : b.length < packetLength
  · simp only [decode?, if_pos hl, reduceCtorEq, false_iff]
    exact fun hr => absurd hl (Nat.not_lt.mpr hr.length)
  · simp only [decode?, if_neg hl, Option.some.injEq, Packet.mk.injEq, Bytes.ofNat_field_two]
    constructor
    · rintro ⟨ho, rfl, rfl, rfl, rfl⟩
      exact ⟨Nat.not_lt.mp hl, ho, rfl, rfl, rfl, rfl⟩
    · rintro ⟨-, ho, rfl, rfl, rfl, rfl⟩
      exact ⟨ho, rfl, rfl, rfl, rfl⟩

end Arp.Packet

/-! ## Packets and what is in them -/

namespace Ipv4.Packet

/-- The length that a packet states for its header, in bytes. -/
def headerOf (b : Bytes) : Nat := 4 * (Bytes.field b 0 1 % 16)

/-- A header of version 4 with its checksum, options included, and as much content behind it as the
total length says, whatever follows. -/
structure Reads (b : Bytes) (p : Packet) : Prop where
  length : 20 ≤ b.length
  version : Bytes.field b 0 1 / 16 = 4
  header : 20 ≤ headerOf b
  total : headerOf b ≤ Bytes.field b 2 2
  present : Bytes.field b 2 2 ≤ b.length
  sum : (checksum (b.take (headerOf b)) 5).toNat = Bytes.field b 10 2
  protocol : p.protocol.toNat = Bytes.field b 9 1
  src : p.src = Ip.ofBytes (b.drop 12)
  dst : p.dst = Ip.ofBytes (b.drop 16)
  payload : p.payload = Bytes.slice b (headerOf b) (Bytes.field b 2 2 - headerOf b)

theorem decode_eq_ok {b : Bytes} {p : Packet} : decode b = .ok p ↔ Reads b p := by
  obtain ⟨src, dst, protocol, payload⟩ := p
  constructor
  · intro hd
    unfold decode at hd
    simp only at hd
    split_ifs at hd with h₁ h₂ h₃ h₄
    simp only [Except.ok.injEq, Packet.mk.injEq, Bytes.getD_eq] at hd
    obtain ⟨rfl, rfl, hp, rfl⟩ := hd
    unfold headerLength at h₁ h₃
    exact ⟨by omega, by omega, by unfold headerOf; omega, by unfold headerOf; omega, by omega,
      not_not.mp h₄, hp, rfl, rfl, rfl⟩
  · rintro ⟨h₁, h₂, h₃, h₄, h₅, h₆, hp, hs, ht, hc⟩
    unfold headerOf at h₃ h₄ h₆ hc
    unfold decode
    simp only
    rw [if_neg (by unfold headerLength; omega), if_neg (by omega),
      if_neg (by unfold headerLength; omega), if_neg (not_not.mpr h₆), Bytes.getD_eq.mpr hp]
    simp only [Except.ok.injEq, Packet.mk.injEq, true_and]
    exact ⟨hs.symm, ht.symm, hc.symm⟩

end Ipv4.Packet

theorem Icmp.Message.decode?_eq_some {b : Bytes} {m : Message} :
    decode? b = some m ↔ 8 ≤ b.length ∧ m = ⟨b.getD 0 0, b⟩ := by
  unfold decode? Icmp.headerLength
  by_cases hl : b.length < 8
  · simp only [if_pos hl, reduceCtorEq, false_iff]
    exact fun hr => absurd hl (Nat.not_lt.mpr hr.1)
  · simp only [if_neg hl, Option.some.injEq]
    exact ⟨fun hm => ⟨Nat.not_lt.mp hl, hm.symm⟩, fun hm => hm.2.symm⟩

namespace Udp.Datagram

/-- Two ports, and as much data as the length field says, whatever follows. -/
structure Reads (b : Bytes) (m : Datagram) : Prop where
  length : 8 ≤ b.length
  stated : 8 ≤ Bytes.field b 4 2
  present : Bytes.field b 4 2 ≤ b.length
  srcPort : m.srcPort.toNat = Bytes.field b 0 2
  dstPort : m.dstPort.toNat = Bytes.field b 2 2
  payload : m.payload = Bytes.slice b 8 (Bytes.field b 4 2 - 8)

theorem decode_eq_ok {b : Bytes} {m : Datagram} : decode b = .ok m ↔ Reads b m := by
  obtain ⟨src, dst, payload⟩ := m
  constructor
  · intro hd
    unfold decode at hd
    simp only at hd
    split_ifs at hd with h₁ h₂
    simp only [Except.ok.injEq, Datagram.mk.injEq, Bytes.ofNat_field_two] at hd
    obtain ⟨hs, ht, rfl⟩ := hd
    unfold headerLength at h₁ h₂
    exact ⟨by omega, by omega, by omega, hs, ht, rfl⟩
  · rintro ⟨h₁, h₂, h₃, hs, ht, rfl⟩
    unfold decode
    simp only
    rw [if_neg (by unfold headerLength; omega), if_neg (by unfold headerLength; omega)]
    simp only [Except.ok.injEq, Datagram.mk.injEq, Bytes.ofNat_field_two]
    exact ⟨hs, ht, rfl⟩

end Udp.Datagram

namespace Tcp.Segment

/-- The length that a segment states for its header, in bytes. -/
def offsetOf (b : Bytes) : Nat := 4 * (Bytes.field b 12 1 / 16)

/-- A header, options included, and any data behind it. -/
structure Reads (b : Bytes) (g : Segment) : Prop where
  length : 20 ≤ b.length
  header : 20 ≤ offsetOf b
  present : offsetOf b ≤ b.length
  srcPort : g.srcPort.toNat = Bytes.field b 0 2
  dstPort : g.dstPort.toNat = Bytes.field b 2 2
  seq : g.seq.toNat = Bytes.field b 4 4
  ack : g.ack.toNat = Bytes.field b 8 4
  flags : g.flags.bits.toNat = Bytes.field b 13 1
  payload : g.payload = b.drop (offsetOf b)

theorem decode_eq_ok {b : Bytes} {g : Segment} : decode b = .ok g ↔ Reads b g := by
  obtain ⟨src, dst, seq, ack, ⟨flags⟩, payload⟩ := g
  constructor
  · intro hd
    unfold decode at hd
    simp only at hd
    split_ifs at hd with h₁ h₂
    simp only [Except.ok.injEq, Segment.mk.injEq, Flags.mk.injEq, Bytes.ofNat_field_two,
      Bytes.ofNat_field_four, Bytes.getD_eq] at hd
    obtain ⟨hs, ht, hn, ha, hf, rfl⟩ := hd
    unfold headerLength at h₁ h₂
    exact ⟨by omega, by unfold offsetOf; omega, by unfold offsetOf; omega, hs, ht, hn, ha, hf, rfl⟩
  · rintro ⟨h₁, h₂, h₃, hs, ht, hn, ha, hf, rfl⟩
    unfold offsetOf at h₂ h₃
    unfold decode
    simp only
    rw [if_neg (by unfold headerLength; omega), if_neg (by unfold headerLength; omega)]
    simp only [Except.ok.injEq, Segment.mk.injEq, Flags.mk.injEq, Bytes.ofNat_field_two,
      Bytes.ofNat_field_four, Bytes.getD_eq]
    exact ⟨hs, ht, hn, ha, hf, rfl⟩

end Tcp.Segment

end InetHost
