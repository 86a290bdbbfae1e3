import InetHost.Proofs.Frame.WellFormed
import InetHost.Host.Receive

/-!
# Frames that are read

A host takes out of a frame what another host has put into it.

* `Ipv4.Packet.decode_header`, `Udp.Datagram.decode_encode`: a packet and a datagram read back;
* `run_receiveArp`, `run_receiveFrame_arp`: so does a frame with an ARP packet, …
* `run_receiveDatagram`, **`run_receiveFrame_datagram`**: … and one with a datagram.
-/

namespace InetHost

open Checksum

/-! ## Packets -/

namespace Ipv4

theorem checksum_headerWith (n : Nat) (ttl protocol : UInt8) (length : Nat) (src dst : Ip) :
    checksum (headerWith n ttl protocol length src dst) 5 =
      checksum (headerWith 0 ttl protocol length src dst) 5 := by
  have hs : wordSum (headerWith n ttl protocol length src dst) 5 =
      wordSum (headerWith 0 ttl protocol length src dst) 5 := by
    rw [headerWith_eq, headerWith_eq, wordSum_between (by simp), wordSum_between (by simp)]
  unfold checksum
  rw [hs]
  rfl

/-- **A packet reads back**, if its length can be written. -/
theorem Packet.decode_header (ttl protocol : UInt8) (src dst : Ip) {m : Bytes}
    (hl : headerLength + m.length ≤ maxLength) :
    Packet.decode (header ttl protocol (headerLength + m.length) src dst ++ m) =
      .ok ⟨src, dst, protocol, m⟩ := by
  have hh : (header ttl protocol (headerLength + m.length) src dst).length = 20 := length_header ..
  have hf : Bytes.field (header ttl protocol (headerLength + m.length) src dst ++ m) 0 1 = 0x45 :=
    rfl
  have ht : Bytes.field (header ttl protocol (headerLength + m.length) src dst ++ m) 2 2 =
      headerLength + m.length := field_two _ (Nat.lt_succ_of_le hl)
  have hc : (checksum (header ttl protocol (headerLength + m.length) src dst) 5).toNat =
      Bytes.field (header ttl protocol (headerLength + m.length) src dst ++ m) 10 2 := by
    unfold header
    rw [checksum_headerWith]
    exact (field_two _ (UInt16.toNat_lt _)).symm
  unfold Packet.decode
  simp only [hf, ht, List.length_append, hh]
  rw [if_neg (by unfold headerLength; omega), if_neg (by decide),
    if_neg (by unfold headerLength; omega), List.take_left' hh, if_neg (fun hn => hn hc)]
  unfold Bytes.slice
  rw [List.drop_left' hh, List.take_of_length_le (by unfold headerLength; omega)]
  rfl

end Ipv4

namespace Udp

/-- **A datagram reads back**, if its length can be written. -/
theorem Datagram.decode_encode (f : Flow) {data : Bytes}
    (hl : headerLength + data.length < 65536) :
    Datagram.decode (encode f data) = .ok ⟨f.src.port, f.dst.port, data⟩ := by
  have hp : ∀ p : UInt16, UInt16.ofNat (Bytes.toNat (Bytes.ofNat 2 p.toNat)) = p := fun p => by
    rw [field_two _ p.toNat_lt, UInt16.ofNat_toNat]
  have hs : Bytes.field (encode f data) 4 2 = headerLength + data.length := field_two _ hl
  have hd : (encode f data).drop headerLength = data := rfl
  unfold Datagram.decode
  simp only [hs, length_encode]
  rw [if_neg (by omega), if_neg (by omega)]
  unfold Bytes.slice
  rw [hd, List.take_of_length_le (by omega)]
  simp only [Except.ok.injEq, Datagram.mk.injEq, and_true]
  exact ⟨hp f.src.port, hp f.dst.port⟩

end Udp

/-! ## Frames -/

namespace Host

variable {app : Application} {h b : Host} {d e : DeviceId}

theorem decode_header (dst src : Mac) (type : UInt16) (payload : Bytes) :
    Ethernet.Frame.decode? (Ethernet.header dst src type ++ payload) =
      some ⟨dst, src, type, payload⟩ :=
  Ethernet.Frame.decode_encode ⟨dst, src, type, payload⟩

theorem run_receiveFrame_arp (dst mac : Mac) (op : UInt16) (ip : Ip) :
    (receiveFrame app e (h.arpFrame d dst op mac ip)).run b =
      (some (), ((receiveArp e (Arp.Packet.encode
        ⟨op, (h.device d).mac, (h.device d).ip, mac, ip⟩)).run b).2) := by
  unfold receiveFrame arpFrame
  rw [decode_header]
  rfl

theorem run_receiveFrame_packet {protocol : UInt8} {dst : Ip} {mac : Mac} {m : Bytes} :
    (receiveFrame app e (h.packetFrame d protocol dst mac m)).run b =
      (receivePacket app e (Ipv4.header h.config.ttl protocol (Ipv4.headerLength + m.length)
        (h.device d).ip dst ++ m)).run b := by
  unfold receiveFrame packetFrame
  rw [decode_header]
  rfl

theorem register_cases (d : DeviceId) (h : Host) :
    (h.owner? (h.device d).ip).isSome ∧
      ((register d).run h).2 = { h with journal := .presented d :: h.journal } ∨
    h.owner? (h.device d).ip = none ∧
      ((register d).run h).2 = { h with
        owners := h.owners ++ [((h.device d).ip, d)]
        journal := .noticed (.registered (h.device d).ip) :: .presented d :: h.journal } := by
  unfold register
  rw [StateT.run_bind]
  change _ ∧ ((if (h.owner? (h.device d).ip).isNone then _ else _ : Act Unit).run _).2 = _ ∨
    _ ∧ ((if (h.owner? (h.device d).ip).isNone then _ else _ : Act Unit).run _).2 = _
  cases ho : h.owner? (h.device d).ip with
  | some e => exact .inl ⟨rfl, rfl⟩
  | none => exact .inr ⟨rfl, rfl⟩

/-- What a host knows of devices and listeners does not change when a device is registered. -/
theorem run_register (d : DeviceId) (h : Host) :
    ∃ os j, ((register d).run h).2 = { h with owners := os, journal := j } := by
  rcases register_cases d h with ⟨-, hr⟩ | ⟨-, hr⟩
  · exact ⟨_, _, hr⟩
  · exact ⟨_, _, hr⟩

/-- **A frame with a datagram** comes to the listeners of its port. -/
theorem run_receiveFrame_datagram {f : Flow} {mac : Mac} {data : Bytes}
    (hl : Ipv4.headerLength + (Udp.encode f data).length ≤ Ipv4.maxLength)
    (hs : (h.device d).ip = f.src.ip) (hd : (b.device e).ip = f.dst.ip) :
    (receiveFrame app e (h.packetFrame d Ipv4.udp f.dst.ip mac (Udp.encode f data))).run b =
      ((match b.subscribersOf f.dst.port with
        | [] => note (.noListener f)
        | us => us.forM fun u => app (.notify u f data)) : Run Unit).run ((register e).run b).2 := by
  have hu : Udp.headerLength + data.length < 65536 := by
    rw [Udp.length_encode] at hl
    unfold Ipv4.maxLength at hl
    omega
  rw [run_receiveFrame_packet]
  unfold receivePacket
  rw [run_act, Ipv4.Packet.decode_header _ _ _ _ hl]
  change (receiveDatagram app e (Udp.encode f data) (h.device d).ip).run _ = _
  unfold receiveDatagram
  rw [Udp.Datagram.decode_encode f hu]
  dsimp only
  obtain ⟨os, j, hr⟩ := run_register e b
  rw [run_get, hr]
  change (match b.subscribersOf f.dst.port with
    | [] => liftM (note (.noListener ⟨⟨(h.device d).ip, f.src.port⟩, ⟨(b.device e).ip, f.dst.port⟩⟩))
    | us => us.forM fun u =>
      app (.notify u ⟨⟨(h.device d).ip, f.src.port⟩, ⟨(b.device e).ip, f.dst.port⟩⟩ data) :
      Run Unit).run _ = _
  rw [hs, hd]

end Host

end InetHost
