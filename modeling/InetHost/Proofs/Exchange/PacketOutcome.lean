import InetHost.Proofs.Exchange.Dispatch
import InetHost.Proofs.Exchange.Sizes

/-!
# What becomes of a packet

A packet is built in a buffer that leaves some room in front of its content. There may be no room for its
header, it may be too long, its way may not be known, and there may be no room for the header of the frame;
the first of these faults counts. A way that is not known is asked for, even where the frame would find no
room.

* `Presents d f more h h'`: device `d` was asked to send the frame `f`, and then `more` was reported;
  **`presents_noting`**: so it is when a frame is offered;
* **`run_lookup_asking`**: a way that is not known is asked for in one frame;
* **`sendPacket_outcome`**: what becomes of a packet, whatever the buffer, the host and the device.
-/

namespace InetHost.Host

variable {h h' : Host} {d : DeviceId} {f : Bytes} {b : PacketBuffer} {dst : Ip}

/-! ## One frame -/

/-- **A device was asked to send one frame**, and then `more` was reported, the last first. -/
structure Presents (d : DeviceId) (f : Bytes) (more : List Event) (h h' : Host) : Prop where
  /-- No device was asked to send anything else. -/
  asks : ∀ e, asked e h'.journal = asked e h.journal ++ if d = e then [f] else []
  /-- But for the jobs that were put on queues, nothing else happened either. -/
  tells : ∃ new, h'.journal = new ++ h.journal ∧
    new.filter (! ·.isPut) = more ++ (h.device d).face.told d f

/-- A host that has reported something, the last first. -/
def noting (h : Host) (ns : List Notice) : Host :=
  { h with journal := ns.map .noticed ++ h.journal }

/-- **Who offers a frame and reports something presents it so.** -/
theorem presents_noting (d : DeviceId) (f : Bytes) (ns : List Notice) (h : Host) :
    Presents d f (ns.map .noticed) h (((offer d f).run h).2.noting ns) := by
  obtain ⟨new, hj, -, ht⟩ := journal_offer d f h
  refine ⟨fun e => ?_, ns.map .noticed ++ new, ?_, ?_⟩
  · rw [← asked_offer]
    refine inOrder_append fun x hx => ?_
    obtain ⟨n, -, rfl⟩ := List.mem_map.mp hx
    rfl
  · unfold noting
    rw [hj, List.append_assoc]
  · rw [List.filter_append, ht, List.filter_eq_self.mpr fun x hx => ?_]
    obtain ⟨n, -, rfl⟩ := List.mem_map.mp hx
    rfl

/-- The warning that a question for an address failed, if it did. -/
def askingFailed (ip : Ip) : Except NetError Unit → List Notice
  | .ok _ => []
  | .error e => [.arpRequestFailed ip e]

/-- **Who looks up what is not known asks one question**, and is warned if the device refuses it. -/
theorem run_lookup_asking (hu : h.arp.get? dst = none) (d : DeviceId) : (lookup d dst).run h =
    (none, ((offer d (h.arpFrame d .broadcast Arp.request .zero dst)).run h).2.noting
      (askingFailed dst (h.device d).face.result)) := by
  rw [← result_offer d (h.arpFrame d .broadcast Arp.request .zero dst) h, ← run_askFor]
  unfold lookup
  rw [act_get, hu]
  dsimp only
  rw [StateT.run_bind]
  generalize (askFor d dst).run h = r
  obtain ⟨r, h'⟩ := r
  cases r <;> rfl

/-! ## All that may become of a packet -/

/-- **What becomes of a packet** with the content of a buffer that goes to `dst` through a device. -/
structure PacketOutcome (h : Host) (b : PacketBuffer) (protocol : UInt8) (dst : Ip) (d : DeviceId) :
    Prop where
  /-- Where there is no room for its header that is the fault of the caller, and nothing happens, … -/
  cramped : b.head < 20 → (sendPacket b protocol dst d).run h = (.error .bufferUnderflow, h)
  /-- … and so it is with one that is too long. -/
  overlong : 20 ≤ b.head → 65535 < b.size + 20 →
    (sendPacket b protocol dst d).run h = (.error (.packetTooLong (b.size + 20)), h)
  /-- If its way is not known, one question for it goes to everybody. -/
  unresolved : 20 ≤ b.head → b.size + 20 ≤ 65535 → h.arp.get? dst = none → ∃ h',
    (sendPacket b protocol dst d).run h = (.error (.unresolved dst), h') ∧
      Presents d (h.arpFrame d .broadcast Arp.request .zero dst)
        ((askingFailed dst (h.device d).face.result).map .noticed) h h'
  /-- Otherwise there has to be room for the header of the frame as well. -/
  tight : ∀ {mac}, 20 ≤ b.head → b.size + 20 ≤ 65535 → h.arp.get? dst = some mac → b.head < 34 →
    (sendPacket b protocol dst d).run h = (.error .bufferUnderflow, h)
  /-- Then the device is asked to send one frame, with the content of the buffer behind two headers and
  nothing else. What comes of that is what comes of the packet. -/
  sent : ∀ {mac}, b.size + 20 ≤ 65535 → h.arp.get? dst = some mac → 34 ≤ b.head →
    let f := h.packetFrame d protocol dst mac b.window
    f.length = b.size + 34 ∧ f.drop 34 = b.window ∧ ∃ h',
      (sendPacket b protocol dst d).run h = ((h.device d).face.result, h') ∧ Presents d f [] h h'
  /-- In any case only the devices and what waits for them change. -/
  confined : Dispatch h ((sendPacket b protocol dst d).run h).2
  /-- The faults are of these sorts. -/
  faults : NetError.bufferUnderflow.kind = .overrun ∧
    NetError.bufferUnderflow.message = "net: sbuff underflow" ∧
    (NetError.packetTooLong (b.size + 20)).kind = .invalidInput ∧
    (NetError.unresolved dst).kind = .notFound

theorem run_sendPacket_cramped (hb : b.head < Ipv4.headerLength) (protocol : UInt8) (dst : Ip)
    (d : DeviceId) : (sendPacket b protocol dst d).run h = (.error .bufferUnderflow, h) := by
  have hp := b.prepend_eq_error
    (d := Ipv4.header h.config.ttl protocol (Ipv4.headerLength + b.size) (h.device d).ip dst)
    (by rwa [Ipv4.length_header])
  unfold sendPacket
  rw [act_get]
  dsimp only
  rw [hp]
  rfl

theorem run_sendPacket_overlong (hb : Ipv4.headerLength ≤ b.head)
    (hm : Ipv4.maxLength < Ipv4.headerLength + b.size) (protocol : UInt8) (dst : Ip) (d : DeviceId) :
    (sendPacket b protocol dst d).run h =
      (.error (.packetTooLong (Ipv4.headerLength + b.size)), h) := by
  obtain ⟨b', hp, -, -⟩ := b.prepend_eq_ok
    (d := Ipv4.header h.config.ttl protocol (Ipv4.headerLength + b.size) (h.device d).ip dst)
    (by rwa [Ipv4.length_header])
  unfold sendPacket
  rw [act_get]
  dsimp only
  rw [hp]
  exact congrArg (StateT.run · h) (if_pos hm)

theorem run_sendPacket_tight {mac : Mac} (hb : Ipv4.headerLength ≤ b.head) (hh : b.head < headroom)
    (hm : Ipv4.headerLength + b.size ≤ Ipv4.maxLength) (hr : h.arp.get? dst = some mac)
    (protocol : UInt8) (d : DeviceId) :
    (sendPacket b protocol dst d).run h = (.error .bufferUnderflow, h) := by
  obtain ⟨b', hb', -, hs⟩ := run_sendPacket_bind (h := h) hb hm protocol dst d
  unfold headroom at hh
  have hp := b'.prepend_eq_error (d := Ethernet.header mac (h.device d).mac Ethernet.ipv4Type)
    (by rw [Ethernet.length_header]; omega)
  rw [hs, StateT.run_bind, run_lookup hr]
  change (sendFrame b' Ethernet.ipv4Type mac d).run h = _
  unfold sendFrame
  rw [act_get, hp]
  rfl

/-- **The first fault decides what becomes of a packet**, and without one it is sent. -/
theorem sendPacket_outcome (h : Host) (b : PacketBuffer) (protocol : UInt8) (dst : Ip) (d : DeviceId) :
    PacketOutcome h b protocol dst d where
  cramped hb := run_sendPacket_cramped hb protocol dst d
  overlong hb hm := by
    rw [Nat.add_comm] at hm ⊢
    exact run_sendPacket_overlong hb hm protocol dst d
  unresolved hb hm hu := by
    rw [run_sendPacket_unresolved hb (Nat.add_comm _ _ ▸ hm) hu, run_lookup_asking hu]
    exact ⟨_, rfl, presents_noting d _ _ h⟩
  tight hb hm hr hh := run_sendPacket_tight hb hh (Nat.add_comm _ _ ▸ hm) hr protocol d
  sent {mac} hm hr hb := by
    have hs := run_sendPacket_resolved hb (Nat.add_comm _ _ ▸ hm) hr protocol d
    have hl : (h.packetFrame d protocol dst mac b.window).length = b.size + 34 := by
      rw [length_packetFrame, PacketBuffer.length_window, Nat.add_comm]
    exact ⟨hl, drop_packetFrame .., _, hs.trans (Prod.ext (result_offer d _ h) rfl),
      presents_noting d _ [] h⟩
  confined := dispatch_sendPacket b protocol dst d h
  faults := ⟨rfl, rfl, rfl, rfl⟩

end InetHost.Host
