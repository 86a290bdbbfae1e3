import InetHost.Proofs.Frame.Offers
import InetHost.Proofs.Queue.Delivery

/-!
# Frames that are sent

What a host sends when it is asked for something, as one frame that it offers to a device, and what
becomes of the frame when the device works.

* `run_askFor`, `run_tell`, `run_sendPacket`: each is the offer of one frame;
* `suffix_leads`: the journal only grows;
* `Works`, `Sent`: a device takes a frame, and what is the case when it has;
* **`sent_offer`**: a device that works sends what it is offered, and nothing else.
-/

namespace InetHost.Host

variable {h h' : Host} {d : DeviceId} {f : Bytes}

/-! ## What is offered -/

theorem run_sendFrame {b : PacketBuffer} (hb : Ethernet.headerLength ≤ b.head) (type : UInt16)
    (dst : Mac) (d : DeviceId) :
    (sendFrame b type dst d).run h =
      (offer d (Ethernet.header dst (h.device d).mac type ++ b.window)).run h := by
  have hl : (Ethernet.header dst (h.device d).mac type).length ≤ b.head := by
    rw [Ethernet.length_header]
    exact hb
  obtain ⟨b', hp, hw, -⟩ := b.prepend_eq_ok hl
  unfold sendFrame
  rw [act_get, hp, ← hw]

/-- A packet that finds room for its header and is not too long is sent to where it goes, if that is
known. -/
theorem run_sendPacket_bind {b : PacketBuffer} (hb : Ipv4.headerLength ≤ b.head)
    (hm : Ipv4.headerLength + b.size ≤ Ipv4.maxLength) (protocol : UInt8) (dst : Ip) (d : DeviceId) :
    ∃ b' : PacketBuffer, b'.head + Ipv4.headerLength = b.head ∧
      b'.window = Ipv4.header h.config.ttl protocol (Ipv4.headerLength + b.size) (h.device d).ip dst ++
        b.window ∧
      (sendPacket b protocol dst d).run h =
        (lookup d dst >>= fun r => match r with
          | none => return .error (.unresolved dst)
          | some mac => sendFrame b' Ethernet.ipv4Type mac d).run h := by
  obtain ⟨b', hp, hw, hh⟩ := b.prepend_eq_ok
    (d := Ipv4.header h.config.ttl protocol (Ipv4.headerLength + b.size) (h.device d).ip dst)
    (by rwa [Ipv4.length_header])
  rw [Ipv4.length_header] at hh
  refine ⟨b', hh, hw, ?_⟩
  unfold sendPacket
  rw [act_get]
  dsimp only
  rw [hp]
  exact congrArg (StateT.run · h) (if_neg (Nat.not_lt.mpr hm))

/-- A question is one frame to everybody, … -/
theorem run_askFor (h : Host) (d : DeviceId) (ip : Ip) :
    (askFor d ip).run h = (offer d (h.arpFrame d .broadcast Arp.request .zero ip)).run h := by
  unfold askFor
  rw [act_get]
  dsimp only
  rw [run_sendFrame (by simp), PacketBuffer.window_withRoom]
  rfl

/-- … an answer is one to whoever asked, if that is anybody, … -/
theorem run_tell (h : Host) (d : DeviceId) (mac : Mac) (ip : Ip) :
    (tell d mac ip).run h =
      (offer d (h.arpFrame d (if mac = .zero then .broadcast else mac) Arp.reply mac ip)).run h := by
  unfold tell
  rw [act_get]
  dsimp only
  rw [run_sendFrame (by simp), PacketBuffer.window_withRoom]
  rfl

/-- … and a packet is one to where it goes, if that is known and there is room for both headers. -/
theorem run_sendPacket_resolved {b : PacketBuffer} {dst : Ip} {mac : Mac} (hb : headroom ≤ b.head)
    (hm : Ipv4.headerLength + b.size ≤ Ipv4.maxLength) (hr : h.arp.get? dst = some mac)
    (protocol : UInt8) (d : DeviceId) : (sendPacket b protocol dst d).run h =
      (offer d (h.packetFrame d protocol dst mac b.window)).run h := by
  unfold headroom at hb
  obtain ⟨b', hh, hw, hs⟩ := run_sendPacket_bind (h := h) (by omega) hm protocol dst d
  rw [hs, StateT.run_bind, run_lookup hr]
  change (sendFrame b' Ethernet.ipv4Type mac d).run h = _
  rw [run_sendFrame (by omega), hw, ← b.length_window]
  rfl

/-- What leaves the room that both headers take is routed so. -/
theorem run_sendPacket {dst : Ip} {mac : Mac} {m : Bytes} (hr : h.Routed dst mac m)
    (protocol : UInt8) (d : DeviceId) :
    (sendPacket (.withRoom headroom m) protocol dst d).run h =
      (offer d (h.packetFrame d protocol dst mac m)).run h := by
  have hm := hr.short
  rw [← PacketBuffer.window_withRoom headroom m, PacketBuffer.length_window] at hm
  rw [run_sendPacket_resolved (Nat.le_refl _) hm hr.resolved, PacketBuffer.window_withRoom]

/-- A packet whose way is not known is not sent. The address is asked for in its place. -/
theorem run_sendPacket_unresolved {b : PacketBuffer} {dst : Ip} (hb : Ipv4.headerLength ≤ b.head)
    (hm : Ipv4.headerLength + b.size ≤ Ipv4.maxLength) (hu : h.arp.get? dst = none)
    (protocol : UInt8) (d : DeviceId) : (sendPacket b protocol dst d).run h =
      (.error (.unresolved dst), ((lookup d dst).run h).2) := by
  obtain ⟨b', -, -, hs⟩ := run_sendPacket_bind (h := h) hb hm protocol dst d
  have hn := lookup_eq_none (d := d) hu
  rw [hs, StateT.run_bind]
  generalize (lookup d dst).run h = r at hn ⊢
  obtain ⟨r, h'⟩ := r
  obtain rfl : r = none := hn
  rfl

theorem result_sendPacket_unresolved {dst : Ip} {m : Bytes} (hu : h.arp.get? dst = none)
    (hm : Ipv4.headerLength + m.length ≤ Ipv4.maxLength) (protocol : UInt8) (d : DeviceId) :
    ((sendPacket (.withRoom headroom m) protocol dst d).run h).1 = .error (.unresolved dst) := by
  rw [← PacketBuffer.window_withRoom headroom m, PacketBuffer.length_window] at hm
  rw [run_sendPacket_unresolved (by simp [headroom]) hm hu]

/-! ## What stays -/

theorem KeepsLink.suffix (q : KeepsLink h h') : h.journal <:+ h'.journal := by
  obtain ⟨new, hj, -⟩ := q.journal
  exact ⟨new, hj.symm⟩

theorem suffix_chore {X : Host → DeviceId → Bytes → Prop} (hc : Chore X h h') :
    h.journal <:+ h'.journal := by
  rcases chore_cases hc with hc | ⟨d, f, -, rfl⟩ | ⟨d, rfl⟩ | ⟨ip, mac, rfl⟩
  · exact hc.suffix
  · obtain ⟨r, hr⟩ := offer_eq d f h
    exact (List.suffix_cons _ _).trans hr.suffix
  · rcases register_eq d h with ⟨h', hc, he | ⟨-, he⟩⟩ <;>
    · rw [he]
      exact hc.suffix
  · rcases store_eq ip mac h with ⟨t, -, he⟩ | hc
    · rw [he]
      exact List.suffix_cons _ _
    · exact (List.suffix_cons _ _).trans hc.suffix

theorem covers_suffix : Covers fun _ h h' => h.journal <:+ h'.journal where
  toServes := by
    refine serves_of_deed ⟨fun _ => List.suffix_rfl, fun _ => List.suffix_rfl, List.IsSuffix.trans⟩ ?_
    intro h h' hd
    cases hd with
    | chore hc => exact suffix_chore hc
    | enter e he => exact List.suffix_cons e h.journal
    | connections => exact List.suffix_rfl
  polling hc := (keepsLinkAndBoard_polling hc).suffix

/-- **The journal only grows.** -/
theorem suffix_leads {e : Bool} (hl : Leads e h h') : h.journal <:+ h'.journal :=
  covers_suffix.leads hl

theorem Visited.stored (hv : Visited h) : Stored h := by
  obtain ⟨s, h₀, e, hs, hl⟩ := hv
  exact (stored_start hs).shifts (shifts_leads hl)

theorem inOrder_prefix {α : Type} (g : Event → Option α) {j j' : List Event} (hj : j <:+ j') :
    inOrder g j <+: inOrder g j' := by
  obtain ⟨new, rfl⟩ := hj
  exact ⟨inOrder g new, (inOrder_both g new _).symm⟩

/-! ## Devices that work -/

/-- A device works: it keeps frames for its hardware, or its hardware takes them. -/
def Works (v : Device) : Prop := v.staging = none → v.failure = none

/-- **A device was asked to send one frame**, and no device anything else. -/
structure Sent (d : DeviceId) (f : Bytes) (h h' : Host) : Prop where
  asks : ∀ e, asked e h'.journal = asked e h.journal ++ if d = e then [f] else []
  /-- A device without staging has put the frame on the wire, … -/
  wires : (h.device d).staging = none →
    ∀ e, wired e h'.journal = wired e h.journal ++ if d = e then [f] else []
  /-- … and on one with staging it waits behind the others, … -/
  waits : ∀ {s}, (h.device d).staging = some s →
    (h'.device d).staging = some { s with frames := s.frames ++ [f] } ∧
      ∀ e, wired e h'.journal = wired e h.journal
  /-- … and has been handed over in its turn when nothing waits any more. -/
  hands : ∀ {e h'' s}, Leads e h' h'' → (h''.device d).staging = some s → s.frames = [] →
    ((handed d h''.journal).map Prod.fst)[(asked d h.journal).length]? = some f

/-- What was asked of a device with staging has been handed over when nothing waits any more. -/
theorem Stored.hands {e : Bool} {h'' : Host} {s : Staging} (v : Stored h')
    (ha : asked d h'.journal = asked d h.journal ++ [f]) (hl : Leads e h' h'')
    (hs : (h''.device d).staging = some s) (hf : s.frames = []) :
    ((handed d h''.journal).map Prod.fst)[(asked d h.journal).length]? = some f := by
  have hb := (v.shifts (shifts_leads hl)).frames hs
  obtain ⟨more, hm⟩ := inOrder_prefix (Event.askedOf d) (suffix_leads hl)
  change asked d h'.journal ++ more = asked d h''.journal at hm
  rw [hf, List.append_nil, ← hm, ha] at hb
  simp [hb]

theorem offer_wires (hs : (h.device d).staging = none) (hw : Works (h.device d)) (f : Bytes) :
    ((offer d f).run h).1 = .ok () ∧ ∀ e,
      asked e ((offer d f).run h).2.journal = asked e h.journal ++ (if d = e then [f] else []) ∧
      wired e ((offer d f).run h).2.journal = wired e h.journal ++ if d = e then [f] else [] := by
  have hr := run_offer_direct hs f
  rw [hw hs] at hr
  have hj : ((offer d f).run h).2.journal =
      [.wire d f, .transmitted d f none, .offered d f none] ++ h.journal := by
    rw [hr]
    rfl
  refine ⟨by rw [hr], fun e => ?_⟩
  rw [hj]
  by_cases he : d = e <;> simp [Event.askedOf, Event.wiredBy, he]

theorem offer_waits {s : Staging} (hs : (h.device d).staging = some s) (f : Bytes) :
    (((offer d f).run h).2.device d).staging = some { s with frames := s.frames ++ [f] } ∧ ∀ e,
      asked e ((offer d f).run h).2.journal = asked e h.journal ++ (if d = e then [f] else []) ∧
      wired e ((offer d f).run h).2.journal = wired e h.journal := by
  have hu : KeepsFrames ((stage d f).run h).2 ((offer d f).run h).2 := by
    rw [run_offer hs]
    exact keepsFrames_enqueue s.queue s.task
  have hj : ((stage d f).run h).2.journal = .offered d f none :: h.journal := rfl
  refine ⟨?_, fun e => ⟨?_, ?_⟩⟩
  · rw [hu.staging]
    refine (staging_modifyStaged d (· ++ [f]) d).trans ?_
    rw [if_pos rfl]
    change (h.device d).staging.map _ = _
    rw [hs]
    rfl
  · rw [hu.asked_eq, hj]
    by_cases he : d = e <;> simp [Event.askedOf, he]
  · rw [hu.wired_eq]
    simp [hj, Event.wiredBy]

/-- **A device that works sends what it is offered**, and nothing else is sent. -/
theorem sent_offer (v : Stored h) (hw : Works (h.device d)) (f : Bytes) :
    ((offer d f).run h).1 = .ok () ∧ Sent d f h ((offer d f).run h).2 := by
  have v' : Stored ((offer d f).run h).2 := v.shift (.move (.offer d f))
  cases hs : (h.device d).staging with
  | none =>
    obtain ⟨hr, hf⟩ := offer_wires hs hw f
    refine ⟨hr, fun e => (hf e).1, fun _ e => (hf e).2, fun hs' => ?_, fun hl => ?_⟩
    · cases hs.symm.trans hs'
    · exact v'.hands (by simp [(hf d).1]) hl
  | some s =>
    obtain ⟨hw', hf⟩ := offer_waits hs f
    refine ⟨(offer_staged hs f).1, fun e => (hf e).1, fun hn => ?_, fun hs' => ?_, fun hl => ?_⟩
    · cases hs.symm.trans hn
    · obtain rfl := Option.some.inj (hs.symm.trans hs')
      exact ⟨hw', fun e => (hf e).2⟩
    · exact v'.hands (by simp [(hf d).1]) hl

theorem arp_offer (d : DeviceId) (f : Bytes) (h : Host) : ((offer d f).run h).2.arp = h.arp := by
  obtain ⟨r, hr⟩ := offer_eq d f h
  exact hr.arp

end InetHost.Host
