import InetHost.Proofs.Exchange.Sending

/-!
# What a host says on a link

Several frames that a host sends one after another through a device that works, and nothing else.

* `Healthy`: a device works and goes on to do so;
* `Utters d fs h h'`: from `h` to `h'` the frames `fs` were sent through device `d`, and nothing else was
  sent;
* `InTouch`: a host can send segments to a peer; `Speaks`: it sent some and nothing else;
* **`InTouch.run_sendSegment`**: a segment is sent in one frame.
-/

namespace InetHost.Host

variable {h h₁ h₂ : Host} {d e : DeviceId} {f : Bytes} {fs fs' : List Bytes}

/-! ## Devices that go on working -/

/-- A device works and goes on to do so: it keeps frames for its hardware, or its hardware takes
them. -/
def Healthy (v : Device) : Prop := v.staging = none → ∀ o ∈ v.outcomes, o = none

theorem Healthy.works {v : Device} (hv : Healthy v) : Works v := by
  intro hs
  unfold Device.failure
  cases ho : v.outcomes with
  | nil => rfl
  | cons o os => exact hv hs o (ho ▸ List.mem_cons_self)

theorem mem_outcomesLeft {v : Device} {o : Option Refusal} (ho : o ∈ v.outcomesLeft) :
    o ∈ v.outcomes := by
  unfold Device.outcomesLeft at ho
  split at ho
  · exact ho
  · exact List.mem_of_mem_tail ho

/-! ## Frames that are sent -/

/-- **Some frames were sent through a device**, one after another, and nothing else was sent. -/
structure Utters (d : DeviceId) (fs : List Bytes) (h h' : Host) : Prop where
  config : h'.config = h.config
  arp : h'.arp = h.arp
  mac : ∀ e, (h'.device e).mac = (h.device e).mac
  ip : ∀ e, (h'.device e).ip = (h.device e).ip
  healthy : Healthy (h.device d) → Healthy (h'.device d)
  asks : ∀ e, asked e h'.journal = asked e h.journal ++ if d = e then fs else []
  /-- A device without staging has put them on the wire, … -/
  wires : (h.device d).staging = none → (h'.device d).staging = none ∧
    ∀ e, wired e h'.journal = wired e h.journal ++ if d = e then fs else []
  /-- … and on one with staging they wait behind the others. -/
  waits : ∀ {s}, (h.device d).staging = some s →
    (h'.device d).staging = some { s with frames := s.frames ++ fs } ∧
      ∀ e, wired e h'.journal = wired e h.journal

theorem utters_of_eq (hc : h₁.config = h.config) (ha : h₁.arp = h.arp) (hd : h₁.devices = h.devices)
    (hj : ∃ new, h₁.journal = new ++ h.journal ∧ ∀ e ∈ new, e.onFrame = false) :
    Utters d [] h h₁ := by
  have hd' : ∀ e, h₁.device e = h.device e := fun e => congrArg (·.getD e default) hd
  have u : KeepsFrames h h₁ := ⟨fun e => by rw [hd'], fun e => by rw [hd'], hj⟩
  refine ⟨hc, ha, fun e => by rw [hd'], fun e => by rw [hd'], fun hv => by rwa [hd'], fun e => ?_,
    fun hs => ⟨by rwa [hd'], fun e => ?_⟩, fun hs => ⟨?_, u.wired_eq⟩⟩
  · rw [u.asked_eq]
    simp
  · rw [u.wired_eq]
    simp
  · rw [hd', hs]
    simp

theorem Utters.refl (d : DeviceId) (h : Host) : Utters d [] h h :=
  utters_of_eq rfl rfl rfl ⟨[], rfl, List.forall_mem_nil _⟩

theorem Utters.trans (u : Utters d fs h h₁) (u' : Utters d fs' h₁ h₂) : Utters d (fs ++ fs') h h₂ where
  config := u'.config.trans u.config
  arp := u'.arp.trans u.arp
  mac e := (u'.mac e).trans (u.mac e)
  ip e := (u'.ip e).trans (u.ip e)
  healthy hv := u'.healthy (u.healthy hv)
  asks e := by
    rw [u'.asks, u.asks]
    split <;> simp
  wires hs := by
    obtain ⟨hs₁, hw⟩ := u.wires hs
    obtain ⟨hs₂, hw'⟩ := u'.wires hs₁
    refine ⟨hs₂, fun e => ?_⟩
    rw [hw', hw]
    split <;> simp
  waits hs := by
    obtain ⟨hs₁, hw⟩ := u.waits hs
    obtain ⟨hs₂, hw'⟩ := u'.waits hs₁
    exact ⟨by rw [hs₂, List.append_assoc], fun e => (hw' e).trans (hw e)⟩

theorem utters_record {e : Event} (he : e.onFrame = false) (h : Host) :
    Utters d [] h ((record e).run h).2 :=
  utters_of_eq rfl rfl rfl ⟨[e], rfl, fun _ hx => List.mem_singleton.mp hx ▸ he⟩

/-! ## An offer -/

theorem run_offer_eq (d : DeviceId) (f : Bytes) (h : Host) : ∃ ds ts qs j,
    ((offer d f).run h).2 = { h with devices := ds, tasks := ts, queues := qs, journal := j } := by
  cases hs : (h.device d).staging with
  | none =>
    rw [run_offer_direct hs]
    exact ⟨_, _, _, _, rfl⟩
  | some s =>
    rw [run_offer hs]
    unfold enqueue
    rw [act_get]
    split
    · exact ⟨_, _, _, _, rfl⟩
    · exact ⟨_, _, _, _, rfl⟩

/-- **A device that works sends what it is offered.** -/
theorem utters_offer (hw : Works (h.device d)) (f : Bytes) :
    ((offer d f).run h).1 = .ok () ∧ Utters d [f] h ((offer d f).run h).2 := by
  obtain ⟨r, hq⟩ := offer_eq d f h
  cases hs : (h.device d).staging with
  | none =>
    obtain ⟨hr, hf⟩ := offer_wires hs hw f
    have hd : ((offer d f).run h).2.device d = ((useHardware d).run h).2.device d := by
      rw [run_offer_direct hs]
      rfl
    have hs' : (((offer d f).run h).2.device d).staging = none := by
      rw [hd, (keepsFrames_useHardware d).staging, hs]
    refine ⟨hr, hq.config, hq.arp, hq.mac, hq.ip, fun hv _ o ho => ?_, fun e => (hf e).1,
      fun _ => ⟨hs', fun e => (hf e).2⟩, fun hn => ?_⟩
    · refine hv hs o ?_
      rw [hd] at ho
      change o ∈ ((h.devices.modify d _).getD d default).outcomes at ho
      rw [getD_modify] at ho
      split at ho
      · exact mem_outcomesLeft ho
      · exact ho
    · cases hs.symm.trans hn
  | some s =>
    obtain ⟨hs₁, hf⟩ := offer_waits hs f
    refine ⟨(offer_staged hs f).1, hq.config, hq.arp, hq.mac, hq.ip, fun _ hn => ?_,
      fun e => (hf e).1, fun hn => ?_, fun hs' => ?_⟩
    · cases hs₁.symm.trans hn
    · cases hs.symm.trans hn
    · obtain rfl := Option.some.inj (hs.symm.trans hs')
      exact ⟨hs₁, fun e => (hf e).2⟩

/-! ## Segments -/

/-- **A host can send segments** to a peer, through a device that works and goes on to do so. -/
structure InTouch (d : DeviceId) (s : Stream) (mac : Mac) (h : Host) : Prop where
  resolved : h.arp.get? s.peer.ip = some mac
  healthy : Healthy (h.device d)

/-- The frame with a segment to a peer. -/
def segmentFrame (h : Host) (d : DeviceId) (s : Stream) (mac : Mac) (t : Tcp.Header) (data : Bytes) :
    Bytes :=
  h.packetFrame d Ipv4.tcp s.peer.ip mac (Tcp.encode s t data)

variable {s : Stream} {mac : Mac}

theorem Utters.inTouch (u : Utters d fs h h₁) (i : InTouch d s mac h) : InTouch d s mac h₁ :=
  ⟨by rw [u.arp, i.resolved], u.healthy i.healthy⟩

theorem Utters.segmentFrame_eq (u : Utters d fs h h₁) (s : Stream) (mac : Mac) (t : Tcp.Header)
    (data : Bytes) : h₁.segmentFrame d s mac t data = h.segmentFrame d s mac t data := by
  unfold segmentFrame packetFrame
  rw [u.config, u.mac, u.ip]

/-- **Some segments were sent to a peer**, one after another, and nothing else was sent. -/
def Speaks (d : DeviceId) (s : Stream) (mac : Mac) (ts : List (Tcp.Header × Bytes)) (h h' : Host) :
    Prop :=
  Utters d (ts.map fun t => h.segmentFrame d s mac t.1 t.2) h h'

theorem Speaks.trans {ts ts' : List (Tcp.Header × Bytes)} (u : Speaks d s mac ts h h₁)
    (u' : Speaks d s mac ts' h₁ h₂) : Speaks d s mac (ts ++ ts') h h₂ := by
  unfold Speaks at u' ⊢
  simp only [Utters.segmentFrame_eq u] at u'
  rw [List.map_append]
  exact Utters.trans u u'

theorem speaks_record {e : Event} (he : e.onFrame = false) (h : Host) :
    Speaks d s mac [] h ((record e).run h).2 :=
  utters_record he h

/-- **A segment is sent in one frame**, and the connections stay as they are. -/
theorem InTouch.run_sendSegment (i : InTouch d s mac h) (c : Option ConnId) (t : Tcp.Header)
    {data : Bytes} (hl : Ipv4.headerLength + (Tcp.encode s t data).length ≤ Ipv4.maxLength) :
    ∃ ds ts qs j, let h' := { h with devices := ds, tasks := ts, queues := qs, journal := j }
      (sendSegment c d s t data).run h = (.ok (), h') ∧ Speaks d s mac [(t, data)] h h' := by
  obtain ⟨hr, hu⟩ := utters_offer i.healthy.works (h.segmentFrame d s mac t data)
  obtain ⟨ds, ts, qs, j, ho⟩ := run_offer_eq d (h.segmentFrame d s mac t data) h
  have hp : (sendPacket (.withRoom headroom (Tcp.encode s t data)) Ipv4.tcp s.peer.ip d).run h =
      (.ok (), { h with devices := ds, tasks := ts, queues := qs, journal := j }) :=
    (run_sendPacket ⟨i.resolved, hl⟩ Ipv4.tcp d).trans (Prod.ext hr ho)
  rw [ho] at hu
  have hs : Speaks d s mac [(t, data)] h
      { h with devices := ds, tasks := ts, queues := qs, journal := j } := hu
  refine ⟨ds, ts, qs, .emitted c d s t data true :: j, ?_, ?_⟩
  · unfold sendSegment
    rw [StateT.run_bind, hp]
    rfl
  · exact hs.trans (speaks_record (e := .emitted c d s t data true) rfl _)

end InetHost.Host
