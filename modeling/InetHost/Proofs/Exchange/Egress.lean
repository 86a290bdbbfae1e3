import InetHost.Proofs.Exchange.PacketOutcome
import InetHost.Proofs.Exchange.Ownership
import InetHost.Proofs.Stream.Admission
import InetHost.Proofs.Stream.Standing

/-!
# Through which device

Several devices may share an address. What goes out from an address as a datagram goes through its owner.
What goes out on a connection goes through the device on which the connection's first segment came in, on
whichever device later ones come in.

* `Through d m sent j`: all that is told in `j` is told of the content `m`, which was to go through device `d`;
  **`through_sendPacket`**: so it is when a packet is sent;
* `Via`, **`Visited.via`**: the segments of a host went out so;
* `Life.follows`, `Visited.emitted`: those of a connection went through its device;
* `Began`, **`Visited.began`**: where that device comes from;
* **`Visited.egress`**: the devices through which a host sends.
-/

namespace InetHost

open Tcp Switchboard

/-! ## What goes through a device -/

/-- **All that is told in `j` is told of the content of a packet** which was to go through a device. -/
structure Through (d : DeviceId) (m : Bytes) (sent : Bool) (j : List Event) : Prop where
  /-- Frames were offered, and nothing else happened. -/
  dispatch : ∀ e ∈ j, e.isDispatch = true
  /-- No other device was asked to send anything. -/
  only : ∀ e ≠ d, asked e j = []
  /-- Where the packet was sent, the device was asked to send one frame, which ends with the content. -/
  frame : sent = true → ∃ f, asked d j = [f] ∧ f.drop 34 = m

/-- A segment that was to be sent went through its device just before that. -/
def Via (older : List Event) : Event → Prop
  | .emitted _ d s t data sent =>
    ∃ new rest, older = new ++ rest ∧ Through d (encode s t data) sent new
  | _ => True

theorem through_nil (d : DeviceId) (m : Bytes) : Through d m false [] :=
  ⟨List.forall_mem_nil _, fun _ _ => rfl, nofun⟩

/-- If an event is of a segment of the connection, then it was to go through the device, between the ends. -/
def Event.Follows (c : ConnId) (d : DeviceId) (s : Stream) : Event → Prop
  | .emitted o d' s' _ _ _ => o = some c → d' = d ∧ s' = s
  | _ => True

theorem follows_entries (c : ConnId) (s : Stream) (d : DeviceId) (k : Control) (r : Control × Outcome)
    (b : Bool) : ∀ e ∈ entries c s d k r b, e.Follows c d s := by
  refine List.forall_mem_append.mpr ⟨fun e he => ?_, fun e he => ?_⟩
  · obtain ⟨_, -, rfl⟩ := List.mem_map.mp he
    trivial
  · rcases mem_answers he with ⟨t, rfl⟩ | rfl | ⟨-, rfl⟩
    · exact fun _ => ⟨rfl, rfl⟩
    · trivial
    · trivial

/-- **The segments of a connection all go through one device**, between the same two ends. -/
theorem Life.follows {c : ConnId} {s : Stream} {d : DeviceId} {k : Control} {j : List Event}
    (hl : Life c s d k j) : ∀ e ∈ j, e.Follows c d s := by
  have hcons : ∀ {t data b j}, (∀ e ∈ j, Event.Follows c d s e) →
      ∀ e ∈ .emitted (some c) d s t data b :: j, Event.Follows c d s e := fun ih =>
    List.forall_mem_cons.mpr ⟨fun _ => ⟨rfl, rfl⟩, ih⟩
  induction hl with
  | opened cap b hj =>
    refine hcons (List.forall_mem_cons.mpr ⟨trivial, fun e he => ?_⟩)
    cases e with
    | emitted => exact fun ho => absurd ho (hj _ he)
    | _ => trivial
  | arrived _ _ _ ih => exact List.forall_mem_cons.mpr ⟨trivial, ih⟩
  | took _ b ih => exact List.forall_mem_append.mpr ⟨follows_entries c s d _ _ b, ih⟩
  | finished _ fin b ih => exact List.forall_mem_append.mpr ⟨follows_entries c s d _ _ b, ih⟩
  | failed _ _ _ _ ih => exact hcons ih
  | sent _ _ _ ih => exact hcons ih
  | closed _ _ ih => exact List.forall_mem_cons.mpr ⟨trivial, hcons ih⟩

namespace Host

variable {h h₁ h' : Host} {d : DeviceId} {c : ConnId} {s : Stream} {m : Bytes} {protocol : UInt8} {dst : Ip}

/-! ### Packets -/

/-- No device but one was asked to send anything. -/
def OnlyAsks (d : DeviceId) (h h' : Host) : Prop := ∀ e ≠ d, asked e h'.journal = asked e h.journal

instance : Std.Refl (OnlyAsks d) := ⟨fun _ _ _ => rfl⟩

instance : IsTrans Host (OnlyAsks d) :=
  ⟨fun _ _ _ h₁₂ h₂₃ e he => (h₂₃ e he).trans (h₁₂ e he)⟩

theorem onlyAsks_offer (d : DeviceId) (f : Bytes) (h : Host) : Does (OnlyAsks d) h (offer d f) := by
  intro e he
  rw [asked_offer, if_neg he.symm, List.append_nil]

theorem onlyAsks_sendPacket (m : Bytes) (protocol : UInt8) (dst : Ip) (d : DeviceId) (h : Host) :
    Does (OnlyAsks d) h (sendPacket (.withRoom headroom m) protocol dst d) := by
  have hn : ∀ n h, Does (OnlyAsks d) h (note n) := fun n h e _ => rfl
  exact does_sendPacket (does_lookup (does_askFor (onlyAsks_offer d _ h)) fun _ => hn _)
    fun _ _ => onlyAsks_offer d _ h

theorem asked_sendPacket (m : Bytes) (protocol : UInt8) (dst : Ip) (d : DeviceId) (h : Host)
    (hs : ((sendPacket (.withRoom headroom m) protocol dst d).run h).1.toBool = true) :
    ∃ f, asked d ((sendPacket (.withRoom headroom m) protocol dst d).run h).2.journal =
      asked d h.journal ++ [f] ∧ f.drop 34 = m := by
  have hz : (PacketBuffer.withRoom headroom m).size = m.length := by
    rw [← PacketBuffer.length_window, PacketBuffer.window_withRoom]
  by_cases hm : Ipv4.headerLength + m.length ≤ Ipv4.maxLength
  · cases hr : h.arp.get? dst with
    | none =>
      rw [result_sendPacket_unresolved hr hm] at hs
      cases hs
    | some mac =>
      rw [run_sendPacket ⟨hr, hm⟩]
      exact ⟨_, by rw [asked_offer, if_pos rfl], drop_packetFrame ..⟩
  · rw [run_sendPacket_overlong (by simp [headroom]) (by omega)] at hs
    cases hs

/-- **A packet goes through its device**, or nothing does but a question for its way. -/
theorem through_sendPacket (m : Bytes) (protocol : UInt8) (dst : Ip) (d : DeviceId) (h : Host) :
    let r := (sendPacket (.withRoom headroom m) protocol dst d).run h
    ∃ new, r.2.journal = new ++ h.journal ∧ Through d m r.1.toBool new := by
  have hd := dispatch_sendPacket (.withRoom headroom m) protocol dst d h
  have ho := onlyAsks_sendPacket m protocol dst d h
  have hs := asked_sendPacket m protocol dst d h
  unfold Does at hd ho
  generalize (sendPacket (.withRoom headroom m) protocol dst d).run h = r at hd ho hs ⊢
  obtain ⟨ds, ts, qs, new, hr, hn, -⟩ := hd
  have hj : r.2.journal = new ++ h.journal := by rw [hr]
  have ha : ∀ e, asked e r.2.journal = asked e h.journal ++ asked e new := fun e => by
    rw [hj]
    exact inOrder_both _ new _
  refine ⟨new, hj, hn, fun e he => ?_, fun hr => ?_⟩
  · have he := ho e he
    rw [ha] at he
    simpa using he
  · obtain ⟨f, hf, hm⟩ := hs hr
    rw [ha] at hf
    exact ⟨f, List.append_cancel_left hf, hm⟩

/-- **A datagram goes through the owner** of the address from which it comes. -/
theorem through_sendDatagram {f : Flow} (ho : h.owner? f.src.ip = some d) (data : Bytes) :
    let r := (sendDatagram f data).run h
    ∃ new, r.2.journal = new ++ h.journal ∧ Through d (Udp.encode f data) r.1.toBool new := by
  unfold sendDatagram
  rw [act_get, ho]
  dsimp only
  split
  · exact ⟨[], rfl, through_nil d _⟩
  · exact through_sendPacket _ _ _ d h

/-! ## Segments -/

theorem Stint.via (ht : Stint h h') (hv : Justified Via h.journal) : Justified Via h'.journal := by
  cases ht with
  | plain hp =>
    obtain ⟨new, hj, hn⟩ := hp.journal
    rw [hj]
    refine hv.append fun e he older => ?_
    have he := hn e he
    cases e <;> trivial
  | segment c d s t data =>
    have hs := through_sendPacket (encode s t data) Ipv4.tcp s.peer.ip d h
    unfold sendSegment
    rw [StateT.run_bind]
    dsimp only at hs
    generalize (sendPacket _ Ipv4.tcp s.peer.ip d).run h = r at hs ⊢
    obtain ⟨new, hj, hs⟩ := hs
    have hr : Justified Via r.2.journal := by
      rw [hj]
      refine hv.append fun e he older => ?_
      have he := hs.dispatch e he
      cases e <;> trivial
    exact hr.cons ⟨new, h.journal, hj, hs⟩

theorem via_register (d : DeviceId) (h : Host) (hv : Justified Via h.journal) :
    Justified Via ((register d).run h).2.journal := by
  rcases register_cases d h with ⟨-, hr⟩ | ⟨-, hr⟩
  · rw [hr]
    exact hv.cons trivial
  · rw [hr]
    exact (hv.cons (e := .presented d) trivial).cons trivial

/-- **Every segment went through its device.** -/
theorem Visited.via (hv : Visited h) : Justified Via h.journal := by
  obtain ⟨s, h₀, e, hs, hl⟩ := hv
  refine preserved_leads (P := fun h => Justified Via h.journal) Stint.via via_register hl ?_
  rw [(fresh_start hs).journal]
  exact .nil

theorem Visited.emitted (hv : Visited h) {t : Header} {data : Bytes} {b : Bool}
    (hm : .emitted (some c) d s t data b ∈ h.journal) :
    c < h.connections.length ∧ d = (h.connection c).device ∧ s = (h.connection c).stream := by
  have hc := hv.lt_of_about hm rfl
  exact ⟨hc, (hv.life hc).follows _ (List.mem_filter.mpr ⟨hm, concerns_of_about rfl⟩) rfl⟩

/-! ## How connections begin -/

/-- **A connection began with a SYN that came in on a device.** -/
inductive Began (c : ConnId) (d : DeviceId) (s : Stream) : List Event → Prop
  /-- The segment `b` came in at the host `h₁`, which had nothing between its ends. When it had been received
  the host was `h₃`, and it had opened the connection. -/
  | syn {app : Application} {b : Bytes} {src : Ip} {g : Segment} {a : Nat} {h₁ h₂ h₃ : Host}
    {j : List Event} (hg : g.Reads b) (hk : Knocks h₁ s g) (ha : g.flags.has .ack = false)
    (hs : s = ⟨⟨(h₁.device d).ip, g.dstPort⟩, ⟨src, g.srcPort⟩⟩)
    (hr : (receiveSegment app d b src).run h₁ = (some (), h₃))
    (h₁₂ : .arrived s g :: h₁.journal <:+ h₂.journal) (hl : h₁.connections.length ≤ h₂.connections.length)
    (hc : h₂.connections.length = c) (ho : Opens s d a g.seq h₂ h₃) (hj : h₃.journal <:+ j) :
    Began c d s j

/-- Every connection that is new began so. -/
structure Starts (h h' : Host) : Prop where
  journal : h.journal <:+ h'.journal
  length : h.connections.length ≤ h'.connections.length
  began : ∀ c, h.connections.length ≤ c → c < h'.connections.length → ∃ d s, Began c d s h'.journal

theorem Began.later {j j' : List Event} (hb : Began c d s j) (hj : j <:+ j') : Began c d s j' := by
  obtain ⟨hg, hk, ha, hs, hr, h₁₂, hl, hc, ho, hj₃⟩ := hb
  exact .syn hg hk ha hs hr h₁₂ hl hc ho (hj₃.trans hj)

theorem starts_of_length (hj : h.journal <:+ h'.journal)
    (hl : h'.connections.length = h.connections.length) : Starts h h' :=
  ⟨hj, Nat.le_of_eq hl.symm, fun c h₁ h₂ => absurd h₂ (by omega)⟩

theorem starts_of_board (hj : h.journal <:+ h'.journal)
    (hl : h'.board.lines.length = h.board.lines.length) : Starts h h' := by
  rw [length_lines_board, length_lines_board] at hl
  exact starts_of_length hj hl

theorem Starts.trans (h₁₂ : Starts h h₁) (h₂₃ : Starts h₁ h') : Starts h h' where
  journal := h₁₂.journal.trans h₂₃.journal
  length := Nat.le_trans h₁₂.length h₂₃.length
  began c hc hc' := by
    rcases Nat.lt_or_ge c h₁.connections.length with hc₁ | hc₁
    · obtain ⟨d, s, hb⟩ := h₁₂.began c hc hc₁
      exact ⟨d, s, hb.later h₂₃.journal⟩
    · exact h₂₃.began c hc₁ hc'

theorem Apart.starts (ha : Apart h h') : Starts h h' := by
  obtain ⟨new, hj, -⟩ := ha.journal
  exact starts_of_length ⟨new, hj.symm⟩ ha.length

section Application

variable {app : Application} (ha : ∀ k h, Within (fun _ => Starts) h (app k))

include ha

theorem starts_call {k : Call} {r : Option Unit} (hk : (app k).run h = (r, h')) : Starts h h' := by
  have hw := ha k h
  unfold Within at hw
  rw [hk] at hw
  exact hw

/-- Where no connection is opened, those that are new began with segments to the application. -/
theorem Course.starts {ls : List Leg} {e : Bool} (hc : Course app ls e h h')
    (hn : ∀ s d a isn, .opens s d a isn ∉ ls) : Starts h h' := by
  have ht : ∀ {l : Leg} {ls : List Leg}, (∀ s d a isn, .opens s d a isn ∉ l :: ls) →
      ∀ s d a isn, .opens s d a isn ∉ ls := fun hn s d a isn hm => hn s d a isn (List.mem_cons_of_mem _ hm)
  induction hc with
  | done h => exact starts_of_length List.suffix_rfl rfl
  | apart ha' _ ih => exact ha'.starts.trans (ih (ht hn))
  | call hk _ ih => exact (starts_call ha hk).trans (ih (ht hn))
  | hangs hk => exact starts_call ha hk
  | opens => exact absurd List.mem_cons_self (hn _ _ _ _)
  | refuses hp _ ih =>
    refine Starts.trans ?_ (ih (ht hn))
    obtain ⟨ds, ts, qs, new, rfl, -⟩ := hp
    exact starts_of_length ⟨new, rfl⟩ rfl

omit ha in
/-- A SYN that is taken is put to the listener, and then a connection is opened for it. -/
theorem run_acceptStream_taken {g : Segment} {a : Nat} (ht : h.taker? s g = some a) :
    (∃ h₂, (app (.accept a s)).run h = (none, h₂) ∧ (acceptStream app d s g).run h = (none, h₂)) ∨
      ∃ h₂ h₃, (app (.accept a s)).run h = (some (), h₂) ∧ Opens s d a g.seq h₂ h₃ ∧
        (acceptStream app d s g).run h = (some (), h₃) := by
  have hc : Within (Course app [.call (.accept a s), .opens s d a g.seq]) h (acceptStream app d s g) :=
    course_acceptStream ht
  unfold Within at hc
  generalize (acceptStream app d s g).run h = r at hc ⊢
  obtain ⟨r, h₃⟩ := r
  generalize he : r.isSome = e at hc
  cases hc with
  | hangs hx =>
    obtain rfl := Option.isNone_iff_eq_none.mp (Option.isSome_eq_false_iff.mp he)
    exact .inl ⟨h₃, hx, rfl⟩
  | call hx hc =>
    cases hc with
    | opens ho hc =>
      cases hc
      obtain ⟨_, rfl⟩ := Option.isSome_iff_exists.mp he
      exact .inr ⟨_, h₃, hx, ho, rfl⟩

omit ha in
theorem Opens.length {a : Nat} {isn : SeqNum} (ho : Opens s d a isn h h') :
    h'.connections.length = h.connections.length + 1 := by
  rw [ho.connections, List.length_append]
  rfl

omit ha in
theorem Opens.suffix {a : Nat} {isn : SeqNum} (ho : Opens s d a isn h h') : h.journal <:+ h'.journal := by
  obtain ⟨new, hj, -⟩ := ho.journal
  exact ⟨new, hj.symm⟩

/-- A SYN that is accepted begins one connection, after all those that the listener makes begin. -/
theorem starts_accepted {b : Bytes} {src : Ip} {g : Segment} {a : Nat} (hg : g.Reads b)
    (hs : s = ⟨⟨(h.device d).ip, g.dstPort⟩, ⟨src, g.srcPort⟩⟩) (hk : Knocks h s g)
    (ht : h.taker? s g = some a) : Within (fun _ => Starts) h (receiveSegment app d b src) := by
  have hw : h.Wanted s g := (wanted_iff hk.unknown).mpr (by rw [hk.syn, hk.rst]; rfl)
  have hrun := run_receiveSegment hg hs hw app
  rw [hk.unknown] at hrun
  have h₁ : Starts h ((record (.arrived s g)).run h).2 := starts_of_length (List.suffix_cons _ _) rfl
  have ht' : ((record (.arrived s g)).run h).2.taker? s g = some a := ht
  unfold Within
  rcases run_acceptStream_taken ht' with ⟨h₂, hx, hr⟩ | ⟨h₂, h₃, hx, ho, hr⟩
  · rw [hrun.trans hr]
    exact h₁.trans (starts_call ha hx)
  · have hr := hrun.trans hr
    have h₁₂ := starts_call ha hx
    rw [hr]
    refine (h₁.trans h₁₂).trans ⟨ho.suffix, by rw [ho.length]; exact Nat.le_succ _, fun c hc hc' => ?_⟩
    rw [ho.length] at hc'
    exact ⟨d, s, .syn hg hk (taker?_eq_some.mp ht).1 hs hr h₁₂.journal (h₁.trans h₁₂).length
      (Nat.le_antisymm hc (Nat.le_of_lt_succ hc')) ho List.suffix_rfl⟩

theorem starts_receiveSegment (d : DeviceId) (b : Bytes) (src : Ip) (h : Host) :
    Within (fun _ => Starts) h (receiveSegment app d b src) := by
  cases hd : Segment.decode b with
  | error f =>
    unfold receiveSegment
    rw [hd]
    exact starts_of_length (List.suffix_cons _ _) rfl
  | ok g =>
    have hg := Segment.decode_eq_ok.mp hd
    generalize hs : (⟨⟨(h.device d).ip, g.dstPort⟩, ⟨src, g.srcPort⟩⟩ : Stream) = s
    by_cases ho : ∃ a, Knocks h s g ∧ h.taker? s g = some a
    · obtain ⟨a, hk, ht⟩ := ho
      exact starts_accepted ha hg hs.symm hk ht
    · have hc := course_receiveSegment hg hs.symm app
      exact hc.starts ha fun s' d' a isn hm => ho ⟨a, (opens_mem_legs.mp hm).1⟩

end Application

theorem covers_starts : Covers fun _ => Starts where
  refl _ := starts_of_length List.suffix_rfl rfl
  cut _ := starts_of_length List.suffix_rfl rfl
  trans := Starts.trans
  chore hc := starts_of_board (suffix_chore hc) (by rw [sameBoard_chore hc])
  call {e} h _ := starts_of_length (List.suffix_cons e h.journal) rfl
  receive _ d b src h ha := starts_receiveSegment ha d b src h
  send s data h := by
    refine starts_of_board (covers_suffix.send s data h) ?_
    rcases board_sendData s data h with hb | ⟨c, b, -, -, hb⟩
    · rw [hb]
    · rw [hb]
      exact (acts_advance ..).length
  close s h := by
    refine starts_of_board (covers_suffix.close s h) ?_
    rcases board_close s h with hb | ⟨c, t, b, -, -, hb⟩
    · rw [hb]
    · rw [hb]
      exact (acts_advance ..).length
  polling hp := starts_of_board (covers_suffix.polling hp) (by rw [(keepsLinkAndBoard_polling hp).board])

theorem mem_of_emissions {x : Emission} {j : List Event} (hx : x ∈ emissions j) :
    ∃ b, .emitted x.conn x.device x.stream x.header x.data b ∈ j := by
  obtain ⟨e, he, hx⟩ := List.mem_filterMap.mp (List.mem_reverse.mp hx)
  cases e with
  | emitted =>
    cases hx
    exact ⟨_, he⟩
  | _ => cases hx

/-- **Every connection began with a SYN on its device.** -/
theorem Visited.began (hv : Visited h) (hc : c < h.connections.length) :
    Began c (h.connection c).device (h.connection c).stream h.journal := by
  have hb : ∃ d s, Began c d s h.journal := by
    obtain ⟨s, h₀, e, hs, hl⟩ := hv
    refine (covers_starts.leads hl).began c ?_ hc
    rw [(fresh_start hs).connections]
    exact Nat.zero_le c
  obtain ⟨d, s, hb⟩ := hb
  obtain ⟨hg, hk, ha, hs, hr, h₁₂, hl, hc', ho, hj⟩ := hb
  -- the answer to the SYN tells the device
  obtain ⟨new, hn, -, hx⟩ := ho.journal
  obtain ⟨b, hm⟩ := mem_of_emissions (hx ▸ List.mem_singleton.mpr rfl)
  have hm := hj.mem (hn ▸ List.mem_append_left _ hm)
  rw [hc'] at hm
  obtain ⟨-, hd, hs'⟩ := hv.emitted hm
  rw [← hd, ← hs']
  exact .syn hg hk ha hs hr h₁₂ hl hc' ho hj

/-! ## Every host -/

/-- **The devices through which a host sends**, where several may share an address. -/
structure Egress (h : Host) : Prop where
  /-- An address belongs to the first device with it that was ever presented. -/
  first : ∀ ip, h.owner? ip = (presentations h.journal).find? fun d => (h.device d).ip = ip
  /-- That it has an owner is reported once, … -/
  told : ∀ ip, (registrations h.journal).count ip = if (h.owner? ip).isSome then 1 else 0
  /-- … and it keeps the owner, whatever happens. -/
  stays : ∀ {e h' ip d}, Leads e h h' → h.owner? ip = some d → h'.owner? ip = some d
  /-- An operation presents its device: one that registers or announces it, and one that brings a packet on
  it, whatever the packet is. Nobody else is presented, but by operations inside and frames that were
  deferred. -/
  presented : ∀ inner fuel x op,
    Since (Elsewhere inner) (h.presenting (op.presents x)) h (perform inner fuel x op)
  /-- Who is presented comes after all that were. -/
  entered : ∀ d, presentations (h.presenting (some d)).journal = presentations h.journal ++ [d]
  /-- A datagram goes through the owner of the address from which it comes and through no other device, … -/
  datagram : ∀ {f d}, h.owner? f.src.ip = some d → ∀ data, let r := (sendDatagram f data).run h
    ∃ new, r.2.journal = new ++ h.journal ∧ Through d (Udp.encode f data) r.1.toBool new
  /-- … and nowhere if the address has no owner. -/
  unowned : ∀ {f}, h.owner? f.src.ip = none → ∀ data,
    (sendDatagram f data).run h = (.error (.noDevice f.src.ip), h)
  /-- Every segment of a connection goes through the connection's device and through no other, … -/
  segment : ∀ {newer older c d s t data sent},
    h.journal = newer ++ .emitted (some c) d s t data sent :: older →
      c < h.connections.length ∧ d = (h.connection c).device ∧ s = (h.connection c).stream ∧
        ∃ new rest, older = new ++ rest ∧ Through d (encode s t data) sent new
  /-- … on which the SYN came in that opened the connection. -/
  began : ∀ {c}, c < h.connections.length →
    Began c (h.connection c).device (h.connection c).stream h.journal
  /-- The address of this device is the connection's own, … -/
  located : ∀ {c}, c < h.connections.length →
    (h.device (h.connection c).device).ip = (h.connection c).stream.here.ip
  /-- … and nothing of this changes. -/
  fixed : ∀ {e h' c}, Leads e h h' → c < h.connections.length →
    (h'.connection c).device = (h.connection c).device ∧
      (h'.connection c).stream = (h.connection c).stream ∧ ∀ d, (h'.device d).ip = (h.device d).ip

/-- **Datagrams leave through the owner of their source address**, segments through the device on which their
connection was opened. -/
theorem Visited.egress (hv : Visited h) : Egress h where
  first := hv.enrolled.first
  told := hv.enrolled.count
  stays := owner?_leads
  presented inner fuel x op := elsewhere_perform inner fuel x op h
  entered d := presentations_register d h
  datagram ho data := through_sendDatagram ho data
  unowned ho data := by
    unfold sendDatagram
    rw [act_get, ho]
    rfl
  segment {newer older c d s t data sent} hj := by
    have hm : .emitted (some c) d s t data sent ∈ h.journal :=
      hj ▸ List.mem_append_right _ List.mem_cons_self
    obtain ⟨hc, hd, hs⟩ := hv.emitted hm
    exact ⟨hc, hd, hs, hv.via.at hj⟩
  began := hv.began
  located := hv.proper.located
  fixed {e h' c} hl hc := by
    have hg := (traffic_leads hl).grows
    have hc : c < h.board.lines.length := by rwa [length_lines_board]
    have hd := hg.device c hc
    have hs := hg.stream c hc
    rw [line_board, line_board] at hd hs
    refine ⟨hd, hs, fun d => ?_⟩
    rw [← address_board, ← address_board]
    exact congrArg (fun l : List Ip => l.getD d default) hg.addresses

/-! ### Two devices with one address -/

/-- Another device with the talker's address. -/
def twin : DeviceSetup := { talker with mac := ⟨2, 0, 0, 0, 0, 9⟩ }

/-- The host of a talker and its twin. The twin brings what is no packet before the talker is registered. Then
the talker brings a SYN for the echo service and the twin the data, and a datagram is sent. -/
def twinned? : Option Host :=
  let peer : Endpoint := ⟨⟨10, 0, 0, 2⟩, 4000⟩
  after? 3
    [.receivePacket 1 (.bytes [1]), .register 0, .store peer.ip ⟨2, 0, 0, 0, 0, 2⟩, .serveEcho,
      fromPeer ⟨100, 0, .syn, 1000⟩ [],
      .receiveSegment 1 (.bytes (encode ⟨peer, ⟨twin.ip, echoPort⟩⟩
        ⟨101, 2, .psh ||| .ack, 1000⟩ [104, 105])) peer.ip,
      .sendDatagram (some ⟨⟨talker.ip, 5⟩, peer⟩) (.bytes [7])]
    (attach (attach { config := {} } talker) twin)

def twinned : Host := twinned?.getD default

theorem visited_twinned : Visited twinned := by
  have hs : twinned?.isSome = true := by decide +kernel
  obtain ⟨h, hh⟩ := Option.isSome_iff_exists.mp hs
  rw [twinned, hh]
  exact ⟨⟨{}, [talker, twin]⟩, _, true, rfl, leads_after? hh⟩

/-- The twin owns the address and sends the datagram; the talker answers the SYN and echoes the data. -/
theorem egress_twinned : Visited twinned ∧ presentations twinned.journal = [1, 0] ∧
    twinned.owner? talker.ip = some 1 ∧ (registrations twinned.journal).count talker.ip = 1 ∧
    (twinned.connection 0).device = 0 ∧ Began 0 0 peerStream twinned.journal ∧
    (asked 0 twinned.journal).map List.length = [54, 56] ∧
    (asked 1 twinned.journal).map List.length = [43] ∧ Egress twinned := by
  have hx := visited_twinned.egress
  have hp : presentations twinned.journal = [1, 0] := by decide +kernel
  have ho : twinned.owner? talker.ip = some 1 := by
    rw [hx.first, hp]
    decide +kernel
  have hl : 0 < twinned.connections.length := by decide +kernel
  have hd : (twinned.connection 0).device = 0 := by decide +kernel
  have hs : (twinned.connection 0).stream = peerStream := by decide +kernel
  have hb := hx.began hl
  rw [hd, hs] at hb
  refine ⟨visited_twinned, hp, ho, ?_, hd, hb, by decide +kernel, by decide +kernel, hx⟩
  rw [hx.told, ho]
  rfl

end Host

end InetHost
