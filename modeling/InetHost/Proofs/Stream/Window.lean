import InetHost.Proofs.Stream.Rest

/-!
# The room for data

Data that a connection takes is given out at once. So its receive buffer is empty whenever anybody looks,
every segment advertises the same window, and what a segment brings is taken in one piece or not at all.

* `Header.Advertises`: the header of a connection with room for `cap` bytes;
* `Control.take_roomy`, `Control.finish_roomy`: a control block keeps its buffer empty, and its answers
  say so;
* `Switchboard.Roomy`, **`Traffic.roomy`**: all connections do at all times;
* `Control.take_fits`, `Control.take_overlong`: a piece that fits is given out, a longer one is dropped;
* **`Visited.takesDataWhole`**: so every host takes a piece whole or not at all.
-/

namespace InetHost

open Tcp Switchboard

/-! ## One connection -/

/-- **A header of a connection** whose buffer has room for `cap` bytes. -/
structure Tcp.Header.Advertises (t : Header) (cap : Nat) : Prop where
  window : t.window = UInt16.ofNat (min cap 65535)
  alive : t.flags.has .rst = false

namespace Tcp.Control

variable {k : Control} {cap : Nat} {g : Segment}

theorem advertises_header (hk : k.buffer = .empty cap) {f : Flags} (hf : f.has .rst = false) :
    (k.header f).Advertises cap := by
  refine ⟨?_, hf⟩
  change k.window = _
  unfold window
  rw [hk]
  rfl

theorem advertises_accept (isn : SeqNum) (cap : Nat) : (accept isn cap).2.Advertises cap :=
  ⟨rfl, show (Flags.syn ||| Flags.ack).has .rst = false by decide⟩

theorem extend?_empty (hk : k.buffer = .empty cap) (hl : g.payload.length ≤ cap) :
    ∃ b, k.buffer.extend? g.payload = some b ∧ b.drain = (g.payload, .empty cap) := by
  rw [hk]
  unfold BoundedBuffer.extend?
  have hf : (BoundedBuffer.empty cap).content.length + g.payload.length ≤
      (BoundedBuffer.empty cap).capacity := by
    simpa [BoundedBuffer.empty] using hl
  rw [dif_pos hf]
  exact ⟨_, rfl, rfl⟩

theorem extend?_empty_eq_none (hk : k.buffer = .empty cap) :
    k.buffer.extend? g.payload = none ↔ cap < g.payload.length := by
  rw [hk]
  unfold BoundedBuffer.extend? BoundedBuffer.empty
  split
  · rename_i hl
    simpa using hl
  · rename_i hl
    simpa using hl

/-- **A control block that takes a segment** keeps its buffer empty. -/
theorem take_roomy (hk : k.buffer = .empty cap) (g : Segment) :
    (k.take g).1.buffer = .empty cap ∧ ∀ t, (k.take g).2.reply = some t → t.Advertises cap := by
  have ht := k.take_cases g
  generalize (k.take g).1 = k', (k.take g).2 = o at ht
  cases ht with
  | syn hr hy =>
    refine ⟨hk, fun t ht => ?_⟩
    unfold repeatSyn at ht
    split at ht
    · obtain rfl := Option.some.inj ht
      have hf : (Flags.syn ||| Flags.ack).has .rst = false := by decide
      exact ⟨(advertises_header hk hf).window, hf⟩
    · cases ht
  | data hr hy hs hp hm b hb =>
    have hl : g.payload.length ≤ cap := by
      refine Nat.not_lt.mp fun hl => ?_
      cases hb.symm.trans ((extend?_empty_eq_none hk).mpr hl)
    obtain ⟨b', hb', hd⟩ := extend?_empty hk hl
    obtain rfl := Option.some.inj (hb.symm.trans hb')
    exact ⟨congrArg Prod.snd hd, nofun⟩
  | reset | ends | empty | dropped | overflow => exact ⟨hk, nofun⟩

/-- … and so does one that comes to the end of a segment. -/
theorem finish_roomy (hk : k.buffer = .empty cap) (fin : Bool) :
    (k.finish fin).1.buffer = .empty cap ∧ ∀ t, (k.finish fin).2.reply = some t → t.Advertises cap := by
  have hw : ∀ {f : Flags}, f.has .rst = false → ∀ {ack t}, some { k.header f with ack } = some t →
      t.Advertises cap := by
    intro f hf ack t ht
    obtain rfl := Option.some.inj ht
    exact ⟨(advertises_header hk hf).window, hf⟩
  have ht := k.finish_cases fin
  generalize (k.finish fin).1 = k', (k.finish fin).2 = o at ht
  cases ht with
  | passive => exact ⟨hk, fun t ht => hw (f := .fin ||| .ack) (by decide) ht⟩
  | closing | ends | ack => exact ⟨hk, fun t ht => hw (f := .ack) (by decide) ht⟩
  | ignored | nothing => exact ⟨hk, nofun⟩

/-- At the end of a segment without a FIN only what is owed is acknowledged. -/
theorem finish_false (k : Control) : k.finish false =
    ({ k with owesAck := false }, { reply := if k.owesAck then some (k.header .ack) else none }) := by
  obtain ⟨state, next, expected, owesAck, buffer⟩ := k
  cases owesAck <;> rfl

/-- **A portion that fits** is given out as it is. -/
theorem take_fits (hk : k.buffer = .empty cap) (hr : g.flags.has .rst = false)
    (hy : g.flags.has .syn = false) (hm : (k.acked g).mayReceive = true) (hp : g.payload ≠ [])
    (hl : g.payload.length ≤ cap) : k.take g =
      ({ k with
          state := k.acked g
          expected := k.expected + UInt32.ofNat g.payload.length
          owesAck := true },
        { deliver := some g.payload, fin := g.flags.has .fin }) := by
  obtain ⟨b, hb, hd⟩ := extend?_empty hk hl
  have ht := k.take_cases g
  rcases hkt : k.take g with ⟨k', o⟩
  rw [hkt] at ht
  dsimp only at ht
  cases ht with
  | reset hr' => cases hr.symm.trans hr'
  | syn _ hy' => cases hy.symm.trans hy'
  | ends _ _ _ ho =>
    revert hm ho
    cases k.acked g <;> simp [State.mayReceive, State.isOver]
  | empty _ _ _ hp' => exact absurd hp' hp
  | dropped _ _ _ _ hm' => cases hm.symm.trans hm'
  | overflow _ _ _ _ _ hb' => cases hb.symm.trans hb'
  | data _ _ _ _ _ b' hb' =>
    obtain rfl := Option.some.inj (hb.symm.trans hb')
    rw [hd, hk]

/-- **A longer one** is dropped, and its FIN with it. -/
theorem take_overlong (hk : k.buffer = .empty cap) (hr : g.flags.has .rst = false)
    (hy : g.flags.has .syn = false) (hm : (k.acked g).mayReceive = true)
    (hl : cap < g.payload.length) : k.take g =
      ({ k with state := k.acked g },
        { notice := some (.dataOverflow g.payload.length g.seq) }) := by
  have hb := (extend?_empty_eq_none hk).mpr hl
  have ht := k.take_cases g
  rcases hkt : k.take g with ⟨k', o⟩
  rw [hkt] at ht
  dsimp only at ht
  cases ht with
  | reset hr' => cases hr.symm.trans hr'
  | syn _ hy' => cases hy.symm.trans hy'
  | ends _ _ _ ho =>
    revert hm ho
    cases k.acked g <;> simp [State.mayReceive, State.isOver]
  | empty _ _ _ hp =>
    rw [hp] at hl
    cases hl
  | dropped _ _ _ _ hm' => cases hm.symm.trans hm'
  | overflow => rfl
  | data _ _ _ _ _ b' hb' => cases hb.symm.trans hb'

end Tcp.Control

/-! ## All connections -/

/-- A segment that a connection tried to send advertises its room; one of no connection is a RST. -/
def Event.advertises (cap : Nat) : Event → Prop
  | .emitted (some _) _ _ t _ _ => t.Advertises cap
  | .emitted none _ _ t _ _ => t.flags.has .rst = true
  | _ => True

/-- **All buffers are empty**, and have been whenever a segment was to be sent. -/
structure Switchboard.Roomy (v : Switchboard) : Prop where
  empty : ∀ c < v.lines.length, (v.control c).buffer = .empty v.capacity
  window : ∀ e ∈ v.history, e.advertises v.capacity

namespace Switchboard

variable {v w : Switchboard} {c : ConnId}

theorem Roomy.log (h : Roomy v) {e : Event} (he : e.advertises v.capacity) : Roomy (v.log e) :=
  ⟨h.empty, List.forall_mem_cons.mpr ⟨he, h.window⟩⟩

theorem Roomy.arrived (h : Roomy v) (s : Stream) (g : Segment) : Roomy (v.log (.arrived s g)) :=
  h.log (e := .arrived s g) trivial

theorem Roomy.acts (h : Roomy v) (ha : Acts c v w) (hk : (w.control c).buffer = .empty v.capacity)
    {new : List Event} (hj : w.history = new ++ v.history)
    (hn : ∀ e ∈ new, e.advertises v.capacity) : Roomy w where
  empty c' hc := by
    rw [ha.length] at hc
    rw [ha.capacity]
    by_cases he : c' = c
    · rw [he]
      exact hk
    · rw [ha.control_eq he]
      exact h.empty c' hc
  window := by
    rw [ha.capacity, hj]
    exact List.forall_mem_append.mpr ⟨hn, h.window⟩

theorem advertises_changes {k k' : Control} {cap : Nat} : ∀ e ∈ changes c k k', e.advertises cap := by
  intro e he
  rw [(mem_changes he).2]
  trivial

theorem Roomy.work (h : Roomy v) (hc : c < v.lines.length) {r : Control × Outcome}
    (hk : r.1.buffer = .empty v.capacity) (hr : ∀ t, r.2.reply = some t → t.Advertises v.capacity)
    (b : Bool) : Roomy ((v.steer c r).settle c r.2 b) := by
  have hj := history_work v c r b
  rw [← List.append_assoc] at hj
  refine h.acts (acts_work c r b v) (by rwa [control_work v hc]) hj fun e he => ?_
  rcases List.mem_append.mp he with he | he
  · unfold removal at he
    split at he
    · split at he
      · rw [List.mem_singleton.mp he]
        trivial
      · cases he
    · cases he
  · unfold answers at he
    rcases List.mem_append.mp he with he | he
    · obtain ⟨t, ht, rfl⟩ := List.mem_map.mp he
      exact hr t (Option.mem_toList.mp ht)
    · rcases List.mem_append.mp he with he | he
      · split at he
        · rw [List.mem_singleton.mp he]
          trivial
        · cases he
      · exact advertises_changes e he

theorem Roomy.take (h : Roomy v) (hc : c < v.lines.length) (g : Segment) (b : Bool) :
    Roomy (v.take c g b) := by
  obtain ⟨hk, hr⟩ := Control.take_roomy (h.empty c hc) g
  have hw := h.work hc hk hr b
  unfold Switchboard.take deliver
  dsimp only
  split
  · rename_i data _
    exact hw.log (e := .delivered c data) trivial
  · exact hw

theorem Roomy.finish (h : Roomy v) (hc : c < v.lines.length) (fin b : Bool) :
    Roomy (v.finish c fin b) := by
  obtain ⟨hk, hr⟩ := Control.finish_roomy (h.empty c hc) fin
  exact h.work hc hk hr b

theorem Roomy.advance (h : Roomy v) (hc : c < v.lines.length) {t : Header} {k : Control}
    (ht : t.Advertises v.capacity) (hk : k.buffer = (v.control c).buffer) (data : Bytes) (b : Bool) :
    Roomy (v.advance c t data k b) := by
  have hj := history_advance v c t data k b
  rw [List.append_cons] at hj
  refine h.acts (acts_advance c t data k b v) ?_ hj fun e he => ?_
  · rw [control_advance v hc]
    split
    · rw [hk]
      exact h.empty c hc
    · exact h.empty c hc
  · rcases List.mem_append.mp he with he | he
    · split at he
      · exact advertises_changes e he
      · cases he
    · rw [List.mem_singleton.mp he]
      exact ht

theorem Roomy.connect (h : Roomy v) (s : Stream) (d : DeviceId) (isn : SeqNum) (b : Bool) :
    Roomy (v.connect s d isn b) := by
  have hg : (v.connect s d isn b).capacity = v.capacity := (grows_connect s d isn b v).capacity
  refine ⟨fun c hc => ?_, ?_⟩
  · rw [length_connect] at hc
    rw [hg]
    unfold control
    rcases Nat.lt_succ_iff_lt_or_eq.mp hc with hc | rfl
    · rw [line_connect s d isn b hc]
      exact h.empty c hc
    · rw [line_connect_self]
      rfl
  · rw [hg, history_connect]
    refine List.forall_mem_cons.mpr ⟨Control.advertises_accept isn v.capacity, ?_⟩
    refine List.forall_mem_cons.mpr ⟨trivial, List.forall_mem_append.mpr ⟨fun e he => ?_, h.window⟩⟩
    obtain ⟨old, rfl⟩ := mem_replacement he
    trivial

end Switchboard

theorem Tcp.Header.rst_reset (f : Flags) (seq ack : SeqNum) :
    (Header.reset f seq ack).flags.has .rst = true := by
  have hf : Flags.rst.has .rst = true ∧ (Flags.rst ||| Flags.ack).has .rst = true := by decide
  unfold reset
  split
  · exact hf.1
  · exact hf.2

/-- **Traffic leaves all buffers empty.** -/
theorem Traffic.roomy {e : Bool} {v w : Switchboard} (ht : Traffic e v w) (hl : Lives v)
    (h : Roomy v) : Roomy w := by
  induction ht with
  | refl | cut => exact h
  | trans h₁₂ _ ih₁ ih₂ => exact ih₂ (h₁₂.lives hl) (ih₁ hl h)
  | call v e he => exact h.log (by cases e <;> trivial)
  | @send v s c hs hm data b =>
    have hc := (hl.registered _ _ hs).1
    have hf : (Flags.psh ||| Flags.ack).has .rst = false := by decide
    have hk : ((v.control c).sent data.length).buffer = (v.control c).buffer := rfl
    exact h.advance hc (Control.advertises_header (h.empty _ hc) hf) hk data b
  | @shut v s c t hs ht b =>
    have hc := (hl.registered _ _ hs).1
    obtain ⟨-, rfl⟩ := Control.closeHeader?_eq_some ht
    have hf : (Flags.fin ||| Flags.psh ||| Flags.ack).has .rst = false := by decide
    have hk : (v.control c).closed.buffer = (v.control c).buffer := rfl
    exact h.advance hc (Control.advertises_header (h.empty _ hc) hf) hk [] b
  | ignore => exact h.arrived ..
  | refuse => exact (h.arrived ..).log (Header.rst_reset ..)
  | accepting _ _ ih => exact ih (hl.arrived ..) (h.arrived ..)
  | accept _ _ _ _ d b _ _ ih => exact (ih (hl.arrived ..) (h.arrived ..)).connect _ d _ b
  | ends hs _ b => exact (h.arrived ..).take (hl.registered _ _ hs).1 _ b
  | reading hs _ b _ ih =>
    exact ih (hl.take hs b) ((h.arrived ..).take (hl.registered _ _ hs).1 _ b)
  | receive hs _ b b' ha ih =>
    have hc := (hl.registered _ _ hs).1
    have hn := ((grows_log ..).trans (acts_take ..).grows).trans ha.grows |>.length
    exact (ih (hl.take hs b) ((h.arrived ..).take hc _ b)).finish (Nat.lt_of_lt_of_le hc hn) _ b'

namespace Host

variable {h h₁ h' : Host} {c : ConnId} {g : Segment} {s : Stream} {d : DeviceId} {b : Bytes} {src : Ip}

/-- **All buffers of a host are empty.** -/
theorem Visited.roomy (hv : Visited h) : Roomy h.board := by
  obtain ⟨s, h₀, e, hs, hl⟩ := hv
  obtain ⟨hn, -, hj⟩ := board_start hs
  refine (traffic_leads hl).roomy (lives_start hs) ⟨fun c hc => ?_, fun e he => ?_⟩
  · rw [hn] at hc
    cases hc
  · rw [hj] at he
    cases he

/-! ## Portions -/

/-- **A segment brings data** for a connection that takes data, once it has seen the acknowledgement. -/
structure Loads (h : Host) (d : DeviceId) (b : Bytes) (src : Ip) (s : Stream) (c : ConnId) (g : Segment) :
    Prop where
  decodes : Segment.decode b = .ok g
  ends : s = ⟨⟨(h.device d).ip, g.dstPort⟩, ⟨src, g.srcPort⟩⟩
  registered : h.stream? s = some c
  rst : g.flags.has .rst = false
  syn : g.flags.has .syn = false
  data : g.payload ≠ []
  takes : (h.connection c).control.acked g ∈ [.established, .finWait1, .finWait2]

theorem Loads.mayReceive (x : Loads h d b src s c g) :
    ((h.connection c).control.acked g).mayReceive = true := by
  have ht := x.takes
  revert ht
  cases (h.connection c).control.acked g <;> decide

/-- The control block of a connection that has taken the data of a segment. -/
def afterData (k : Control) (g : Segment) : Control :=
  { k with
    state := k.acked g
    expected := k.expected + UInt32.ofNat g.payload.length
    owesAck := true }

/-- **Data that fits** is read in one piece. -/
theorem Loads.run_fits (x : Loads h d b src s c g) {cap : Nat}
    (hk : (h.connection c).control.buffer = .empty cap) (hl : g.payload.length ≤ cap)
    (app : Application) : (receiveSegment app d b src).run h =
      (do app (.read c g.payload); conclude c (g.flags.has .fin) : Run Unit).run
        (h.reader c s g (afterData (h.connection c).control g) g.payload) := by
  rw [run_receiveSegment_registered x.registered (Segment.decode_eq_ok.mp x.decodes) x.ends]
  have ht := Control.take_fits hk x.rst x.syn x.mayReceive x.data hl
  exact run_receiveOn_data (h := ((record (.arrived s g)).run h).2) ht app

/-- The host that has dropped the data of a segment as it was too long. -/
def spilt (h : Host) (c : ConnId) (s : Stream) (g : Segment) : Host :=
  ((do
    record (.arrived s g)
    setControl c { (h.connection c).control with state := (h.connection c).control.acked g }
    note (.dataOverflow g.payload.length g.seq) : Act Unit).run h).2

theorem sendsNothing_spilt (h : Host) (c : ConnId) (s : Stream) (g : Segment) :
    SendsNothing h (h.spilt c s g) :=
  Does.bind (sendsNothing_record rfl h)
    (Does.bind (sendsNothing_setControl c _ _) (sendsNothing_record rfl _))

/-- **Longer data** is dropped, and the end of the segment taken as if it had no FIN. -/
theorem Loads.run_overlong (x : Loads h d b src s c g) {cap : Nat}
    (hk : (h.connection c).control.buffer = .empty cap) (hl : cap < g.payload.length)
    (app : Application) : (receiveSegment app d b src).run h =
      (conclude c false).run (h.spilt c s g) := by
  rw [run_receiveSegment_registered x.registered (Segment.decode_eq_ok.mp x.decodes) x.ends]
  have ht := Control.take_overlong hk x.rst x.syn x.mayReceive hl
  have hi : (takeIn c g).run ((record (.arrived s g)).run h).2 =
      ({ notice := some (.dataOverflow g.payload.length g.seq) }, h.spilt c s g) := by
    have hs : (steer c (·.take g)).run ((record (.arrived s g)).run h).2 =
        ({ notice := some (.dataOverflow g.payload.length g.seq) }, h.spilt c s g) := by
      unfold steer
      rw [act_get]
      dsimp only
      rw [show (((record (.arrived s g)).run h).2.connection c).control.take g = _ from ht]
      rfl
    unfold takeIn
    rw [StateT.run_bind, hs]
    rfl
  rw [run_receiveOn, hi, run_handOn rfl]
  rfl

theorem board_spilt (h : Host) (c : ConnId) (s : Stream) (g : Segment) : (h.spilt c s g).board =
    (h.board.log (.arrived s g)).setControl c
      { (h.connection c).control with state := (h.connection c).control.acked g } := by
  refine (sameBoard_note _).trans ?_
  change ((setControl c _).run ((record (.arrived s g)).run h).2).2.board = _
  rw [board_setControl, board_log rfl]

theorem attempts_spilt (h : Host) (c : ConnId) (s : Stream) (g : Segment) :
    attempts c (h.spilt c s g).journal = attempts c h.journal := by
  have hj : (h.spilt c s g).board.history = (changes c ((h.board.log (.arrived s g)).control c)
      { (h.connection c).control with state := (h.connection c).control.acked g } ++ [.arrived s g]) ++
        h.board.history := by
    rw [board_spilt, List.append_assoc]
    exact history_setControl ..
  rw [← attempts_board, ← attempts_board, own_of_history hj, attempts_append, attempts_filter,
    attempts_append, attempts_changes]
  exact List.append_nil _

/-- **How the end of a segment without a FIN is taken**: what is owed is acknowledged, and no more. -/
theorem conclude_false (hc : c < h.connections.length) : ∃ b h', (conclude c false).run h = (some (), h') ∧
    (h'.connection c).control = { (h.connection c).control with owesAck := false } ∧
    attempts c h'.journal = attempts c h.journal ++
      if (h.connection c).control.owesAck then [⟨(h.connection c).control.header .ack, [], b⟩] else [] := by
  obtain ⟨b, h', hr, hb⟩ := run_conclude c false h
  refine ⟨b, h', hr, ?_, ?_⟩
  · rw [← control_board, hb, control_finish _ (by rwa [length_lines_board]), Control.finish_false,
      control_board]
  · rw [← attempts_board, hb, own_finish, attempts_append, attempts_entries, attempts_board,
      Control.finish_false, control_board]
    cases (h.connection c).control.owesAck <;> rfl

/-- **How a host takes data**: in one piece or not at all. -/
structure TakesDataWhole (h : Host) : Prop where
  /-- All receive buffers are empty, … -/
  empty : ∀ c < h.connections.length,
    (h.connection c).control.buffer = .empty h.config.receiveBuffer
  /-- … and every segment that was to be sent for a connection has said so. RSTs belong to none. -/
  window : ∀ {c d s t data b}, .emitted c d s t data b ∈ h.journal →
    (t.flags.has .rst = false ↔ c.isSome) ∧
      (t.flags.has .rst = false → t.window.toNat = min h.config.receiveBuffer 65535)
  /-- Data that fits is read by the application, in one call, whatever the application is; all buffers are
  empty then, too. -/
  fits : ∀ {d b src s c g}, Loads h d b src s c g → g.payload.length ≤ h.config.receiveBuffer →
    let h₁ := h.reader c s g (afterData (h.connection c).control g) g.payload
    (∀ app, (receiveSegment app d b src).run h =
      (do app (.read c g.payload); conclude c (g.flags.has .fin) : Run Unit).run h₁) ∧
    ∀ c < h₁.connections.length, (h₁.connection c).control.buffer = .empty h.config.receiveBuffer
  /-- Longer data is not read, nor is a FIN behind it taken: the connection goes on to expect what it
  expected. Only what it owed before is acknowledged, and nothing is sent if it owed nothing. -/
  overlong : ∀ {d b src s c g}, Loads h d b src s c g → h.config.receiveBuffer < g.payload.length →
    ∃ sent h', (∀ app, (receiveSegment app d b src).run h = (some (), h')) ∧
      let k : Control := { (h.connection c).control with state := (h.connection c).control.acked g }
      (h'.connection c).control = { k with owesAck := false } ∧
      attempts c h'.journal =
        attempts c h.journal ++ (if k.owesAck then [⟨k.header .ack, [], sent⟩] else []) ∧
      (k.owesAck = false → SendsNothing h h')
  /-- Where no application code is running nothing is owed. -/
  idle : AtRest h → ∀ c, (h.connection c).control.owesAck = false

theorem empty_of_roomy (hr : Roomy h.board) (hc : c < h.connections.length) :
    (h.connection c).control.buffer = .empty h.config.receiveBuffer := by
  have he := hr.empty c (by rwa [length_lines_board])
  rwa [control_board] at he

theorem capacity_reader (k : Control) (data : Bytes) :
    (h.reader c s g k data).config.receiveBuffer = h.config.receiveBuffer := by
  change (h.reader c s g k data).board.capacity = h.board.capacity
  rw [board_reader]
  exact (acts_setControl c k _).capacity

theorem roomy_reader (hv : Visited h) (x : Loads h d b src s c g) : Roomy
    (h.reader c s g (afterData (h.connection c).control g) g.payload).board := by
  have hc : c < h.board.lines.length := (hv.lives.registered s c x.registered).1
  have hr := hv.roomy.arrived s g
  rw [board_reader]
  refine Roomy.log (hr.acts (acts_setControl c _ _) ?_ (history_setControl ..) fun e he => ?_) trivial
  · rw [control_setControl (h.board.log (.arrived s g)) hc]
    have he := hv.roomy.empty c hc
    rw [control_board] at he
    exact he
  · exact advertises_changes e he

/-- **Every host takes a piece whole or not at all.** -/
theorem Visited.takesDataWhole (hv : Visited h) : TakesDataWhole h where
  empty c hc := empty_of_roomy hv.roomy hc
  window := by
    intro c d s t data b hm
    have ha := hv.roomy.window _ (List.mem_filter.mpr ⟨hm, rfl⟩)
    cases c with
    | none =>
      have hr : t.flags.has .rst = true := ha
      simp [hr]
    | some c =>
      have hw : t.Advertises h.config.receiveBuffer := ha
      refine ⟨by simp [hw.alive], fun _ => ?_⟩
      have hm : min h.config.receiveBuffer 65535 < 65536 := by omega
      rw [hw.window, UInt16.toNat_ofNat', Nat.mod_eq_of_lt hm]
  fits x hl := by
    have hc := (hv.registered x.registered).1
    refine ⟨x.run_fits (empty_of_roomy hv.roomy hc) hl, fun c' hc' => ?_⟩
    have he := empty_of_roomy (roomy_reader hv x) hc'
    rwa [capacity_reader] at he
  overlong := by
    intro d b src s c g x hl
    have hc := (hv.registered x.registered).1
    have hr := x.run_overlong (empty_of_roomy hv.roomy hc) hl
    have hk : ((h.spilt c s g).connection c).control =
        { (h.connection c).control with state := (h.connection c).control.acked g } := by
      rw [← control_board, board_spilt]
      exact control_setControl (h.board.log (.arrived s g)) (by rwa [← length_lines_board] at hc) _
    have hn : c < (h.spilt c s g).connections.length := by
      rw [← length_lines_board, board_spilt, (acts_setControl c _ _).length]
      exact (length_lines_board h).symm ▸ hc
    obtain ⟨sent, h', hf, hk', ht⟩ := conclude_false hn
    refine ⟨sent, h', fun app => (hr app).trans hf, ?_, ?_, fun ho => ?_⟩
    · rw [hk', hk]
    · rw [ht, attempts_spilt, hk]
    · have hi := run_conclude_idle (h := h.spilt c s g) (c := c) (by rw [hk]; exact ho)
      obtain rfl : h.spilt c s g = h' := congrArg Prod.snd (hi.symm.trans hf)
      exact sendsNothing_spilt h c s g
  idle hr c := hr.owes_nothing c

/-- A host whose buffers have room for two bytes, with an open connection to its echo service. -/
def snug? : Option Host :=
  after? 3 [.store ⟨10, 0, 0, 2⟩ ⟨2, 0, 0, 0, 0, 2⟩, .serveEcho, fromPeer ⟨99, 0, .syn, 1000⟩ []]
    (attach { config := { receiveBuffer := 2 } } talker)

def snug : Host := snug?.getD default

theorem visited_snug : Visited snug := by
  have hs : snug?.isSome = true := by decide +kernel
  obtain ⟨h, hh⟩ := Option.isSome_iff_exists.mp hs
  rw [snug, hh]
  exact ⟨⟨{ receiveBuffer := 2 }, [talker]⟩, _, true, rfl, leads_after? hh⟩

/-- Some data and a FIN for the connection. -/
def parcel (data : Bytes) : Segment := ⟨4000, echoPort, 100, 2, .fin ||| .psh ||| .ack, data⟩

/-- The same on the wire. -/
def parcelBytes (data : Bytes) : Bytes :=
  Tcp.encode ⟨⟨⟨10, 0, 0, 2⟩, 4000⟩, ⟨talker.ip, echoPort⟩⟩ ⟨100, 2, .fin ||| .psh ||| .ack, 1000⟩ data

/-- Two bytes are read, and three are dropped without a word. -/
theorem takesDataWhole_snug : Visited snug ∧
    Loads snug 0 (parcelBytes [104, 105]) ⟨10, 0, 0, 2⟩ respondent.stream 0 (parcel [104, 105]) ∧
    Loads snug 0 (parcelBytes [1, 2, 3]) ⟨10, 0, 0, 2⟩ respondent.stream 0 (parcel [1, 2, 3]) ∧
    (∃ h₁, ∀ app, (receiveSegment app 0 (parcelBytes [104, 105]) ⟨10, 0, 0, 2⟩).run snug =
      (do app (.read 0 [104, 105]); conclude 0 true : Run Unit).run h₁) ∧
    ∃ h', (∀ app, (receiveSegment app 0 (parcelBytes [1, 2, 3]) ⟨10, 0, 0, 2⟩).run snug = (some (), h')) ∧
      SendsNothing snug h' := by
  have hp := visited_snug.takesDataWhole
  have hc : snug.stream? respondent.stream = some 0 := by decide +kernel
  have hd : respondent.stream =
      ⟨⟨(snug.device 0).ip, echoPort⟩, ⟨⟨10, 0, 0, 2⟩, 4000⟩⟩ := by decide +kernel
  have hf : (Flags.fin ||| Flags.psh ||| Flags.ack).has .rst = false ∧
      (Flags.fin ||| Flags.psh ||| Flags.ack).has .syn = false := by decide
  have x : Loads snug 0 (parcelBytes [104, 105]) ⟨10, 0, 0, 2⟩ respondent.stream 0 (parcel [104, 105]) :=
    ⟨by rfl, hd, hc, hf.1, hf.2, nofun, by decide +kernel⟩
  have y : Loads snug 0 (parcelBytes [1, 2, 3]) ⟨10, 0, 0, 2⟩ respondent.stream 0 (parcel [1, 2, 3]) :=
    ⟨by rfl, hd, hc, hf.1, hf.2, nofun, by decide +kernel⟩
  have hr : snug.config.receiveBuffer = 2 := by decide +kernel
  have ho : (snug.connection 0).control.owesAck = false := by decide +kernel
  obtain ⟨sent, h', hn, -, -, hm⟩ := hp.overlong y (by rw [hr]; decide)
  exact ⟨visited_snug, x, y, ⟨_, (hp.fits x (by rw [hr]; decide)).1⟩, h', hn, hm ho⟩

end Host

end InetHost
