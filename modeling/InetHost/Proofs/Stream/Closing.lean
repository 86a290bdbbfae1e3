import InetHost.Proofs.Stream.Parting
import InetHost.Proofs.Stream.Rest

/-!
# How a connection that is being closed goes on

A connection that has given up its FIN waits for the peer to acknowledge it. As long as the peer's own FIN
has not come, only an acknowledgement of the FIN counts. After that the number is not looked at any more:
whatever acknowledgement comes in next ends the connection, be it older than the FIN.

* `Control.Covered`: a segment acknowledges everything that was sent;
* `Control.Hears`: how the acknowledgement of a segment leaves a connection that is being closed;
  **`Control.hears_take`**: it is found so as soon as the segment was taken;
* `Stationed`, `InState`: a connection is in its place; it is there in some state, or gone;
  **`Stationed.hears`**: how the host hears a segment;
* **`Visited.closings`**: how a host goes on with the connections that have given up their FIN;
* **`departing_ends`**: an acknowledgement that is older than the FIN may end a connection.
-/

namespace InetHost

open Tcp Switchboard

/-! ## The control block -/

namespace Tcp.Control

variable {k : Control} {g : Segment}

/-- **A segment acknowledges everything that was sent.** -/
def Covered (k : Control) (g : Segment) : Prop :=
  g.flags.has .syn = false ∧ g.flags.has .ack = true ∧ SeqNum.covers g.ack k.next = true

/-- The states of a connection that waits for the acknowledgement of its FIN, or for the peer's FIN. -/
def closingStates : List State := [.finWait1, .finWait2, .closing, .lastAck]

/-- **How a segment's acknowledgement leaves a connection** that is being closed: in a state, or gone. -/
inductive Hears (k : Control) (g : Segment) : Option State → Prop
  /-- The FIN is acknowledged. -/
  | covered (hs : k.state = .finWait1) (ha : k.Covered g) : Hears k g (some .finWait2)
  /-- The FIN is not acknowledged yet. -/
  | stale (hs : k.state = .finWait1) (ha : ¬ k.Covered g) : Hears k g (some .finWait1)
  /-- The FIN was acknowledged before. -/
  | again (hs : k.state = .finWait2) : Hears k g (some .finWait2)
  /-- Both sides have given up their FINs, and an acknowledgement comes in, of whatever number. -/
  | ends (hs : k.state = .closing ∨ k.state = .lastAck) (hy : g.flags.has .syn = false)
    (ha : g.flags.has .ack = true) : Hears k g none
  /-- No acknowledgement comes in. -/
  | waits (hs : k.state = .closing ∨ k.state = .lastAck)
    (ha : g.flags.has .syn = true ∨ g.flags.has .ack = false) : Hears k g (some k.state)

theorem hears_syn (hs : k.state ∈ closingStates) (hy : g.flags.has .syn = true) :
    k.Hears g (some k.state) := by
  have hn : ¬ k.Covered g := fun ha => by cases hy.symm.trans ha.1
  unfold closingStates at hs
  simp only [List.mem_cons, List.not_mem_nil, or_false] at hs
  rcases hs with hs | hs | hs | hs
  · rw [hs]
    exact .stale hs hn
  · rw [hs]
    exact .again hs
  · exact .waits (.inl hs) (.inl hy)
  · exact .waits (.inr hs) (.inl hy)

/-- Of any other segment the connection takes the acknowledgement. -/
theorem hears_acked (hs : k.state ∈ closingStates) (hy : g.flags.has .syn = false) :
    k.Hears g (if (k.acked g).isOver then none else some (k.acked g)) := by
  unfold closingStates at hs
  simp only [List.mem_cons, List.not_mem_nil, or_false] at hs
  cases ha : g.flags.has .ack with
  | false =>
    have hk : k.acked g = k.state := if_neg (by rw [ha]; decide)
    have hn : ¬ k.Covered g := fun h => by cases ha.symm.trans h.2.1
    rw [hk]
    rcases hs with hs | hs | hs | hs
    · rw [hs]
      exact .stale hs hn
    · rw [hs]
      exact .again hs
    · have hw := Hears.waits (g := g) (.inl hs) (.inr ha)
      rwa [hs] at hw ⊢
    · have hw := Hears.waits (g := g) (.inr hs) (.inr ha)
      rwa [hs] at hw ⊢
  | true =>
    have hk : k.acked g = k.acknowledged g.ack := if_pos ha
    rw [hk]
    unfold acknowledged
    rcases hs with hs | hs | hs | hs <;> rw [hs] <;> dsimp only
    · by_cases hc : SeqNum.covers g.ack k.next = true
      · rw [if_pos hc]
        exact .covered hs ⟨hy, ha, hc⟩
      · rw [if_neg hc]
        exact .stale hs fun h => hc h.2.2
    · exact .again hs
    · exact .ends (.inl hs) hy ha
    · exact .ends (.inr hs) hy ha

/-- **The segment is taken so**, before its data is given out and its FIN is taken. -/
theorem hears_take (hs : k.state ∈ closingStates) (hr : g.flags.has .rst = false) :
    k.Hears g (if (k.take g).2.teardown then none else some (k.take g).1.state) := by
  have hn : k.state.isOver = false := by
    revert hs
    cases k.state <;> decide
  have hk := k.take_cases g
  generalize (k.take g).1 = k', (k.take g).2 = o at hk
  cases hk with
  | reset hr' => cases hr.symm.trans hr'
  | syn hr hy =>
    have ht : k.repeatSyn.teardown = false := by
      unfold repeatSyn
      split_ifs <;> rfl
    rw [ht]
    exact hears_syn hs hy
  | ends hr hy hm ho =>
    have hh := hears_acked hs hy
    rwa [ho] at hh
  | empty hr hy ha | dropped hr hy ha | overflow hr hy ha | data hr hy ha =>
    have hh := hears_acked hs hy
    have ho : (k.acked g).isOver = false := ha.elim (fun he => by rw [he, hn]) id
    rwa [ho] at hh

theorem take_of_bare (hr : g.flags.has .rst = false) (hp : g.payload = [])
    (hf : g.flags.has .fin = false) : (k.take g).2.deliver = none ∧ (k.take g).2.fin = false := by
  have hk := k.take_cases g
  generalize (k.take g).1 = k', (k.take g).2 = o at hk
  cases hk with
  | reset hr' => cases hr.symm.trans hr'
  | syn =>
    unfold repeatSyn
    split_ifs <;> exact ⟨rfl, rfl⟩
  | empty => exact ⟨rfl, hf⟩
  | data hr hy hs hp' => exact absurd hp hp'
  | _ => exact ⟨rfl, rfl⟩

end Tcp.Control

namespace Host

variable {h h' : Host} {c : ConnId} {d : DeviceId} {s : Stream} {b : Bytes} {src : Ip} {g : Segment}

/-! ## Connections in their places -/

/-- **A connection is in its place**, between its two ends. -/
structure Stationed (h : Host) (s : Stream) (c : ConnId) : Prop where
  registered : h.stream? s = some c
  lt : c < h.connections.length
  ends : (h.connection c).stream = s

/-- A connection is in its place in a state, or gone from there. -/
def InState (h : Host) (s : Stream) (c : ConnId) : Option State → Prop
  | some st => Stationed h s c ∧ (h.connection c).control.state = st
  | none => h.stream? s = none

theorem Visited.stationed (hv : Visited h) (hc : h.stream? s = some c) : Stationed h s c := by
  obtain ⟨hl, he⟩ := hv.registered hc
  exact ⟨hc, hl, he⟩

theorem Stationed.record (p : Stationed h s c) (e : Event) : Stationed ((Host.record e).run h).2 s c :=
  ⟨p.registered, p.lt, p.ends⟩

/-- **What a connection does on its own** leaves it in its place, unless that is its end. -/
theorem Stationed.work (p : Stationed h s c) {r : Control × Outcome} {sent : Bool}
    (hb : h'.board = (h.board.steer c r).settle c r.2 sent) :
    InState h' s c (if r.2.teardown then none else some r.1.state) := by
  have hl : c < h.board.lines.length := by
    rw [length_lines_board]
    exact p.lt
  have he : (h.board.line c).stream = s := by
    rw [line_board]
    exact p.ends
  have ha := acts_work c r sent h.board
  rw [← hb] at ha
  have hs : h'.stream? s = if r.2.teardown = true then none else some c := by
    rw [← stream?_board, hb, stream?_settle, stream?_steer, (acts_steer c r h.board).stream, he,
      stream?_board, p.registered]
    simp only [and_true]
  have hk : (h'.connection c).control = r.1 := by
    rw [← control_board, hb, control_work h.board hl]
  have hl' : c < h'.connections.length := by
    have := ha.length
    rw [length_lines_board, length_lines_board] at this
    rw [this]
    exact p.lt
  have he' : (h'.connection c).stream = s := by
    have := ha.stream c
    rwa [he, line_board] at this
  cases ht : r.2.teardown with
  | true => rwa [ht] at hs
  | false =>
    rw [ht] at hs
    exact ⟨⟨hs, hl', he'⟩, congrArg Control.state hk⟩

/-- What is found in its place stays there at the end of a segment without a FIN. -/
theorem Stationed.conclude (p : Stationed h s c) : ∃ h', (Host.conclude c false).run h = (some (), h') ∧
    InState h' s c (some (h.connection c).control.state) := by
  obtain ⟨b, hrun, hb⟩ := board_finish c false h
  have hi := p.work hb
  rw [control_board] at hi
  have hk := (h.connection c).control.finish_cases false
  have ht : ((h.connection c).control.finish false).2.teardown = false ∧
      ((h.connection c).control.finish false).1.state = (h.connection c).control.state := by
    generalize ((h.connection c).control.finish false).1 = k,
      ((h.connection c).control.finish false).2 = o at hk
    cases hk <;> exact ⟨rfl, rfl⟩
  rw [ht.1, ht.2] at hi
  exact ⟨_, rfl, hi⟩

/-! ## Connections that are being closed -/

/-- A connection that has given up its FIN is being closed. -/
theorem Visited.state_mem_closingStates (hv : Visited h) (hc : h.stream? s = some c)
    (hf : 0 < fins c h.journal) : (h.connection c).control.state ∈ Control.closingStates := by
  have hm : (h.connection c).control.state.mayClose ≠ true := by
    intro hm
    have hz := (hv.life (hv.stationed hc).lt).parted.before hm
    rw [fins_filter] at hz
    omega
  have hs := hv.lifecycle.found s (h.connection c).control.state
    (Option.map_eq_some_iff.mpr ⟨c, hc, rfl⟩)
  revert hm hs
  cases (h.connection c).control.state <;> decide

/-- **A segment is heard** before its data and its FIN are taken. -/
theorem Stationed.hears (p : Stationed h s c) (hs : (h.connection c).control.state ∈ Control.closingStates)
    (hr : g.flags.has .rst = false) : ∃ st,
      (h.connection c).control.Hears g st ∧ InState ((takeIn c g).run h).2 s c st ∧
        ((takeIn c g).run h).1.teardown = st.isNone := by
  obtain ⟨ho, sent, hb⟩ := board_takeIn c g h
  refine ⟨_, Control.hears_take hs hr, p.work hb, ?_⟩
  rw [ho]
  cases ((h.connection c).control.take g).2.teardown <;> rfl

/-- **How a host goes on with the connections that have given up their FIN** when a segment comes in that
does not reset them. -/
structure Closings (h : Host) : Prop where
  /-- They wait for an acknowledgement of the FIN, or for the peer's FIN. -/
  found : ∀ {s c}, h.stream? s = some c → 0 < fins c h.journal →
    (h.connection c).control.state ∈ Control.closingStates
  /-- First the acknowledgement is heard. A connection that it ends is gone, and the segment is done with;
  otherwise the data is handed to the application, and then the FIN is taken. -/
  heard : ∀ {d b src g s c}, Segment.decode b = .ok g →
    s = ⟨⟨(h.device d).ip, g.dstPort⟩, ⟨src, g.srcPort⟩⟩ → h.stream? s = some c →
    0 < fins c h.journal → g.flags.has .rst = false → ∃ st o h₁,
      (h.connection c).control.Hears g st ∧ InState h₁ s c st ∧ o.teardown = st.isNone ∧
      ∀ app, (receiveSegment app d b src).run h = (handOn app c o).run h₁
  /-- If there is no data and no FIN, that is all that becomes of the connection. -/
  bare : ∀ {d b src g s c}, Segment.decode b = .ok g →
    s = ⟨⟨(h.device d).ip, g.dstPort⟩, ⟨src, g.srcPort⟩⟩ → h.stream? s = some c →
    0 < fins c h.journal → g.flags.has .rst = false → g.flags.has .fin = false → g.payload = [] →
    ∃ st h', (h.connection c).control.Hears g st ∧ InState h' s c st ∧
      ∀ app, (receiveSegment app d b src).run h = (some (), h')

theorem Stationed.hears_bare (p : Stationed h s c)
    (hs : (h.connection c).control.state ∈ Control.closingStates) (hr : g.flags.has .rst = false)
    (hf : g.flags.has .fin = false) (hp : g.payload = []) : ∃ st h',
      (h.connection c).control.Hears g st ∧ InState h' s c st ∧
        ∀ app, (receiveOn app c g).run h = (some (), h') := by
  obtain ⟨st, hh, hi, ht⟩ := p.hears hs hr
  obtain ⟨hd, hn⟩ := Control.take_of_bare hr hp hf
  rw [← (board_takeIn c g h).1] at hd hn
  have hrun : ∀ app, (receiveOn app c g).run h = if st.isNone then (some (), ((takeIn c g).run h).2)
      else (Host.conclude c false).run ((takeIn c g).run h).2 := by
    intro app
    rw [run_receiveOn, run_handOn hd, ht, hn]
  cases st with
  | none => exact ⟨none, _, hh, hi, hrun⟩
  | some st =>
    obtain ⟨h', hrun', hi'⟩ := hi.1.conclude
    rw [hi.2] at hi'
    exact ⟨some st, h', hh, hi', fun app => (hrun app).trans hrun'⟩

theorem Visited.hears_bare (hv : Visited h) (hg : Segment.decode b = .ok g)
    (hs : s = ⟨⟨(h.device d).ip, g.dstPort⟩, ⟨src, g.srcPort⟩⟩) (hc : h.stream? s = some c)
    (hf : 0 < fins c h.journal) (hr : g.flags.has .rst = false) (hn : g.flags.has .fin = false)
    (hp : g.payload = []) : ∃ st h', (h.connection c).control.Hears g st ∧ InState h' s c st ∧
      ∀ app, (receiveSegment app d b src).run h = (some (), h') := by
  obtain ⟨st, h', hh, hi, hrun⟩ :=
    ((hv.stationed hc).record (.arrived s g)).hears_bare (hv.state_mem_closingStates hc hf) hr hn hp
  refine ⟨st, h', hh, hi, fun app => ?_⟩
  rw [run_receiveSegment_registered hc (Segment.decode_eq_ok.mp hg) hs, hrun]

/-- **A connection that has given up its FIN goes on by the acknowledgements that it hears.** -/
theorem Visited.closings (hv : Visited h) : Closings h where
  found hc hf := hv.state_mem_closingStates hc hf
  heard {d b src g s c} hg hs hc hf hr := by
    obtain ⟨st, hh, hi, ht⟩ :=
      ((hv.stationed hc).record (.arrived s g)).hears (hv.state_mem_closingStates hc hf) hr
    exact ⟨st, _, _, hh, hi, ht,
      run_receiveSegment_registered hc (Segment.decode_eq_ok.mp hg) hs⟩
  bare := hv.hears_bare

/-! ### An acknowledgement that is older than the FIN -/

/-- A host whose FIN has answered its peer's. -/
def departing : Host := talked
  [.store ⟨10, 0, 0, 2⟩ ⟨2, 0, 0, 0, 0, 2⟩, .serveEcho, fromPeer ⟨99, 0, .syn, 1000⟩ [],
    fromPeer ⟨100, 2, .ack, 1000⟩ [], fromPeer ⟨100, 2, .fin ||| .ack, 1000⟩ []]

theorem visited_departing : Visited departing := visited_talked (by decide +kernel)

/-- Its connection waits for the acknowledgement of the FIN. -/
theorem departing_waits : departing.stream? peerStream = some 0 ∧ 0 < fins 0 departing.journal ∧
    (departing.connection 0).control.state = .lastAck := by
  decide +kernel

/-- A segment that acknowledges the host's SYN once more, but not the FIN. -/
def departing.late : Segment := ⟨4000, echoPort, 101, 2, .ack, []⟩

theorem departing_late :
    SeqNum.covers departing.late.ack (departing.connection 0).control.next = false ∧
    peerStream = ⟨⟨(departing.device 0).ip, departing.late.dstPort⟩,
      ⟨⟨10, 0, 0, 2⟩, departing.late.srcPort⟩⟩ ∧
    ∃ b, Segment.decode b = .ok departing.late := by
  have hr := Segment.reads_encode ⟨peerStream.peer, peerStream.here⟩ ⟨101, 2, .ack, 1000⟩ []
  exact ⟨by decide +kernel, by decide +kernel, _, Segment.decode_eq_ok.mpr hr⟩

/-- **An acknowledgement that is older than the FIN may end a connection.** -/
theorem departing_ends : Visited departing ∧ departing.stream? peerStream = some 0 ∧
    0 < fins 0 departing.journal ∧ (departing.connection 0).control.state = .lastAck ∧
    ∃ b h', Segment.decode b = .ok departing.late ∧ departing.late.flags.has .rst = false ∧
      SeqNum.covers departing.late.ack (departing.connection 0).control.next = false ∧
      (∀ app, (receiveSegment app 0 b ⟨10, 0, 0, 2⟩).run departing = (some (), h')) ∧
      h'.stream? peerStream = none := by
  obtain ⟨hc, hf, hs⟩ := departing_waits
  obtain ⟨hn, he, b, hb⟩ := departing_late
  obtain ⟨st, h', hh, hi, hrun⟩ :=
    visited_departing.hears_bare hb he hc hf (by decide) (by decide) rfl
  refine ⟨visited_departing, hc, hf, hs, b, h', hb, by decide, hn, hrun, ?_⟩
  cases hh with
  | ends => exact hi
  | covered hs' | stale hs' | again hs' => cases hs.symm.trans hs'
  | waits _ ha => exact absurd ha (by decide)

theorem closings_departing : Visited departing ∧ departing.stream? peerStream = some 0 ∧
    0 < fins 0 departing.journal ∧ ∃ b st h', Segment.decode b = .ok departing.late ∧
      (departing.connection 0).control.Hears departing.late st ∧ InState h' peerStream 0 st ∧
      ∀ app, (receiveSegment app 0 b ⟨10, 0, 0, 2⟩).run departing = (some (), h') := by
  obtain ⟨hc, hf, -⟩ := departing_waits
  obtain ⟨-, he, b, hb⟩ := departing_late
  obtain ⟨st, h', hh, hi, hrun⟩ :=
    visited_departing.closings.bare hb he hc hf (by decide) (by decide) rfl
  exact ⟨visited_departing, hc, hf, b, st, h', hb, hh, hi, hrun⟩

end Host

end InetHost
