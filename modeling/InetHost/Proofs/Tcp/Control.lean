import InetHost.Tcp.Control
import Mathlib.Tactic.SplitIfs

/-!
# The steps of a control block

* `State.successors`: the states that may follow a state without a RST;
* `Control.Taken`, `Control.Finished`: all that a control block may do with a segment and at its end.
  **`take_cases`** and **`finish_cases`** say that it does nothing else.
-/

namespace InetHost.Tcp

/-! ## The states -/

/-- The states that may come next, unless the peer resets the connection. -/
def State.successors : State → List State
  | .synReceived => [.established, .finWait1]
  | .established => [.finWait1, .lastAck]
  | .finWait1 => [.finWait2, .closing]
  | .finWait2 => [.timeWait]
  | .closing => [.timeWait]
  | .lastAck => [.closed]
  | _ => []

theorem State.closed_of_successor : ∀ s, ∀ st ∈ successors s, s = .lastAck → st = .closed := by
  intro s
  cases s <;> decide

theorem State.ne_synReceived_of_successor : ∀ s, ∀ st ∈ successors s, st ≠ .synReceived := by
  intro s
  cases s <;> decide

theorem State.mayClose_of_successor : ∀ s, ∀ st ∈ successors s,
    st.maySend = true ∨ st.mayClose = true → s.mayClose = true := by
  intro s
  cases s <;> decide

theorem State.finWait1_of_mayClose : ∀ s : State, s.mayClose = true → .finWait1 ∈ s.successors := by
  intro s
  cases s <;> decide

namespace Control

variable (k : Control)

/-- The state after the acknowledgement of a segment, if it has one. -/
def acked (seg : Segment) : State :=
  if seg.flags.has .ack then k.acknowledged seg.ack else k.state

theorem acked_eq_or_mem (seg : Segment) :
    k.acked seg = k.state ∨ k.acked seg ∈ k.state.successors := by
  unfold acked acknowledged
  cases k.state with
  | finWait1 => split_ifs <;> simp [State.successors]
  | synReceived | closing | lastAck => by_cases ha : seg.flags.has .ack <;> simp [ha, State.successors]
  | _ => split_ifs <;> exact .inl rfl

/-! ## Taking a segment -/

/-- What a control block may do with a segment. -/
inductive Taken (seg : Segment) : Control → Outcome → Prop
  | reset (hr : seg.flags.has .rst = true) :
    Taken seg { k with state := .closed } { teardown := true }
  | syn (hr : seg.flags.has .rst = false) (hy : seg.flags.has .syn = true) : Taken seg k k.repeatSyn
  | ends (hr : seg.flags.has .rst = false) (hy : seg.flags.has .syn = false)
    (hs : k.acked seg ∈ k.state.successors) (ho : (k.acked seg).isOver = true) :
    Taken seg { k with state := k.acked seg } { teardown := true }
  | empty (hr : seg.flags.has .rst = false) (hy : seg.flags.has .syn = false)
    (hs : k.acked seg = k.state ∨ (k.acked seg).isOver = false) (hp : seg.payload = []) :
    Taken seg { k with state := k.acked seg } { fin := seg.flags.has .fin }
  | dropped (hr : seg.flags.has .rst = false) (hy : seg.flags.has .syn = false)
    (hs : k.acked seg = k.state ∨ (k.acked seg).isOver = false) (hp : seg.payload ≠ [])
    (hm : (k.acked seg).mayReceive = false) :
    Taken seg { k with state := k.acked seg } { notice := some (.dataDropped (k.acked seg)) }
  | overflow (hr : seg.flags.has .rst = false) (hy : seg.flags.has .syn = false)
    (hs : k.acked seg = k.state ∨ (k.acked seg).isOver = false) (hp : seg.payload ≠ [])
    (hm : (k.acked seg).mayReceive = true) (hb : k.buffer.extend? seg.payload = none) :
    Taken seg { k with state := k.acked seg }
      { notice := some (.dataOverflow seg.payload.length seg.seq) }
  | data (hr : seg.flags.has .rst = false) (hy : seg.flags.has .syn = false)
    (hs : k.acked seg = k.state ∨ (k.acked seg).isOver = false) (hp : seg.payload ≠ [])
    (hm : (k.acked seg).mayReceive = true) (b : BoundedBuffer)
    (hb : k.buffer.extend? seg.payload = some b) :
    Taken seg
      { k with
        state := k.acked seg
        expected := k.expected + UInt32.ofNat seg.payload.length
        owesAck := true
        buffer := b.drain.2 }
      { deliver := some b.drain.1, fin := seg.flags.has .fin }

theorem takeData_cases {seg : Segment} (hr : seg.flags.has .rst = false)
    (hy : seg.flags.has .syn = false)
    (hs : k.acked seg = k.state ∨ (k.acked seg).isOver = false) :
    let r := takeData { k with state := k.acked seg } seg.seq seg.payload (seg.flags.has .fin)
    k.Taken seg r.1 r.2 := by
  unfold takeData
  split
  · rename_i hp
    exact .empty hr hy hs (List.isEmpty_iff.mp hp)
  · rename_i hp
    rw [List.isEmpty_iff] at hp
    split
    · rename_i hm
      split
      · rename_i hb
        exact .overflow hr hy hs hp hm hb
      · rename_i b hb
        exact .data hr hy hs hp hm b hb
    · rename_i hm
      exact .dropped hr hy hs hp (Bool.eq_false_iff.mpr hm)

/-- **What is done with a segment** is one of these things. -/
theorem take_cases (seg : Segment) : k.Taken seg (k.take seg).1 (k.take seg).2 := by
  have hd := @takeData_cases k seg
  unfold take
  split
  · rename_i hr
    exact .reset hr
  · rename_i hr
    rw [Bool.not_eq_true] at hr
    split
    · rename_i hy
      exact .syn hr hy
    · rename_i hy
      rw [Bool.not_eq_true] at hy
      split
      · rename_i ha
        have hk : k.acknowledged seg.ack = k.acked seg := (if_pos ha).symm
        rw [hk]
        dsimp only
        split
        · rename_i ho
          exact .ends hr hy ((k.acked_eq_or_mem seg).resolve_left (Ne.symm ho.1)) ho.2
        · rename_i ho
          refine hd hr hy ?_
          by_cases he : k.acked seg = k.state
          · exact .inl he
          · exact .inr (Bool.eq_false_iff.mpr fun h => ho ⟨Ne.symm he, h⟩)
      · rename_i ha
        have hk : k.acked seg = k.state := if_neg ha
        have ht := hd hr hy (.inl hk)
        rw [hk] at ht
        exact ht

/-- What a control block has done with a segment whose data it gives out. -/
theorem take_eq_of_deliver {seg : Segment} {data : Bytes} (hd : (k.take seg).2.deliver = some data) :
    (k.acked seg).mayReceive = true ∧ ∃ b, k.buffer.extend? seg.payload = some b ∧ data = b.drain.1 ∧
      k.take seg =
        ({ k with
            state := k.acked seg
            expected := k.expected + UInt32.ofNat seg.payload.length
            owesAck := true
            buffer := b.drain.2 },
          { deliver := some data, fin := seg.flags.has .fin }) := by
  have hk := k.take_cases seg
  rcases hr : k.take seg with ⟨k', o⟩
  rw [hr] at hk hd
  dsimp only at hk hd
  cases hk with
  | data hr hy hs hp hm b hb =>
    obtain rfl := Option.some.inj hd
    exact ⟨hm, b, hb, rfl, rfl⟩
  | syn =>
    unfold repeatSyn at hd
    split_ifs at hd
  | _ => cases hd

/-! ## The end of a segment -/

/-- What a control block may do at the end of a segment; `true` for one with a FIN. -/
inductive Finished : Bool → Control → Outcome → Prop
  | passive (hs : k.state = .established) :
    Finished true
      { k with
        state := .lastAck, next := k.next + 1, expected := k.expected + 1, owesAck := false }
      { reply := some { k.header (.fin ||| .ack) with ack := k.expected + 1 }, ended := true }
  | closing (hs : k.state = .finWait1) :
    Finished true { k with state := .closing, expected := k.expected + 1, owesAck := false }
      { reply := some { k.header .ack with ack := k.expected + 1 }, ended := true }
  | ends (hs : k.state = .finWait2) :
    Finished true { k with state := .timeWait, expected := k.expected + 1, owesAck := false }
      { reply := some { k.header .ack with ack := k.expected + 1 }, ended := true
        teardown := true }
  | ignored (hs : k.state ≠ .established) (hs₁ : k.state ≠ .finWait1) (hs₂ : k.state ≠ .finWait2) :
    Finished true { k with owesAck := false } { notice := some (.finIgnored k.state) }
  | ack (ho : k.owesAck = true) :
    Finished false { k with owesAck := false } { reply := some (k.header .ack) }
  | nothing (ho : k.owesAck = false) : Finished false k {}

/-- **What is done at the end of a segment** is one of these things. -/
theorem finish_cases (fin : Bool) : k.Finished fin (k.finish fin).1 (k.finish fin).2 := by
  unfold finish
  cases fin with
  | false =>
    rw [if_neg (by decide)]
    split
    · rename_i ho
      exact .ack ho
    · rename_i ho
      exact .nothing (Bool.eq_false_iff.mpr ho)
  | true =>
    rw [if_pos rfl]
    unfold finished
    dsimp only
    split
    · rename_i hs
      exact .passive hs
    · rename_i hs
      exact .closing hs
    · rename_i hs
      exact .ends hs
    · rename_i hs hs₁ hs₂
      exact .ignored hs hs₁ hs₂

/-! ## Segments of the host -/

theorem flags_header (f : Flags) : (k.header f).flags = f := rfl

variable {k} in
theorem closeHeader?_eq_some {t : Header} (ht : k.closeHeader? = some t) :
    k.state.mayClose = true ∧ t = k.header (.fin ||| .psh ||| .ack) := by
  unfold closeHeader? at ht
  split_ifs at ht with hm
  exact ⟨hm, (Option.some.inj ht).symm⟩

end Control

end InetHost.Tcp
