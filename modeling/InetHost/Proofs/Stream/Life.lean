import InetHost.Proofs.Stream.Growth

/-!
# The life of a connection

All that happens to one connection can be told without the others, as its control block and the events
that concern it. Between two of them the application may have done anything, to this connection too.

* `Event.concerns`: the events of a connection, and all segments that came in;
* `Life c s d k j`: connection `c` may come to have the control block `k` when `j` has happened;
* **`Traffic.lives`**: every connection of a switchboard has a life;
* **`Visited.life`**: and so has every connection of a host.
-/

namespace InetHost

open Tcp Switchboard

/-- An event of a connection, or a segment that came in. -/
def Event.concerns (c : ConnId) : Event → Bool
  | .arrived _ _ => true
  | e => e.about == some c

/-! ## Lives -/

/-- The events of a step of a control block with its data, the last first. -/
def entries (c : ConnId) (s : Stream) (d : DeviceId) (k : Control) (r : Control × Outcome)
    (b : Bool) : List Event :=
  r.2.deliver.toList.map (.delivered c) ++ answers c s d k r b

/-- **A connection may come to have a control block** when some events have happened. -/
inductive Life (c : ConnId) (s : Stream) (d : DeviceId) : Control → List Event → Prop
  | opened {j : List Event} {seg : Segment} (cap : Nat) (b : Bool)
    (hj : ∀ e ∈ j, e.about ≠ some c) (ha : .arrived s seg ∈ j)
    (hy : seg.flags.has .syn = true) :
    Life c s d (Control.accept seg.seq cap).1
      (.emitted (some c) d s (Control.accept seg.seq cap).2 [] b :: .opened c s seg.seq :: j)
  | arrived {k : Control} {j : List Event} (hl : Life c s d k j) (s' : Stream) (seg : Segment) :
    Life c s d k (.arrived s' seg :: j)
  | took {k : Control} {j : List Event} {seg : Segment} (hl : Life c s d k (.arrived s seg :: j))
    (b : Bool) :
    Life c s d (k.take seg).1 (entries c s d k (k.take seg) b ++ .arrived s seg :: j)
  | finished {k : Control} {j : List Event} (hl : Life c s d k j) (fin b : Bool) :
    Life c s d (k.finish fin).1 (entries c s d k (k.finish fin) b ++ j)
  | failed {k : Control} {j : List Event} (hl : Life c s d k j) (t : Header) (data : Bytes)
    (ht : k.state.maySend = true ∧ t = k.dataHeader ∨ k.closeHeader? = some t ∧ data = []) :
    Life c s d k (.emitted (some c) d s t data false :: j)
  | sent {k : Control} {j : List Event} (hl : Life c s d k j) (hm : k.state.maySend = true)
    (data : Bytes) :
    Life c s d (k.sent data.length) (.emitted (some c) d s k.dataHeader data true :: j)
  | closed {k : Control} {j : List Event} {t : Header} (hl : Life c s d k j)
    (ht : k.closeHeader? = some t) :
    Life c s d k.closed (.entered c .finWait1 :: .emitted (some c) d s t [] true :: j)

/-! ### How it began -/

/-- **A connection began once**, with a SYN that has the number `isn`. -/
structure Origin (c : ConnId) (s : Stream) (isn : SeqNum) (j : List Event) : Prop where
  once : ∀ s' isn', .opened c s' isn' ∈ j ↔ s' = s ∧ isn' = isn
  syn : ∃ seg : Segment, .arrived s seg ∈ j ∧ seg.flags.has .syn = true ∧ seg.seq = isn

section

variable {c : ConnId} {s : Stream} {isn : SeqNum} {j : List Event}

theorem Origin.append (h : Origin c s isn j) (new : List Event)
    (hn : ∀ s isn, .opened c s isn ∉ new) : Origin c s isn (new ++ j) := by
  refine ⟨fun s' isn' => ?_, ?_⟩
  · rw [List.mem_append, ← h.once]
    exact or_iff_right (hn s' isn')
  · obtain ⟨seg, ha, hs⟩ := h.syn
    exact ⟨seg, List.mem_append_right _ ha, hs⟩

theorem opened_entries (c : ConnId) (s : Stream) (d : DeviceId) (k : Control)
    (r : Control × Outcome) (b : Bool) (s' : Stream) (isn : SeqNum) :
    .opened c s' isn ∉ entries c s d k r b := by
  intro hm
  rcases List.mem_append.mp hm with hm | hm
  · obtain ⟨data, -, hd⟩ := List.mem_map.mp hm
    cases hd
  · rcases mem_answers hm with ⟨t, ht⟩ | ht | ⟨-, ht⟩ <;> cases ht

theorem Origin.of_filter (h : Origin c s isn (j.filter (Event.concerns c))) : Origin c s isn j where
  once s' isn' := by
    rw [← h.once, List.mem_filter]
    exact (and_iff_left (beq_self_eq_true _)).symm
  syn := by
    obtain ⟨seg, ha, hs⟩ := h.syn
    exact ⟨seg, (List.mem_filter.mp ha).1, hs⟩

theorem Origin.opened {seg : Segment} (hj : ∀ e ∈ j, e.about ≠ some c) (ha : .arrived s seg ∈ j)
    (hy : seg.flags.has .syn = true) {e : Event} (he : ∀ s isn, e ≠ .opened c s isn) :
    Origin c s seg.seq (e :: .opened c s seg.seq :: j) := by
  refine ⟨fun s' isn' => ⟨fun hm => ?_, ?_⟩, seg, ?_, hy, rfl⟩
  · rcases List.mem_cons.mp hm with hm | hm
    · exact absurd hm.symm (he s' isn')
    rcases List.mem_cons.mp hm with hm | hm
    · injection hm with _ hs hi
      exact ⟨hs, hi⟩
    · exact absurd rfl (hj _ hm)
  · rintro ⟨rfl, rfl⟩
    exact List.mem_cons_of_mem _ List.mem_cons_self
  · exact List.mem_cons_of_mem _ (List.mem_cons_of_mem _ ha)

end

namespace Switchboard

variable {v w : Switchboard} {c : ConnId}

/-- The events that concern a connection. -/
def own (v : Switchboard) (c : ConnId) : List Event := v.history.filter (Event.concerns c)

/-! ## The connection that is worked on -/

theorem own_log (v : Switchboard) (c : ConnId) (e : Event) :
    (v.log e).own c = if e.concerns c then e :: v.own c else v.own c :=
  List.filter_cons

theorem about_of_concerns {e : Event} (he : e.concerns c = true) :
    (∃ s seg, e = .arrived s seg) ∨ e.about = some c := by
  cases e with
  | arrived s seg => exact .inl ⟨s, seg, rfl⟩
  | _ => exact .inr (beq_iff_eq.mp he)

theorem concerns_of_about {e : Event} (he : e.about = some c) : e.concerns c = true := by
  cases e with
  | arrived => rfl
  | _ => exact beq_iff_eq.mpr he

theorem own_of_history {new : List Event} (h : w.history = new ++ v.history) (c : ConnId) :
    w.own c = new.filter (Event.concerns c) ++ v.own c := by
  unfold own
  rw [h, List.filter_append]

theorem filter_changes (c : ConnId) (k k' : Control) :
    (changes c k k').filter (Event.concerns c) = changes c k k' := by
  unfold changes
  split_ifs
  · rfl
  · exact List.filter_cons_of_pos (concerns_of_about rfl)

theorem filter_answers (c : ConnId) (s : Stream) (d : DeviceId) (k : Control)
    (r : Control × Outcome) (b : Bool) :
    (answers c s d k r b).filter (Event.concerns c) = answers c s d k r b := by
  rw [List.filter_eq_self]
  intro e he
  apply concerns_of_about
  rcases mem_answers he with ⟨t, rfl⟩ | rfl | ⟨-, rfl⟩ <;> rfl

theorem filter_work (v : Switchboard) (c : ConnId) (s : Stream) (d : DeviceId) (k : Control)
    (r : Control × Outcome) (b : Bool) :
    (v.removal c r.2 ++ answers c s d k r b).filter (Event.concerns c) = answers c s d k r b := by
  have hr : (v.removal c r.2).filter (Event.concerns c) = [] := by
    unfold removal
    split
    · split
      · exact List.filter_cons_of_neg (by simp [Event.concerns, Event.about])
      · rfl
    · rfl
  rw [List.filter_append, hr, List.nil_append, filter_answers]

theorem control_setControl (v : Switchboard) (hc : c < v.lines.length) (k : Control) :
    (v.setControl c k).control c = k := by
  unfold setControl control
  split_ifs
  · rw [line_write v hc]
  · rw [line_log, line_write v hc]

theorem control_steer (v : Switchboard) (hc : c < v.lines.length) (r : Control × Outcome) :
    (v.steer c r).control c = r.1 := by
  unfold steer
  dsimp only
  split_ifs <;> exact control_setControl v hc r.1

theorem line_settle (v : Switchboard) (c : ConnId) (o : Outcome) (b : Bool) (c' : ConnId) :
    (v.settle c o b).line c' = v.line c' := by
  have hr : (v.reply c o b).line c' = v.line c' := by
    unfold reply
    split <;> rfl
  unfold settle
  dsimp only
  split_ifs
  · unfold remove
    split <;> exact hr
  · exact hr

theorem control_work (v : Switchboard) (hc : c < v.lines.length) (r : Control × Outcome) (b : Bool) :
    ((v.steer c r).settle c r.2 b).control c = r.1 := by
  rw [control, line_settle, ← control, control_steer v hc]

theorem control_deliver (v : Switchboard) (c : ConnId) (o : Outcome) (c' : ConnId) :
    (v.deliver c o).control c' = v.control c' := by
  unfold deliver
  split <;> rfl

theorem control_take (v : Switchboard) (hc : c < v.lines.length) (seg : Segment) (b : Bool) :
    (v.take c seg b).control c = ((v.control c).take seg).1 :=
  (control_deliver _ c _ c).trans (control_work v hc _ b)

theorem own_work (v : Switchboard) (c : ConnId) (r : Control × Outcome) (b : Bool) :
    ((v.steer c r).settle c r.2 b).own c =
      answers c (v.line c).stream (v.line c).device (v.control c) r b ++ v.own c := by
  have hw := history_work v c r b
  rw [← List.append_assoc] at hw
  rw [own_of_history hw, filter_work]

theorem own_take (v : Switchboard) (c : ConnId) (seg : Segment) (b : Bool) :
    (v.take c seg b).own c = entries c (v.line c).stream (v.line c).device (v.control c)
      ((v.control c).take seg) b ++ v.own c := by
  unfold take entries
  dsimp only
  rw [own_of_history (history_deliver ..), own_work, List.append_assoc, List.filter_eq_self.mpr]
  intro e he
  obtain ⟨data, -, rfl⟩ := List.mem_map.mp he
  exact concerns_of_about rfl

theorem control_finish (v : Switchboard) (hc : c < v.lines.length) (fin b : Bool) :
    (v.finish c fin b).control c = ((v.control c).finish fin).1 :=
  control_work v hc _ b

theorem own_finish (v : Switchboard) (c : ConnId) (fin b : Bool) :
    (v.finish c fin b).own c = entries c (v.line c).stream (v.line c).device (v.control c)
      ((v.control c).finish fin) b ++ v.own c := by
  have hd : ((v.control c).finish fin).2.deliver = none := by
    have hk := (v.control c).finish_cases fin
    revert hk
    generalize ((v.control c).finish fin).1 = k', ((v.control c).finish fin).2 = o
    intro hk
    cases hk <;> rfl
  unfold finish entries
  dsimp only
  rw [own_work, hd]
  rfl

theorem own_advance (v : Switchboard) (c : ConnId) (t : Header) (data : Bytes) (k : Control)
    (b : Bool) : (v.advance c t data k b).own c =
      (if b then changes c (v.control c) k else []) ++
        .emitted (some c) (v.line c).device (v.line c).stream t data b :: v.own c := by
  have ha : (v.advance c t data k b).history = ((if b then changes c (v.control c) k else []) ++
      [.emitted (some c) (v.line c).device (v.line c).stream t data b]) ++ v.history := by
    rw [history_advance, List.append_assoc]
    rfl
  rw [own_of_history ha, List.filter_append, List.append_assoc,
    List.filter_cons_of_pos (concerns_of_about rfl)]
  cases b with
  | false => rfl
  | true => exact congrArg (· ++ _) (filter_changes ..)

theorem control_advance (v : Switchboard) (hc : c < v.lines.length) (t : Header) (data : Bytes)
    (k : Control) (b : Bool) :
    (v.advance c t data k b).control c = if b then k else v.control c := by
  unfold advance
  cases b with
  | false => rfl
  | true => exact control_setControl (v.emit c t data true) hc k

/-! ## All connections -/

/-- Every connection of a switchboard has a life. -/
structure Lives (v : Switchboard) : Prop where
  registered : ∀ s c, v.stream? s = some c → c < v.lines.length ∧ (v.line c).stream = s
  known : ∀ e ∈ v.history, ∀ c, e.about = some c → c < v.lines.length
  life : ∀ c < v.lines.length, Life c (v.line c).stream (v.line c).device (v.control c) (v.own c)

theorem Acts.own_eq (h : Acts c v w) {c' : ConnId} (hc : c' ≠ c) : w.own c' = v.own c' := by
  obtain ⟨new, he, hn⟩ := h.history
  unfold own
  rw [he, List.filter_append, List.filter_eq_nil_iff.mpr, List.nil_append]
  intro e hm he
  rcases about_of_concerns he with ⟨s, seg, rfl⟩ | he
  · rcases hn _ hm with hx | ⟨_, _, hx⟩ <;> cases hx
  · rcases hn _ hm with hx | ⟨_, _, rfl⟩
    · exact hc (Option.some.inj (he.symm.trans hx))
    · cases he

theorem Lives.log (h : Lives v) {e : Event} (he : e.about = none)
    (ha : ∀ c, e.concerns c = false) : Lives (v.log e) where
  registered := h.registered
  known e' hm c hc := by
    rcases List.mem_cons.mp hm with rfl | hm
    · rw [he] at hc
      cases hc
    · exact h.known e' hm c hc
  life c hc := by
    rw [own_log, ha, if_neg (by decide)]
    exact h.life c hc

theorem Lives.arrived (h : Lives v) (s : Stream) (seg : Segment) :
    Lives (v.log (.arrived s seg)) where
  registered := h.registered
  known e' hm c hc := by
    rcases List.mem_cons.mp hm with rfl | hm
    · cases hc
    · exact h.known e' hm c hc
  life c hc := (h.life c hc).arrived s seg

/-- Where one connection goes on with its life, so do all. -/
theorem Lives.acts (h : Lives v) (ha : Acts c v w) (hc : c < v.lines.length)
    (hl : Life c (v.line c).stream (v.line c).device (w.control c) (w.own c)) : Lives w where
  registered s c' hs := by
    rw [ha.length, ha.stream]
    exact h.registered s c' (ha.registry s c' hs)
  known e hm c' he := by
    rw [ha.length]
    obtain ⟨new, hh, hn⟩ := ha.history
    rw [hh] at hm
    rcases List.mem_append.mp hm with hm | hm
    · rcases hn e hm with hx | ⟨_, _, rfl⟩
      · rwa [← Option.some.inj (hx.symm.trans he)]
      · cases he
    · exact h.known e hm c' he
  life c' hc' := by
    rw [ha.length] at hc'
    rw [ha.stream, ha.device]
    by_cases hcc : c' = c
    · rw [hcc]
      exact hl
    · rw [ha.own_eq hcc, ha.control_eq hcc]
      exact h.life c' hc'

/-! ### A new connection -/

theorem filter_replacement (v : Switchboard) (s : Stream) (c : ConnId) :
    (v.replacement s ++ v.history).filter (Event.concerns c) = v.own c := by
  rw [List.filter_append, List.filter_eq_nil_iff.mpr, List.nil_append]
  · rfl
  · intro e he
    obtain ⟨_, rfl⟩ := mem_replacement he
    simp [Event.concerns, Event.about]

theorem own_connect (s : Stream) (d : DeviceId) (isn : SeqNum) (b : Bool)
    (hc : c < v.lines.length) : (v.connect s d isn b).own c = v.own c := by
  have hn : ¬ v.lines.length = c := (Nat.ne_of_lt hc).symm
  rw [← filter_replacement v s c, own, history_connect]
  simp [Event.concerns, Event.about, hn]

theorem own_connect_self (v : Switchboard) (s : Stream) (d : DeviceId) (isn : SeqNum) (b : Bool) :
    (v.connect s d isn b).own v.lines.length =
      .emitted (some v.lines.length) d s (Control.accept isn v.capacity).2 [] b ::
        .opened v.lines.length s isn :: v.own v.lines.length := by
  rw [← filter_replacement v s v.lines.length, own, history_connect]
  simp [Event.concerns, Event.about]

theorem Lives.registered_connect (h : Lives v) (s : Stream) (d : DeviceId) (isn : SeqNum) (b : Bool)
    (s' : Stream) (hs : (v.connect s d isn b).stream? s' = some c) :
    c < (v.connect s d isn b).lines.length ∧ ((v.connect s d isn b).line c).stream = s' := by
  rw [stream?_connect] at hs
  rw [length_connect]
  split_ifs at hs with hss
  · obtain rfl := Option.some.inj hs
    rw [line_connect_self]
    exact ⟨Nat.lt_succ_self _, hss.symm⟩
  · obtain ⟨hc, hl⟩ := h.registered s' c hs
    rw [line_connect s d isn b hc]
    exact ⟨Nat.lt_succ_of_lt hc, hl⟩

theorem Lives.known_connect (h : Lives v) (s : Stream) (d : DeviceId) (isn : SeqNum) (b : Bool)
    {e : Event} (hm : e ∈ (v.connect s d isn b).history) (he : e.about = some c) :
    c < (v.connect s d isn b).lines.length := by
  rw [length_connect]
  rw [history_connect] at hm
  rcases List.mem_cons.mp hm with rfl | hm
  · obtain rfl := Option.some.inj he
    exact Nat.lt_succ_self _
  rcases List.mem_cons.mp hm with rfl | hm
  · obtain rfl := Option.some.inj he
    exact Nat.lt_succ_self _
  rcases List.mem_append.mp hm with hm | hm
  · obtain ⟨_, rfl⟩ := mem_replacement hm
    cases he
  · exact Nat.lt_succ_of_lt (h.known e hm c he)

theorem Lives.connect (h : Lives v) {s : Stream} {seg : Segment} (d : DeviceId) (b : Bool)
    (ha : .arrived s seg ∈ v.history) (hy : seg.flags.has .syn = true) :
    Lives (v.connect s d seg.seq b) where
  registered s' _ hs := h.registered_connect s d seg.seq b s' hs
  known _ hm _ he := h.known_connect s d seg.seq b hm he
  life c hc := by
    rw [length_connect] at hc
    unfold control
    rcases Nat.lt_succ_iff_lt_or_eq.mp hc with hc | rfl
    · rw [line_connect s d seg.seq b hc, own_connect s d seg.seq b hc]
      exact h.life c hc
    · rw [line_connect_self, own_connect_self]
      refine .opened v.capacity b (fun e he hx => ?_) ?_ hy
      · exact Nat.lt_irrefl _ (h.known e (List.mem_filter.mp he |>.1) _ hx)
      · exact List.mem_filter.mpr ⟨ha, rfl⟩

end Switchboard

open Switchboard

theorem Event.about_of_isCall {e : Event} (he : e.isCall = true) :
    e.about = none ∧ ∀ c, e.concerns c = false := by
  cases e <;> first | exact ⟨rfl, fun _ => rfl⟩ | cases he

namespace Switchboard

variable {v w : Switchboard} {c : ConnId}

theorem Lives.take (h : Lives v) {s : Stream} {seg : Segment} (hs : v.stream? s = some c)
    (b : Bool) : Lives ((v.log (.arrived s seg)).take c seg b) := by
  obtain ⟨hc, hl⟩ := h.registered s c hs
  have ha := h.arrived s seg
  have hk := ha.life c hc
  rw [line_log, hl] at hk
  refine ha.acts (acts_take c seg b _) hc ?_
  rw [control_take (v.log (.arrived s seg)) hc, own_take, line_log, hl]
  exact hk.took b

theorem Lives.finish (h : Lives v) (hc : c < v.lines.length) (fin b : Bool) :
    Lives (v.finish c fin b) := by
  refine h.acts (acts_finish c fin b v) hc ?_
  rw [control_finish v hc, own_finish]
  exact (h.life c hc).finished fin b

theorem Lives.advance (h : Lives v) (hc : c < v.lines.length) {t : Header} {data : Bytes}
    {k : Control} {b : Bool} (hl : Life c (v.line c).stream (v.line c).device
      (if b then k else v.control c) ((if b then changes c (v.control c) k else []) ++
        .emitted (some c) (v.line c).device (v.line c).stream t data b :: v.own c)) :
    Lives (v.advance c t data k b) := by
  refine h.acts (acts_advance c t data k b v) hc ?_
  rw [control_advance v hc, own_advance]
  exact hl

theorem Lives.send (h : Lives v) (hc : c < v.lines.length)
    (hm : (v.control c).state.maySend = true) (data : Bytes) (b : Bool) :
    Lives (v.send c data b) := by
  have hl := h.life c hc
  refine h.advance hc ?_
  cases b with
  | false => exact hl.failed _ data (.inl ⟨hm, rfl⟩)
  | true =>
    have hk : changes c (v.control c) ((v.control c).sent data.length) = [] := if_pos rfl
    rw [if_pos rfl, if_pos rfl, hk]
    exact hl.sent hm data

theorem Lives.shut (h : Lives v) (hc : c < v.lines.length) {t : Header}
    (ht : (v.control c).closeHeader? = some t) (b : Bool) : Lives (v.shut c t b) := by
  have hl := h.life c hc
  refine h.advance hc ?_
  cases b with
  | false => exact hl.failed t [] (.inr ⟨ht, rfl⟩)
  | true =>
    have hs : (v.control c).closed.state ≠ (v.control c).state := by
      intro hk
      unfold Control.closeHeader? at ht
      rw [← hk] at ht
      cases ht
    rw [if_pos rfl, if_pos rfl, changes, if_neg hs]
    exact hl.closed ht

end Switchboard

/-- **Traffic is part of every connection's life.** -/
theorem Traffic.lives {e : Bool} {v w : Switchboard} (ht : Traffic e v w) (h : Lives v) :
    Lives w := by
  induction ht with
  | refl | cut => exact h
  | trans _ _ h₁ h₂ => exact h₂ (h₁ h)
  | call v e he =>
    obtain ⟨hn, hc⟩ := Event.about_of_isCall he
    exact h.log hn hc
  | send hs hm data b => exact h.send (h.registered _ _ hs).1 hm data b
  | shut hs ht b => exact h.shut (h.registered _ _ hs).1 ht b
  | ignore => exact h.arrived ..
  | refuse => exact (h.arrived ..).log rfl fun _ => rfl
  | accepting _ _ ih => exact ih (h.arrived ..)
  | accept _ _ hy _ d b _ ha ih =>
    exact (ih (h.arrived ..)).connect d b (ha.grows.history.mem List.mem_cons_self) hy
  | ends hs _ b => exact h.take hs b
  | reading hs _ b _ ih => exact ih (h.take hs b)
  | receive hs _ b b' ha ih =>
    have hc := ((grows_log ..).trans (acts_take ..).grows).trans ha.grows |>.length
    exact (ih (h.take hs b)).finish (Nat.lt_of_lt_of_le (h.registered _ _ hs).1 hc) _ b'

/-! ## Hosts -/

namespace Host

variable {h : Host}

theorem board_start {s : Setup} (hs : start s = .ok h) :
    h.board.lines = [] ∧ h.board.streams = [] ∧ h.board.history = [] := by
  have hf := fresh_start hs
  unfold board
  rw [hf.connections, hf.streams, hf.journal]
  exact ⟨rfl, rfl, rfl⟩

theorem lives_start {s : Setup} (hs : start s = .ok h) : Lives h.board := by
  obtain ⟨h₁, h₂, h₃⟩ := board_start hs
  refine ⟨fun s c hc => ?_, fun e he => ?_, fun c hc => ?_⟩
  · unfold Switchboard.stream? at hc
    rw [h₂] at hc
    cases hc
  · rw [h₃] at he
    cases he
  · rw [h₁] at hc
    cases hc

theorem Visited.lives (hv : Visited h) : Lives h.board := by
  obtain ⟨s, h₀, e, hs, hl⟩ := hv
  exact (traffic_leads hl).lives (lives_start hs)

/-- A connection that can be found is the host's, and it is between the ends where it is found. -/
theorem Visited.registered (hv : Visited h) {s : Stream} {c : ConnId} (hc : h.stream? s = some c) :
    c < h.connections.length ∧ (h.connection c).stream = s := by
  have hr := hv.lives.registered s c hc
  rw [length_lines_board, line_board] at hr
  exact hr

theorem filter_concerns (c : ConnId) (j : List Event) :
    (j.filter Event.onBoard).filter (Event.concerns c) = j.filter (Event.concerns c) := by
  rw [List.filter_filter]
  congr 1
  funext e
  cases e with
  | emitted | opened | delivered | ended | entered => exact Bool.and_true _
  | _ => rfl

theorem own_board (h : Host) (c : ConnId) : h.board.own c = h.journal.filter (Event.concerns c) :=
  filter_concerns c h.journal

/-- **Every connection of a host has a life.** -/
theorem Visited.life (hv : Visited h) {c : ConnId} (hc : c < h.connections.length) :
    Life c (h.connection c).stream (h.connection c).device (h.connection c).control
      (h.journal.filter (Event.concerns c)) := by
  have hl := hv.lives.life c (by rwa [length_lines_board])
  rwa [own_board, control_board, line_board] at hl

theorem Visited.lt_of_about (hv : Visited h) {c : ConnId} {e : Event} (hm : e ∈ h.journal)
    (he : e.about = some c) : c < h.connections.length := by
  have hb : e ∈ h.board.history := by
    refine List.mem_filter.mpr ⟨hm, ?_⟩
    cases e <;> first | rfl | cases he
  rw [← length_lines_board]
  exact hv.lives.known e hb c he

/-- What is so in every life of a connection is so in the journal. -/
theorem Visited.justified (hv : Visited h) {P : Stream → List Event → Event → Prop} {c : ConnId}
    (hP : ∀ {s d k j}, Life c s d k j → Justified (P s) j) {newer older : List Event} {e : Event}
    (hj : h.journal = newer ++ e :: older) (he : e.about = some c) :
    P (h.connection c).stream (older.filter (Event.concerns c)) e := by
  have hc := hv.lt_of_about (hj ▸ List.mem_append_right _ List.mem_cons_self) he
  exact (hP (hv.life hc)).filter hj (concerns_of_about he)

end Host

end InetHost
