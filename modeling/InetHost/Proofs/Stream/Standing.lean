import InetHost.Proofs.Stream.Place

/-!
# Why a connection leaves its place

A connection stays between its two ends until it is over, with one exception. While a listener makes up
its mind about a SYN, another SYN for the same place may come in and be accepted. The connection that it
opens loses its place as soon as the first SYN is accepted too.

* `Overtaken`: a connection was opened while another SYN was waiting for its place;
* `Stands`: why an event may happen where it stands; **`Traffic.stands`**: all events of all traffic do;
* `Leaves`, `stateAt`, `StaysUntilLeaves`: what this says of a host's connections;
* **`Visited.staysUntilLeaves`**: so it is on every host; `overtaking` shows the exception.
-/

namespace InetHost

open Tcp Switchboard

/-! ## Where an event may stand -/

/-- A connection was opened while another SYN was waiting for the same place. -/
def Overtaken (c : ConnId) (s : Stream) (j : List Event) : Prop :=
  ∃ isn newer older, j = newer ++ .opened c s isn :: older ∧ 2 ≤ waiting s older

/-- A connection has a control block when some events have happened. -/
def Holds (c : ConnId) (s : Stream) (k : Control) (j : List Event) : Prop :=
  ∃ d, Life c s d k (j.filter (Event.concerns c))

/-- **Why an event may happen.** A SYN that waits opens a new connection where nobody is. Who is between
two ends loses the place to a new connection, or is removed when it is over. A connection sends from its
place, but for an acknowledgement that it owes when it is over already; a SYN is refused at once. -/
def Stands (j : List Event) : Event → Prop
  | .opened c s _ => registrant s j = none ∧ 0 < waiting s j ∧ ∀ e ∈ j, e.about ≠ some c
  | .replaced c s => registrant s j = some c ∧ Overtaken c s j
  | .removed c s decided => c = decided ∧ registrant s j = some c ∧
      ∃ k, Holds c s k j ∧ k.state.isOver = true
  | .emitted (some c) _ s t data _ => registrant s j = some c ∨ t.flags = .ack ∧ data = [] ∧
      ∃ k, Holds c s k j ∧ k.state.isOver = true ∧ k.owesAck = true
  | .emitted none _ s _ _ _ => ∃ seg newer older, j = newer ++ .arrived s seg :: older ∧
      seg.flags.has .syn = true ∧ ∀ e ∈ newer, e.places = false
  | _ => True

/-- What is known of a switchboard at all times. -/
structure Kept (v : Switchboard) : Prop where
  lives : Lives v
  tidy : Tidy v
  seated : Seated v

section

variable {v w : Switchboard} {c : ConnId} {s : Stream} {e : Bool}

theorem Traffic.kept (ht : Traffic e v w) (h : Kept v) : Kept w :=
  ⟨ht.lives h.lives, (ht.tidy h.lives h.tidy).1, ht.seated h.seated⟩

theorem Kept.arrived (h : Kept v) (s : Stream) (seg : Segment) : Kept (v.log (.arrived s seg)) :=
  ⟨h.lives.arrived s seg, h.tidy.arrived s seg, h.seated.log fun _ => rfl⟩

theorem Kept.take (h : Kept v) (hs : v.stream? s = some c) (seg : Segment) (b : Bool) :
    Kept ((v.log (.arrived s seg)).take c seg b) :=
  ⟨h.lives.take hs b, (h.tidy.take h.lives hs seg b).1, h.seated.take ..⟩

/-! ## Steps of a control block -/

theorem registrant_quiet {new j : List Event} (hj : registrant s j = some c)
    (hn : ∀ e ∈ new, e.places = false) : registrant s (new ++ j) = some c :=
  (placing_append hn s).1.trans hj

theorem stands_answers {j : List Event} (hj : Justified Stands j) (hc : registrant s j = some c)
    (d : DeviceId) (k : Control) (r : Control × Outcome) (b : Bool) :
    Justified Stands (answers c s d k r b ++ j) := by
  have hq : Justified Stands (((if r.2.ended then [.ended c] else []) ++ changes c k r.1) ++ j) := by
    refine hj.append fun e he older => ?_
    rcases List.mem_append.mp he with he | he
    · split_ifs at he
      · rw [List.mem_singleton.mp he]
        trivial
      · cases he
    · rw [(mem_changes he).2]
      trivial
  have hp : ∀ e ∈ answers c s d k r b, e.places = false := places_answers
  unfold answers at hp ⊢
  rw [List.append_assoc]
  cases r.2.reply with
  | none => exact hq
  | some t =>
    exact hq.cons (Or.inl (registrant_quiet hc fun e he => hp e (List.mem_append_right _ he)))

theorem stands_work (hj : Justified Stands v.history) (h : Seated v)
    (hs : v.stream? (v.line c).stream = some c) {r : Control × Outcome} (hr : Suits v c r) (b : Bool)
    (hl : r.2.teardown = true → Life c (v.line c).stream (v.line c).device r.1
      (answers c (v.line c).stream (v.line c).device (v.control c) r b ++ v.own c)) :
    Justified Stands ((v.steer c r).settle c r.2 b).history := by
  have hc : registrant (v.line c).stream v.history = some c := (h.found _).symm.trans hs
  have ha := stands_answers hj hc (v.line c).device (v.control c) r b
  rw [history_work]
  unfold removal
  split_ifs with ht
  · rw [hs]
    refine ha.cons ⟨rfl, registrant_quiet hc places_answers, r.1, ⟨(v.line c).device, ?_⟩, hr.ended ht⟩
    rw [List.filter_append, filter_answers]
    exact hl ht
  · exact ha

theorem stands_over (hj : Justified Stands v.history) (hl : Lives v) (hc : c < v.lines.length)
    (ho : (v.control c).state.isOver = true) (fin b : Bool) :
    Justified Stands (v.finish c fin b).history := by
  have hh := history_work v c ((v.control c).finish fin) b
  have hf : Life c (v.line c).stream (v.line c).device (v.control c)
      (v.history.filter (Event.concerns c)) := hl.life c hc
  unfold Switchboard.finish
  rw [hh]
  unfold removal answers changes
  have hk := (v.control c).finish_cases fin
  generalize (v.control c).finish fin = r at hk ⊢
  obtain ⟨k', o⟩ := r
  dsimp only at hk ⊢
  cases hk with
  | passive hs | closing hs | ends hs =>
    rw [hs] at ho
    cases ho
  | ignored | nothing =>
    rw [if_pos rfl]
    exact hj
  | ack ha =>
    rw [if_pos rfl]
    exact hj.cons (Or.inr ⟨rfl, rfl, _, ⟨_, hf⟩, ho, ha⟩)

theorem stands_take (hj : Justified Stands v.history) (h : Kept v) (hs : v.stream? s = some c)
    (seg : Segment) (b : Bool) :
    Justified Stands ((v.log (.arrived s seg)).take c seg b).history := by
  obtain ⟨hc, rfl⟩ := h.lives.registered s c hs
  have ha := h.arrived (v.line c).stream seg
  have hl := ((ha.lives.life c hc).took b : Life c _ _ _ _)
  have hw := stands_work (v := v.log (.arrived (v.line c).stream seg)) (hj.cons trivial) ha.seated hs
    (Suits.take ha.tidy hs seg) b fun ht => by
      unfold entries at hl
      rw [Host.deliver_of_teardown ht] at hl
      exact hl
  unfold Switchboard.take
  rw [history_deliver]
  refine hw.append fun e he older => ?_
  obtain ⟨data, -, rfl⟩ := List.mem_map.mp he
  trivial

/-! ## Traffic -/

/-- Whoever is there when a listener has made up its mind was opened during its turn, when its SYN was
waiting too. -/
theorem overtaken_of_waits {seg : Segment} {old : ConnId} (h : Kept v) (hs : v.stream? s = none)
    (ha : seg.asks = true) (hw : Waits true (v.log (.arrived s seg)) w)
    (ho : registrant s w.history = some old) : Overtaken old s w.history := by
  obtain ⟨new, hnew, hopen⟩ := hw.opens
  rw [hnew] at ho
  have hne : registrant s (v.log (.arrived s seg)).history ≠ some old := by
    rw [← (h.arrived s seg).seated.found s]
    exact fun hx => by cases hs.symm.trans hx
  obtain ⟨isn, newer, older, rfl⟩ := exists_opened ho hne
  have hlt : waiting s (v.log (.arrived s seg)).history <
      waiting s (older ++ (v.log (.arrived s seg)).history) := hopen.at rfl
  rw [waiting_asked h.seated hs ha, if_pos rfl] at hlt
  refine ⟨isn, newer, older ++ (v.log (.arrived s seg)).history, ?_, ?_⟩
  · rw [hnew, List.append_assoc]
    rfl
  · exact Nat.lt_of_le_of_lt (Nat.le_add_left 1 _) hlt

theorem stands_connect {seg : Segment} (hj : Justified Stands w.history) (h : Kept v)
    (hs : v.stream? s = none) (ha : seg.asks = true)
    (ht : Traffic true (v.log (.arrived s seg)) w) (d : DeviceId) (b : Bool) :
    Justified Stands (w.connect s d seg.seq b).history := by
  have hv := h.arrived s seg
  have hw := ht.waits hv.seated
  have hn : waiting s w.history = waiting s v.history + 1 := by
    rw [hw.done rfl, waiting_asked h.seated hs ha, if_pos rfl]
  have hr : registrant s (w.replacement s ++ w.history) = none ∧
      Justified Stands (w.replacement s ++ w.history) := by
    unfold replacement
    cases hc : w.stream? s with
    | none => exact ⟨((ht.kept hv).seated.found s).symm.trans hc, hj⟩
    | some old =>
      have ho : registrant s w.history = some old := ((ht.kept hv).seated.found s).symm.trans hc
      refine ⟨?_, hj.cons ⟨ho, overtaken_of_waits h hs ha hw ho⟩⟩
      simp
  rw [history_connect]
  have ho : Stands (w.replacement s ++ w.history) (.opened w.lines.length s seg.seq) := by
    refine ⟨hr.1, ?_, fun e he hx => ?_⟩
    · rw [placing_replacement, hn]
      exact Nat.succ_pos _
    · rcases List.mem_append.mp he with he | he
      · obtain ⟨_, rfl⟩ := mem_replacement he
        cases hx
      · exact Nat.lt_irrefl _ ((ht.kept hv).lives.known e he _ hx)
  exact (hr.2.cons ho).cons (Or.inl (by simp))

theorem stands_advance (hj : Justified Stands v.history) (h : Kept v) (hs : v.stream? s = some c)
    (t : Header) (data : Bytes) (k : Control) (b : Bool) :
    Justified Stands (v.advance c t data k b).history := by
  obtain ⟨-, rfl⟩ := h.lives.registered s c hs
  have ht : Stands v.history (.emitted (some c) (v.line c).device (v.line c).stream t data b) :=
    .inl ((h.seated.found _).symm.trans hs)
  rw [history_advance]
  refine (hj.cons ht).append fun e he older => ?_
  split_ifs at he
  · rw [(mem_changes he).2]
    trivial
  · cases he

/-- **Every event has a reason to happen where it stands.** -/
theorem Traffic.stands (ht : Traffic e v w) (h : Kept v) (hj : Justified Stands v.history) :
    Justified Stands w.history := by
  induction ht with
  | refl | cut => exact hj
  | trans h₁₂ _ h₁ h₂ => exact h₂ (h₁₂.kept h) (h₁ h hj)
  | call v e he =>
    refine hj.cons ?_
    cases e with
    | accepting | reading | notifying | jobRuns | taskRuns | answered => trivial
    | _ => cases he
  | send hs hm data b => exact stands_advance hj h hs ..
  | shut hs ht b => exact stands_advance hj h hs ..
  | ignore => exact hj.cons trivial
  | refuse hs hr hy d b _ =>
    exact Justified.cons (hj.cons trivial) ⟨_, [], _, rfl, hy, List.forall_mem_nil _⟩
  | accepting _ _ ih => exact ih (h.arrived ..) (hj.cons trivial)
  | accept hs hr hy hk d b _ ha ih =>
    refine stands_connect (ih (h.arrived ..) (hj.cons trivial)) h hs ?_ ha d b
    rw [asks_of_flags hr hy, hk]
    rfl
  | ends hs _ b => exact stands_take hj h hs _ b
  | reading hs _ b _ ih => exact ih (h.take hs _ b) (stands_take hj h hs _ b)
  | @receive v w s c seg hs _ b b' ha ih =>
    have hv := h.take hs seg b
    have hw := ih hv (stands_take hj h hs seg b)
    have hk := ha.kept hv
    have hg := ((grows_log ..).trans (acts_take ..).grows).trans ha.grows
    have hf := (h.tidy.take h.lives hs seg b).2.trans h.lives
      ((grows_log ..).trans (acts_take ..).grows) (ha.tidy hv.lives hv.tidy).2
    obtain ⟨hc, rfl⟩ := h.lives.registered s c hs
    have hc' : c < w.lines.length := Nat.lt_of_lt_of_le hc hg.length
    rcases hf.kept _ c hs with hs' | ho
    · rw [← hg.stream c hc] at hs'
      have hl := (hk.lives.life c hc').finished ((v.control c).take seg).2.fin b'
      refine stands_work hw hk.seated hs' (Suits.finish (.inl hs') _) b' fun _ => ?_
      rw [← own_finish] at hl
      exact (own_work ..).symm ▸ hl
    · exact stands_over hw hk.lives hc' ho _ b'

end

/-! ## The journal -/

section

variable {c : ConnId} {s : Stream} {j : List Event} {e : Event}

theorem onBoard_of_about (he : e.about = some c) : e.onBoard = true := by
  cases e with
  | opened | delivered | ended | entered | emitted => rfl
  | _ => cases he

theorem Overtaken.of_filter (h : Overtaken c s (j.filter Event.onBoard)) : Overtaken c s j := by
  obtain ⟨isn, new, old, hj, hw⟩ := h
  obtain ⟨newer, older, rfl, -, rfl⟩ := exists_of_filter hj
  exact ⟨isn, newer, older, rfl, by rwa [waiting_filter] at hw⟩

theorem Holds.of_filter {k : Control} (h : Holds c s k (j.filter Event.onBoard)) :
    Holds c s k j := by
  obtain ⟨d, hl⟩ := h
  rw [Host.filter_concerns] at hl
  exact ⟨d, hl⟩

theorem Stands.of_filter (h : Stands (j.filter Event.onBoard) e) : Stands j e := by
  cases e with
  | opened c s isn =>
    obtain ⟨hr, hw, hn⟩ := h
    rw [registrant_filter] at hr
    rw [waiting_filter] at hw
    exact ⟨hr, hw, fun e he hx => hn e (List.mem_filter.mpr ⟨he, onBoard_of_about hx⟩) hx⟩
  | replaced c s => exact ⟨registrant_filter s j ▸ h.1, h.2.of_filter⟩
  | removed c s c' =>
    obtain ⟨rfl, hr, k, hk, ho⟩ := h
    exact ⟨rfl, registrant_filter s j ▸ hr, k, hk.of_filter, ho⟩
  | emitted c d s t data b =>
    cases c with
    | none =>
      obtain ⟨seg, new, old, hj, hy, hn⟩ := h
      obtain ⟨newer, older, rfl, rfl, -⟩ := exists_of_filter hj
      refine ⟨seg, newer, older, rfl, hy, fun e he => Bool.eq_false_iff.mpr fun hp => ?_⟩
      have hq := hn e (List.mem_filter.mpr ⟨he, onBoard_of_places hp⟩)
      rw [hp] at hq
      cases hq
    | some c =>
      rcases h with hr | ⟨hf, hd, k, hk, ho⟩
      · exact Or.inl (registrant_filter s j ▸ hr)
      · exact Or.inr ⟨hf, hd, k, hk.of_filter, ho⟩
  | _ => trivial

end

/-- The state that is found between two ends. -/
def stateAt (s : Stream) (j : List Event) : Option State :=
  (registrant s j).bind fun c => stateAfter c j

/-- **A connection leaves its place**: it is over, or it was opened while another SYN was waiting. -/
inductive Leaves (c : ConnId) (s : Stream) (j : List Event) : Event → Prop
  | ended {st : State} (hs : stateAfter c j = some st) (ho : st.isOver = true) :
    Leaves c s j (.removed c s c)
  | overtaken (ho : Overtaken c s j) : Leaves c s j (.replaced c s)

/-- **A connection stays between its ends until it leaves.** -/
structure StaysUntilLeaves (h : Host) : Prop where
  /-- The journal tells who is between two ends. -/
  found : ∀ s, h.stream? s = registrant s h.journal
  /-- And it tells the state that is found there. -/
  state : ∀ s, h.stateOf s = stateAt s h.journal
  /-- No event takes a connection from its place, unless it leaves. -/
  stays : ∀ {newer older e s c}, h.journal = newer ++ e :: older → registrant s older = some c →
    registrant s (e :: older) = some c ∨ Leaves c s older e
  /-- A state goes back to that after a SYN only if a connection leaves. -/
  restarts : ∀ {newer mid older s st}, h.journal = newer ++ (mid ++ older) →
    stateAt s older = some st → st ≠ .synReceived → stateAt s (mid ++ older) = some .synReceived →
    ∃ c newer' older' e, mid = newer' ++ e :: older' ∧ Leaves c s (older' ++ older) e

namespace Host

variable {h : Host} {newer older : List Event} {s : Stream} {c : ConnId} {e : Event}

theorem Visited.kept (hv : Visited h) : Kept h.board := by
  refine ⟨hv.lives, hv.tidy, ?_⟩
  obtain ⟨st, h₀, e, hs, hl⟩ := hv
  refine (traffic_leads hl).seated ⟨fun s => ?_⟩
  obtain ⟨-, h₂, h₃⟩ := board_start hs
  unfold Switchboard.stream?
  rw [h₂, h₃]
  rfl

/-- **Every event in the journal has its reason.** -/
theorem Visited.stands (hv : Visited h) (hj : h.journal = newer ++ e :: older) :
    Stands older e := by
  obtain ⟨st, h₀, b, hs, hl⟩ := hv
  have hk : Kept h₀.board := Visited.kept ⟨st, h₀, true, hs, .refl h₀⟩
  have hh : Justified Stands h₀.board.history := by
    rw [(board_start hs).2.2]
    exact .nil
  have ha := (traffic_leads hl).stands hk hh
  cases e with
  | opened | replaced | removed | emitted => exact (ha.filter hj rfl).of_filter
  | _ => trivial

theorem Visited.found (hv : Visited h) (s : Stream) : h.stream? s = registrant s h.journal := by
  rw [← stream?_board, hv.kept.seated.found]
  exact registrant_filter s h.journal

theorem Visited.stateAfter (hv : Visited h) (hc : c < h.connections.length) :
    stateAfter c h.journal = some (h.connection c).control.state := by
  rw [← stateAfter_filter]
  exact (hv.life hc).walks.state

theorem Visited.stateOf (hv : Visited h) (s : Stream) : h.stateOf s = stateAt s h.journal := by
  unfold Host.stateOf stateAt
  rw [← hv.found]
  cases hs : h.stream? s with
  | none => rfl
  | some c =>
    have hc := (hv.lives.registered s c hs).1
    rw [length_lines_board] at hc
    exact (hv.stateAfter hc).symm

/-- Who is between two ends stays there, or leaves. -/
theorem Visited.stays (hv : Visited h) (hj : h.journal = newer ++ e :: older)
    (hr : registrant s older = some c) : registrant s (e :: older) = some c ∨ Leaves c s older e := by
  have he := hv.stands hj
  rw [registrant_cons]
  cases hs : e.seats s with
  | none => exact .inl hr
  | some r =>
    refine .inr ?_
    cases e with
    | opened c' s' isn =>
      dsimp only [Event.seats] at hs
      split_ifs at hs with hss
      rw [hss] at he
      cases hr.symm.trans he.1
    | removed c' s' d =>
      dsimp only [Event.seats] at hs
      split_ifs at hs with hss
      obtain ⟨rfl, hr', k, ⟨d, hl⟩, ho⟩ := he
      rw [hss] at hr' ⊢
      obtain rfl := Option.some.inj (hr.symm.trans hr')
      refine .ended ?_ ho
      rw [← stateAfter_filter]
      exact hl.walks.state
    | replaced c' s' =>
      dsimp only [Event.seats] at hs
      split_ifs at hs with hss
      obtain ⟨hr', ho⟩ := he
      rw [hss] at hr' ho ⊢
      obtain rfl := Option.some.inj (hr.symm.trans hr')
      exact .overtaken ho
    | _ => cases hs

theorem mem_of_stateAfter {j : List Event} {st : State} (hs : InetHost.stateAfter c j = some st) :
    ∃ e ∈ j, e.about = some c := by
  unfold InetHost.stateAfter at hs
  obtain ⟨e, he, hx⟩ := List.mem_filterMap.mp (List.mem_of_mem_head? hs)
  refine ⟨e, he, Decidable.not_not.mp fun hn => ?_⟩
  rw [enters_eq_none hn] at hx
  cases hx

/-- The state of a connection does not go back to its start. -/
theorem Visited.goes_on (hv : Visited h) (hj : h.journal = newer ++ e :: older) {st : State}
    (hs : InetHost.stateAfter c older = some st) (hn : st ≠ .synReceived) :
    ∃ st', InetHost.stateAfter c (e :: older) = some st' ∧ st' ≠ .synReceived := by
  unfold InetHost.stateAfter at hs ⊢
  cases he : e.enters c with
  | none =>
    rw [List.filterMap_cons_none he]
    exact ⟨st, hs, hn⟩
  | some st' =>
    rw [List.filterMap_cons_some he]
    refine ⟨st', rfl, ?_⟩
    cases e with
    | opened c' s isn =>
      dsimp only [Event.enters] at he
      split_ifs at he with hc
      subst hc
      obtain ⟨e, hm, hx⟩ := mem_of_stateAfter hs
      exact absurd hx ((hv.stands hj).2.2 e hm)
    | entered c' st'' =>
      dsimp only [Event.enters] at he
      split_ifs at he with hc
      cases he
      subst hc
      obtain ⟨st₀, -, hm | ⟨rfl, -⟩⟩ := hv.justified (fun hl => hl.walks.justified) hj rfl rfl
      · exact State.ne_synReceived_of_successor _ _ hm
      · nofun
    | _ => cases he

/-- **On every host connections stay until they leave.** -/
theorem Visited.staysUntilLeaves (hv : Visited h) : StaysUntilLeaves h where
  found := hv.found
  state := hv.stateOf
  stays := hv.stays
  restarts {newer mid older s st} hj hs hn hm := by
    obtain ⟨c, hr, hs⟩ := Option.bind_eq_some_iff.mp hs
    -- as long as nobody leaves, the same connection is found, and its state goes on
    have hk : (∃ c newer' older' e, mid = newer' ++ e :: older' ∧ Leaves c s (older' ++ older) e) ∨
        registrant s (mid ++ older) = some c ∧
          ∃ st', InetHost.stateAfter c (mid ++ older) = some st' ∧ st' ≠ .synReceived := by
      clear hm
      induction mid generalizing newer with
      | nil => exact .inr ⟨hr, st, hs, hn⟩
      | cons e mid ih =>
        have hj' : h.journal = (newer ++ [e]) ++ (mid ++ older) := by
          rw [hj, List.append_assoc]
          rfl
        rcases ih hj' with ⟨c', newer', older', e', rfl, hl⟩ | ⟨hr', st', hs', hn'⟩
        · exact .inl ⟨c', e :: newer', older', e', rfl, hl⟩
        · rcases hv.stays hj hr' with hr' | hl
          · exact .inr ⟨hr', hv.goes_on hj hs' hn'⟩
          · exact .inl ⟨c, [], mid, e, rfl, hl⟩
    refine hk.resolve_right fun ⟨hr', st', hs', hn'⟩ => hn' ?_
    unfold stateAt at hm
    rw [hr', Option.bind_some, hs'] at hm
    exact Option.some.inj hm

/-! ## A place that is taken twice -/

/-- The two ends of a connection from the talker's peer. -/
def peerStream : Stream := ⟨⟨talker.ip, echoPort⟩, ⟨⟨10, 0, 0, 2⟩, 4000⟩⟩

/-- A listener that takes a SYN and an acknowledgement itself before it accepts a SYN. -/
def overtaking : Host := talked
  [.store ⟨10, 0, 0, 2⟩ ⟨2, 0, 0, 0, 0, 2⟩,
    .listen echoPort [[fromPeer ⟨100, 0, .syn, 1000⟩ [], fromPeer ⟨101, 2, .ack, 1000⟩ []], []] [],
    fromPeer ⟨100, 0, .syn, 1000⟩ []]

theorem visited_overtaking : Visited overtaking := visited_talked (by decide +kernel)

/-- An event that removes the connection between two ends. -/
def removes (s : Stream) : Event → Bool
  | .removed _ s' _ => s' == s
  | _ => false

/-- **An established connection may lose its place without its end**, to one that has just begun. -/
theorem overtaking_restarts : Visited overtaking ∧ ∃ mid older, overtaking.journal = mid ++ older ∧
    stateAt peerStream older = some .established ∧
    stateAt peerStream (mid ++ older) = some .synReceived ∧
    ∀ e ∈ mid, removes peerStream e = false := by
  refine ⟨visited_overtaking, overtaking.journal.take 6, overtaking.journal.drop 6, ?_, ?_, ?_, ?_⟩
  · rw [List.take_append_drop]
  · decide +kernel
  · decide +kernel
  · decide +kernel

theorem staysUntilLeaves_overtaking : Visited overtaking ∧ StaysUntilLeaves overtaking :=
  ⟨visited_overtaking, visited_overtaking.staysUntilLeaves⟩

end Host

end InetHost
