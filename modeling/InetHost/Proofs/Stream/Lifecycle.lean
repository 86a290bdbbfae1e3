import InetHost.Proofs.Stream.Registry

/-!
# The states of a connection

A connection starts in one state and goes from state to state as the graph of `State.successors` says,
until it is over; a RST of its peer ends it in any state. When it is over it is removed before any
application code can look.

* `stateAfter`: the state of a connection when some events have happened; `lastArrival`: the segment
  that came in last;
* `Walks`: what holds of a connection at all times;
* `Lifecycle`, **`Visited.lifecycle`**: what a host keeps to with all its connections.
-/

namespace InetHost

open Tcp Switchboard

/-! ## Events -/

/-- The state in which a connection starts, or into which it goes. -/
def Event.enters (c : ConnId) : Event → Option State
  | .opened c' _ _ => if c' = c then some .synReceived else none
  | .entered c' st => if c' = c then some st else none
  | _ => none

/-- The segment that came in. -/
def Event.arrival : Event → Option (Stream × Segment)
  | .arrived s seg => some (s, seg)
  | _ => none

/-- The state of a connection. -/
def stateAfter (c : ConnId) (j : List Event) : Option State := (j.filterMap (Event.enters c)).head?

/-- The segment that came in last. -/
def lastArrival (j : List Event) : Option (Stream × Segment) := (j.filterMap Event.arrival).head?

/-- **A connection between two ends may go into a state**: it follows from the state in which it is, or
a RST has just come in. -/
def MayEnter (c : ConnId) (s : Stream) (j : List Event) (st : State) : Prop :=
  ∃ st₀, stateAfter c j = some st₀ ∧ (st ∈ st₀.successors ∨
    st = .closed ∧ ∃ seg, lastArrival j = some (s, seg) ∧ seg.flags.has .rst = true)

/-- A change of state that the rules allow, or another event. -/
def Moves (c : ConnId) (s : Stream) (j : List Event) : Event → Prop
  | .entered c' st => c' = c → MayEnter c s j st
  | _ => True

/-- The states that a connection comes to. -/
def Tcp.State.used : List State :=
  [.synReceived, .established, .finWait1, .finWait2, .closing, .lastAck, .timeWait, .closed]

theorem Tcp.State.used_of_successor : ∀ s ∈ used, ∀ st ∈ successors s, st ∈ used := by decide

theorem Tcp.State.alive_of_used : ∀ s ∈ used, s.isOver = false →
    s ∈ [.synReceived, .established, .finWait1, .finWait2, .closing, .lastAck] := by decide

/-! ## One connection -/

/-- What holds of the states of a connection. -/
structure Walks (c : ConnId) (s : Stream) (k : Control) (j : List Event) : Prop where
  state : stateAfter c j = some k.state
  used : k.state ∈ State.used
  justified : Justified (Moves c s) j

section

variable {c : ConnId} {s : Stream} {d : DeviceId} {k k' : Control} {j : List Event} {e : Event}

theorem Walks.append (h : Walks c s k j) (new : List Event)
    (hn : ∀ e ∈ new, e.enters c = none ∧ ∀ j, Moves c s j e) : Walks c s k (new ++ j) := by
  refine ⟨?_, h.used, h.justified.append fun e he older => (hn e he).2 older⟩
  unfold stateAfter
  rw [List.filterMap_append, List.filterMap_eq_nil_iff.mpr fun e he => (hn e he).1]
  exact h.state

theorem Walks.quiet (h : Walks c s k j) (he : e.enters c = none) (hm : ∀ j, Moves c s j e) :
    Walks c s k (e :: j) :=
  h.append [e] fun _ hx => List.mem_singleton.mp hx ▸ ⟨he, hm⟩

theorem Walks.of_state (h : Walks c s k j) (hs : k'.state = k.state) : Walks c s k' j :=
  ⟨hs ▸ h.state, hs ▸ h.used, h.justified⟩

theorem Walks.enter (h : Walks c s k j) (hm : k'.state ∈ k.state.successors ∨ k'.state = .closed ∧
      ∃ seg, lastArrival j = some (s, seg) ∧ seg.flags.has .rst = true) :
    Walks c s k' (.entered c k'.state :: j) := by
  refine ⟨?_, ?_, h.justified.cons fun _ => ⟨k.state, h.state, hm⟩⟩
  · unfold stateAfter
    rw [List.filterMap_cons_some (show (Event.entered c k'.state).enters c = _ from if_pos rfl)]
    rfl
  · rcases hm with hm | ⟨hm, -⟩
    · exact State.used_of_successor _ h.used _ hm
    · rw [hm]
      decide

theorem Walks.changes (h : Walks c s k j) (hm : k'.state = k.state ∨ k'.state ∈ k.state.successors ∨
      k'.state = .closed ∧ ∃ seg, lastArrival j = some (s, seg) ∧ seg.flags.has .rst = true) :
    Walks c s k' (changes c k k' ++ j) := by
  unfold Switchboard.changes
  split_ifs with hs
  · exact h.of_state hs
  · exact h.enter (hm.resolve_left hs)

/-- A step of the control block, with a change of state that the rules allow. -/
theorem Walks.step (h : Walks c s k j) {r : Control × Outcome}
    (hm : r.1.state = k.state ∨ r.1.state ∈ k.state.successors ∨
      r.1.state = .closed ∧ ∃ seg, lastArrival j = some (s, seg) ∧ seg.flags.has .rst = true)
    (d : DeviceId) (b : Bool) : Walks c s r.1 (entries c s d k r b ++ j) := by
  have hs := (h.changes hm).append (r.2.deliver.toList.map (.delivered c) ++
    (r.2.reply.toList.map (.emitted (some c) d s · [] b) ++ if r.2.ended then [.ended c] else []))
    fun e he => ?_
  · unfold entries answers
    simp only [List.append_assoc] at hs ⊢
    exact hs
  · rcases List.mem_append.mp he with he | he
    · obtain ⟨data, -, rfl⟩ := List.mem_map.mp he
      exact ⟨rfl, fun _ => trivial⟩
    rcases List.mem_append.mp he with he | he
    · obtain ⟨t, -, rfl⟩ := List.mem_map.mp he
      exact ⟨rfl, fun _ => trivial⟩
    · split_ifs at he
      · rw [List.mem_singleton.mp he]
        exact ⟨rfl, fun _ => trivial⟩
      · cases he

theorem Walks.took {seg : Segment} (h : Walks c s k (.arrived s seg :: j)) (d : DeviceId) (b : Bool) :
    Walks c s (k.take seg).1 (entries c s d k (k.take seg) b ++ .arrived s seg :: j) := by
  refine h.step ?_ d b
  have hk := k.take_cases seg
  generalize k.take seg = r at hk ⊢
  obtain ⟨k', o⟩ := r
  dsimp only at hk ⊢
  cases hk with
  | reset hr => exact .inr (.inr ⟨rfl, seg, rfl, hr⟩)
  | syn => exact .inl rfl
  | ends | empty | dropped | overflow | data => exact (k.acked_eq_or_mem seg).imp_right .inl

theorem Walks.finished (h : Walks c s k j) (d : DeviceId) (fin b : Bool) :
    Walks c s (k.finish fin).1 (entries c s d k (k.finish fin) b ++ j) := by
  refine h.step ?_ d b
  have hk := k.finish_cases fin
  generalize k.finish fin = r at hk ⊢
  obtain ⟨k', o⟩ := r
  dsimp only at hk ⊢
  cases hk with
  | passive hs | closing hs | ends hs =>
    rw [hs]
    exact .inr (.inl (by simp [State.successors]))
  | ignored | ack | nothing => exact .inl rfl

theorem enters_eq_none (he : e.about ≠ some c) : e.enters c = none := by
  cases e with
  | opened | entered => exact if_neg fun hc => he (congrArg some hc)
  | _ => rfl

theorem moves_of_about (he : e.about ≠ some c) (j : List Event) : Moves c s j e := by
  cases e with
  | entered => exact fun hc => absurd (congrArg some hc) he
  | _ => trivial

theorem Walks.opened (hj : ∀ e ∈ j, e.about ≠ some c) (isn : SeqNum) (cap : Nat) (d : DeviceId)
    (b : Bool) : Walks c s (Control.accept isn cap).1
      (.emitted (some c) d s (Control.accept isn cap).2 [] b :: .opened c s isn :: j) := by
  have h : Walks c s (Control.accept isn cap).1 (.opened c s isn :: j) := by
    have hu : State.synReceived ∈ State.used := by decide
    refine ⟨?_, hu, (Justified.of_forall fun e he => moves_of_about (hj e he)).cons trivial⟩
    unfold stateAfter
    rw [List.filterMap_cons_some (show (Event.opened c s isn).enters c = _ from if_pos rfl)]
    rfl
  exact h.quiet rfl fun _ => trivial

/-- **A connection goes from state to state as the rules allow.** -/
theorem Life.walks (hl : Life c s d k j) : Walks c s k j := by
  induction hl with
  | opened cap b hj ha hy => exact .opened hj _ cap d b
  | arrived hl s' seg ih => exact ih.quiet rfl fun _ => trivial
  | took hl b ih => exact ih.took d b
  | finished hl fin b ih => exact ih.finished d fin b
  | failed hl t data ht ih => exact ih.quiet rfl fun _ => trivial
  | @sent k j hl hm data ih =>
    have hq := ih.quiet (e := .emitted (some c) d s k.dataHeader data true) rfl fun _ => trivial
    exact hq.of_state rfl
  | @closed k j t hl ht ih =>
    have hm := (Control.closeHeader?_eq_some ht).1
    have hq := ih.quiet (e := .emitted (some c) d s t [] true) rfl fun _ => trivial
    exact @Walks.enter c s k k.closed _ hq (.inl (State.finWait1_of_mayClose _ hm))

end

/-! ## The journal -/

/-- **What a host keeps to with its connections.** -/
structure Lifecycle (h : Host) : Prop where
  /-- A connection goes from state to state as the rules allow. -/
  path : ∀ {newer older c st}, h.journal = newer ++ .entered c st :: older →
    MayEnter c (h.connection c).stream older st
  /-- It is in the state into which it went last. -/
  state : ∀ c < h.connections.length,
    stateAfter c h.journal = some (h.connection c).control.state
  /-- When application code runs, a connection that is over has been removed. -/
  gone : ∀ {newer older e}, h.journal = newer ++ e :: older → e.isCall = true →
    ∀ c st, .entered c st ∈ older → st.isOver = true → ∃ s, .removed c s c ∈ older
  /-- A connection that can be found is not over. -/
  found : ∀ s st, h.stateOf s = some st →
    st ∈ [.synReceived, .established, .finWait1, .finWait2, .closing, .lastAck]
  /-- A connection is removed on its own account. -/
  exact : ∀ {newer older c s decided}, h.journal = newer ++ .removed c s decided :: older →
    c = decided

namespace Host

variable {h : Host}

theorem tidy_start {s : Setup} (hs : start s = .ok h) : Tidy h.board := by
  obtain ⟨-, h₂, h₃⟩ := board_start hs
  refine ⟨fun s c hc => ?_, fun c st hm => ?_, ?_⟩
  · unfold Switchboard.stream? at hc
    rw [h₂] at hc
    cases hc
  · rw [h₃] at hm
    cases hm
  · rw [h₃]
    exact .nil

theorem Visited.tidy (hv : Visited h) : Tidy h.board := by
  obtain ⟨s, h₀, e, hs, hl⟩ := hv
  exact ((traffic_leads hl).tidy (lives_start hs) (tidy_start hs)).1

theorem Visited.orderly (hv : Visited h) {newer older : List Event} {e : Event}
    (hj : h.journal = newer ++ e :: older) (he : e.onBoard = true) :
    Orderly (older.filter Event.onBoard) e :=
  hv.tidy.orderly.filter hj he

theorem stateAfter_filter (c : ConnId) (j : List Event) :
    stateAfter c (j.filter (Event.concerns c)) = stateAfter c j := by
  unfold stateAfter
  rw [filterMap_filter_of fun e he => enters_eq_none fun hc => ?_]
  rw [concerns_of_about hc] at he
  cases he

theorem lastArrival_filter (c : ConnId) (j : List Event) :
    lastArrival (j.filter (Event.concerns c)) = lastArrival j := by
  unfold lastArrival
  rw [filterMap_filter_of fun e he => ?_]
  cases e with
  | arrived => cases he
  | _ => rfl

/-- **Connections go from state to state as the rules allow**, and are removed when they are over. -/
theorem Visited.lifecycle (hv : Visited h) : Lifecycle h where
  path {newer older c st} hj := by
    have hm := hv.justified (fun hl => hl.walks.justified) hj rfl rfl
    unfold MayEnter at hm
    rwa [stateAfter_filter, lastArrival_filter] at hm
  state c hc := by
    rw [← stateAfter_filter]
    exact (hv.life hc).walks.state
  gone {newer older e} hj he c st hm hs := by
    have ho := hv.orderly hj (Event.onBoard_of_isCall he)
    have hg : ∀ c st, .entered c st ∈ older.filter Event.onBoard → st.isOver = true →
        ∃ s, .removed c s c ∈ older.filter Event.onBoard := by
      cases e with
      | removed => cases he
      | _ => exact ho he
    obtain ⟨s, hr⟩ := hg c st (List.mem_filter.mpr ⟨hm, rfl⟩) hs
    exact ⟨s, (List.mem_filter.mp hr).1⟩
  found s st hs := by
    obtain ⟨c, hc, rfl⟩ := Option.map_eq_some_iff.mp hs
    rw [← stream?_board] at hc
    have ha := hv.tidy.alive s c hc
    rw [control_board] at ha
    have hl := (hv.lives.registered s c hc).1
    rw [length_lines_board] at hl
    exact State.alive_of_used _ (hv.life hl).walks.used ha
  exact {newer older c s decided} hj := hv.orderly hj rfl

theorem lifecycle_conversation :
    stateAfter 0 conversation.journal = some .lastAck ∧ Lifecycle conversation :=
  ⟨by decide +kernel, visited_conversation.lifecycle⟩

end Host

end InetHost
