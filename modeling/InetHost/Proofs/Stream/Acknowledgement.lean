import InetHost.Proofs.Stream.Life

/-!
# The numbers of the peer's stream

A connection acknowledges what its application has been given: the SYN, each byte that was read, and
the FIN once it was taken. What was dropped is not acknowledged.

* `due`: the acknowledgement number that is due;
* `Accounted`: what holds of a connection at all times;
* **`Visited.accounts`**: every connection keeps its accounts.
-/

namespace InetHost

open Tcp Switchboard

/-! ## What was taken -/

/-- The data of a connection that its application was given. -/
def Event.handed (c : ConnId) : Event → Option Bytes
  | .delivered c' data => if c' = c then some data else none
  | _ => none

/-- The end of the peer's stream of a connection. -/
def Event.isEnd (c : ConnId) : Event → Bool
  | .ended c' => c' == c
  | _ => false

/-- The number of bytes that the application of a connection was given. -/
def readBytes (c : ConnId) (j : List Event) : Nat :=
  (j.filterMap (Event.handed c)).flatten.length

/-- The end of the peer's stream was taken. -/
def hasEnded (c : ConnId) (j : List Event) : Bool := j.any (Event.isEnd c)

/-- The acknowledgement number that is due, after a SYN with the number `isn`. -/
def due (c : ConnId) (isn : SeqNum) (j : List Event) : SeqNum :=
  isn + 1 + UInt32.ofNat (readBytes c j) + if hasEnded c j then 1 else 0

/-- An event that agrees with what was taken before it. -/
def Agrees (c : ConnId) (isn : SeqNum) (j : List Event) : Event → Prop
  | .emitted c' _ _ t _ _ => c' = some c → t.ack = due c isn j
  | .ended c' => c' = c → hasEnded c j = false
  | .delivered c' _ => c' = c → hasEnded c j = false
  | _ => True

/-- The states in which the peer may still end its stream. -/
def Tcp.State.mayEnd : State → Bool
  | .synReceived | .established | .finWait1 | .finWait2 => true
  | _ => false

theorem Tcp.State.mayEnd_of_successor : ∀ s, ∀ st ∈ State.successors s,
    st.mayEnd = true → s.mayEnd = true := by
  intro s
  cases s <;> decide

theorem Tcp.State.mayEnd_of_mayReceive : ∀ s : State, s.mayReceive = true → s.mayEnd = true := by
  intro s
  cases s <;> decide

theorem Tcp.State.mayEnd_of_mayClose : ∀ s : State, s.mayClose = true → s.mayEnd = true := by
  intro s
  cases s <;> decide

/-! ## One connection -/

/-- What holds of the peer's stream of a connection: data does not stay in its buffer. -/
structure Accounted (c : ConnId) (isn : SeqNum) (k : Control) (j : List Event) : Prop where
  expected : k.expected = due c isn j
  buffer : k.buffer.content = []
  unended : k.state.mayEnd = true → hasEnded c j = false
  justified : Justified (Agrees c isn) j

section

variable {c : ConnId} {isn : SeqNum} {s : Stream} {d : DeviceId} {k : Control} {j : List Event}
  {t : Header} {data : Bytes} {b : Bool} {e : Event}

theorem Accounted.quiet (h : Accounted c isn k j) (hr : e.handed c = none)
    (he : e.isEnd c = false) (ha : Agrees c isn j e) : Accounted c isn k (e :: j) := by
  have hd : due c isn (e :: j) = due c isn j ∧ hasEnded c (e :: j) = hasEnded c j := by
    unfold due readBytes hasEnded
    rw [List.filterMap_cons_none hr, List.any_cons, he, Bool.false_or]
    exact ⟨rfl, rfl⟩
  exact ⟨hd.1 ▸ h.expected, h.buffer, fun hk => hd.2 ▸ h.unended hk, h.justified.cons ha⟩

theorem Accounted.changes (h : Accounted c isn k j) (k₁ k₂ : Control) :
    Accounted c isn k (changes c k₁ k₂ ++ j) := by
  unfold Switchboard.changes
  split_ifs
  · exact h
  · exact h.quiet rfl rfl trivial

theorem Accounted.emitted (h : Accounted c isn k j) (ht : t.ack = k.expected) (d : DeviceId)
    (s : Stream) (data : Bytes) (b : Bool) :
    Accounted c isn k (.emitted (some c) d s t data b :: j) :=
  h.quiet rfl rfl fun _ => ht.trans h.expected

/-- Neither the state nor the host's own stream matters, unless the peer may end its stream anew. -/
theorem Accounted.move (h : Accounted c isn k j) {k' : Control} (he : k'.expected = k.expected)
    (hb : k'.buffer = k.buffer) (hs : k'.state.mayEnd = true → k.state.mayEnd = true) :
    Accounted c isn k' j :=
  ⟨he.trans h.expected, hb ▸ h.buffer, fun hk => h.unended (hs hk), h.justified⟩

theorem Accounted.acked (h : Accounted c isn k j) (seg : Segment) :
    Accounted c isn { k with state := k.acked seg } j := by
  refine h.move rfl rfl fun hk => ?_
  rcases k.acked_eq_or_mem seg with ha | ha
  · rw [← ha]
    exact hk
  · exact State.mayEnd_of_successor _ _ ha hk

theorem Accounted.ended (h : Accounted c isn k j) (hs : k.state.mayEnd = true) {k' : Control}
    (he : k'.expected = k.expected + 1) (hb : k'.buffer = k.buffer)
    (hs' : k'.state.mayEnd = false) : Accounted c isn k' (.ended c :: j) := by
  have hn := h.unended hs
  have hy : hasEnded c (.ended c :: j) = true := by
    unfold hasEnded
    rw [List.any_cons, Event.isEnd, beq_self_eq_true, Bool.true_or]
  refine ⟨?_, hb ▸ h.buffer, fun hk => ?_, h.justified.cons fun _ => hn⟩
  · rw [he, h.expected]
    unfold due
    rw [hy, hn, if_pos rfl, if_neg (by decide), UInt32.add_zero]
    rfl
  · rw [hs'] at hk
    cases hk

theorem Accounted.delivered (h : Accounted c isn k j) (hs : k.state.mayEnd = true) {k' : Control}
    (he : k'.expected = k.expected + UInt32.ofNat data.length) (hb : k'.buffer.content = []) :
    Accounted c isn k' (.delivered c data :: j) := by
  have hn := h.unended hs
  have hy : hasEnded c (.delivered c data :: j) = false := hn
  refine ⟨?_, hb, fun _ => hy, h.justified.cons fun _ => hn⟩
  have hr : readBytes c (.delivered c data :: j) = readBytes c j + data.length := by
    unfold readBytes
    rw [List.filterMap_cons_some (show (Event.delivered c data).handed c = some data from if_pos rfl),
      List.flatten_cons, List.length_append, Nat.add_comm]
  rw [he, h.expected]
  unfold due
  rw [hy, hn, hr, UInt32.ofNat_add, if_neg (by decide), UInt32.add_zero, UInt32.add_zero,
    UInt32.add_assoc]

theorem Accounted.took (h : Accounted c isn k j) (s : Stream) (d : DeviceId) (seg : Segment)
    (b : Bool) : Accounted c isn (k.take seg).1 (entries c s d k (k.take seg) b ++ j) := by
  have hk := k.take_cases seg
  generalize k.take seg = r at hk ⊢
  obtain ⟨k', o⟩ := r
  dsimp only at hk ⊢
  cases hk with
  | reset => exact (h.changes _ _).move rfl rfl nofun
  | syn =>
    have hn := h.changes k k
    unfold Control.repeatSyn
    split_ifs with hs
    · exact hn.emitted rfl d s [] b
    · exact hn
  | ends | empty | dropped | overflow => exact (h.changes _ _).acked seg
  | data hr hy hs hp hm b' hb =>
    -- the buffer was empty, so what is given out is the payload and nothing else
    have hc := (BoundedBuffer.extend?_eq_some hb).1
    rw [h.buffer, List.nil_append] at hc
    have hn := (h.changes k { k with state := k.acked seg }).acked seg
    refine hn.delivered (State.mayEnd_of_mayReceive _ hm) ?_ rfl
    rw [show b'.drain.1 = seg.payload from hc]

theorem Accounted.finished (h : Accounted c isn k j) (s : Stream) (d : DeviceId) (fin b : Bool) :
    Accounted c isn (k.finish fin).1 (entries c s d k (k.finish fin) b ++ j) := by
  have hk := k.finish_cases fin
  generalize k.finish fin = r at hk ⊢
  obtain ⟨k', o⟩ := r
  dsimp only at hk ⊢
  cases hk with
  | passive hs | closing hs | ends hs =>
    refine Accounted.emitted ?_ rfl d s [] b
    exact (h.changes _ _).ended (by rw [hs]; rfl) rfl rfl rfl
  | ignored => exact (h.changes _ _).move rfl rfl id
  | ack => exact ((h.changes _ _).emitted (t := k.header .ack) rfl d s [] b).move rfl rfl id
  | nothing => exact h.changes _ _

theorem Accounted.closed (h : Accounted c isn k j) (ht : k.closeHeader? = some t) (d : DeviceId)
    (s : Stream) :
    Accounted c isn k.closed (.entered c .finWait1 :: .emitted (some c) d s t [] true :: j) := by
  obtain ⟨hm, rfl⟩ := Control.closeHeader?_eq_some ht
  have hn := h.emitted (t := k.header (.fin ||| .psh ||| .ack)) rfl d s [] true
  exact (hn.quiet (e := .entered c .finWait1) rfl rfl trivial).move rfl rfl fun _ =>
    State.mayEnd_of_mayClose _ hm

theorem handed_eq_none (he : e.about ≠ some c) : e.handed c = none := by
  cases e with
  | delivered c' data => exact if_neg fun hc => he (congrArg some hc)
  | _ => rfl

theorem isEnd_eq_false (he : e.about ≠ some c) : e.isEnd c = false := by
  cases e with
  | ended c' => exact beq_false_of_ne fun hc => he (congrArg some hc)
  | _ => rfl

theorem agrees_of_about (he : e.about ≠ some c) : Agrees c isn j e := by
  cases e with
  | emitted => exact fun hc => absurd hc he
  | ended | delivered => exact fun hc => absurd (congrArg some hc) he
  | _ => trivial

theorem Accounted.opened (hj : ∀ e ∈ j, e.about ≠ some c) (isn : SeqNum) (cap : Nat) (s : Stream)
    (d : DeviceId) (b : Bool) : Accounted c isn (Control.accept isn cap).1
      (.emitted (some c) d s (Control.accept isn cap).2 [] b :: .opened c s isn :: j) := by
  have hr : j.filterMap (Event.handed c) = [] :=
    List.filterMap_eq_nil_iff.mpr fun e he => handed_eq_none (hj e he)
  have he : hasEnded c j = false :=
    List.any_eq_false.mpr fun e he => by rw [isEnd_eq_false (hj e he)]; decide
  have hd : due c isn j = isn + 1 := by
    unfold due readBytes
    rw [he, hr]
    exact (UInt32.add_zero _).trans (UInt32.add_zero _)
  have h : Accounted c isn (Control.accept isn cap).1 j :=
    ⟨hd.symm, rfl, fun _ => he, Justified.of_forall fun e he _ => agrees_of_about (hj e he)⟩
  exact (h.quiet (e := .opened c s isn) rfl rfl trivial).emitted rfl d s [] b

/-- **A connection acknowledges what was taken.** -/
theorem Life.accounted (hl : Life c s d k j) : ∃ isn, Accounted c isn k j ∧ Origin c s isn j := by
  induction hl with
  | opened cap b hj ha hy =>
    exact ⟨_, .opened hj _ cap s d b, .opened hj ha hy nofun⟩
  | arrived hl s' seg ih =>
    obtain ⟨isn, h, ho⟩ := ih
    exact ⟨isn, h.quiet rfl rfl trivial, ho.append [_] nofun⟩
  | took hl b ih =>
    obtain ⟨isn, h, ho⟩ := ih
    exact ⟨isn, h.took s d _ b, ho.append _ (opened_entries c s d _ _ b)⟩
  | finished hl fin b ih =>
    obtain ⟨isn, h, ho⟩ := ih
    exact ⟨isn, h.finished s d fin b, ho.append _ (opened_entries c s d _ _ b)⟩
  | failed hl t data ht ih =>
    obtain ⟨isn, h, ho⟩ := ih
    refine ⟨isn, h.emitted ?_ d s data false, ho.append [_] nofun⟩
    rcases ht with ⟨-, rfl⟩ | ⟨ht, -⟩
    · rfl
    · rw [(Control.closeHeader?_eq_some ht).2]
      rfl
  | sent hl hm data ih =>
    obtain ⟨isn, h, ho⟩ := ih
    exact ⟨isn, (h.emitted (t := Control.dataHeader _) rfl d s data true).move rfl rfl id,
      ho.append [_] nofun⟩
  | closed hl ht ih =>
    obtain ⟨isn, h, ho⟩ := ih
    exact ⟨isn, h.closed ht d s, ho.append [_, _] nofun⟩

end

/-! ## The journal -/

theorem hasEnded_filter (c : ConnId) (j : List Event) :
    hasEnded c (j.filter (Event.concerns c)) = hasEnded c j := by
  unfold hasEnded
  refine any_filter_of fun e he => isEnd_eq_false fun hc => ?_
  rw [concerns_of_about hc] at he
  cases he

theorem due_filter (c : ConnId) (isn : SeqNum) (j : List Event) :
    due c isn (j.filter (Event.concerns c)) = due c isn j := by
  unfold due readBytes
  rw [hasEnded_filter, filterMap_filter_of fun e he => handed_eq_none fun hc => ?_]
  rw [concerns_of_about hc] at he
  cases he

/-- **The accounts of a connection**: it began once, with a SYN that has the number `isn`; every segment
acknowledges what is due; the peer's stream ends at most once, and no data is given out after it. -/
structure Accounts (c : ConnId) (s : Stream) (isn : SeqNum) (j : List Event) : Prop
    extends Origin c s isn j where
  acks : ∀ {newer older d s t data b}, j = newer ++ .emitted (some c) d s t data b :: older →
    t.ack = due c isn older
  ends : ∀ {newer older}, j = newer ++ .ended c :: older → hasEnded c older = false
  last : ∀ {newer older data}, j = newer ++ .delivered c data :: older → hasEnded c older = false

namespace Host

variable {h : Host}

/-- **Every segment acknowledges exactly what was taken before it.** -/
theorem Visited.accounts (hv : Visited h) {c : ConnId} (hc : c < h.connections.length) :
    ∃ isn, Accounts c (h.connection c).stream isn h.journal := by
  have hl := hv.life hc
  obtain ⟨isn, ha, ho⟩ := hl.accounted
  refine ⟨isn, ⟨ho.of_filter, fun hj => ?_, fun hj => ?_, fun hj => ?_⟩⟩
  · rw [← due_filter]
    exact ha.justified.filter hj (concerns_of_about rfl) rfl
  · rw [← hasEnded_filter]
    exact ha.justified.filter hj (concerns_of_about rfl) rfl
  · rw [← hasEnded_filter]
    exact ha.justified.filter hj (concerns_of_about rfl) rfl

theorem accounts_conversation : 0 < conversation.connections.length ∧
    ∃ isn, Accounts 0 (conversation.connection 0).stream isn conversation.journal := by
  have hc : 0 < conversation.connections.length := by decide +kernel
  exact ⟨hc, visited_conversation.accounts hc⟩

end Host

end InetHost
