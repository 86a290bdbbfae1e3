import InetHost.Proofs.Stream.Life

/-!
# The numbers of a connection's own stream

A connection numbers what it sends without gaps, as if it counted what its device took: one number for
the SYN, one for each byte and one for the FIN. A segment that could not be sent takes no number,
except for the FIN that answers the peer's: after that one nothing is sent any more.

* `accepted`: the segments of a connection that its device took; `position`: the number after them;
* `Numbered`: what holds of a connection at all times;
* **`Visited.in_sequence`**: every segment has the number that is due.
-/

namespace InetHost

open Tcp Switchboard

/-! ## What was sent -/

/-- The segment of a connection that its device took. -/
def Event.accepted (c : ConnId) : Event → Option (Header × Bytes)
  | .emitted c' _ _ t data true => if c' = some c then some (t, data) else none
  | _ => none

/-- The segments of a connection that its device took, the last first. -/
def accepted (c : ConnId) (j : List Event) : List (Header × Bytes) :=
  j.filterMap (Event.accepted c)

/-- The number of bytes that a connection has sent. -/
def sentBytes (c : ConnId) (j : List Event) : Nat := ((accepted c j).flatMap (·.2)).length

/-- A connection has sent its FIN. -/
def finSent (c : ConnId) (j : List Event) : Bool := (accepted c j).any (·.1.flags.has .fin)

/-- The sequence number that is due. -/
def position (c : ConnId) (j : List Event) : SeqNum :=
  2 + UInt32.ofNat (sentBytes c j) + if finSent c j then 1 else 0

/-- **A segment has the number that is due**, and nothing follows a FIN but acknowledgements. -/
structure InSequence (c : ConnId) (j : List Event) (t : Header) (data : Bytes) : Prop where
  syn : t.flags = .syn ||| .ack → t.seq = 1
  seq : t.flags ≠ .syn ||| .ack → t.seq = position c j
  last : finSent c j = true → t.flags.has .fin = false ∧ data = []

/-- An event with a segment in sequence, or another event. -/
def SendsInSequence (c : ConnId) (j : List Event) : Event → Prop
  | .emitted c' _ _ t data _ => c' = some c → InSequence c j t data
  | _ => True

/-! ## One connection -/

/-- What holds of the own stream of a connection. After a FIN that answers the peer's it owes no
acknowledgement, and its number is no longer used. -/
structure Numbered (c : ConnId) (k : Control) (j : List Event) : Prop where
  next : k.owesAck = true ∨ k.state ≠ .lastAck ∧ k.state ≠ .closed → k.next = position c j
  start : k.state = .synReceived → k.next = 2
  unfinished : k.state.maySend = true ∨ k.state.mayClose = true → finSent c j = false
  justified : Justified (SendsInSequence c) j

section

variable {c : ConnId} {s : Stream} {d : DeviceId} {k : Control} {j : List Event} {t : Header}
  {data : Bytes} {b : Bool} {e : Event}

theorem accepted_eq_some (he : e.accepted c = some (t, data)) :
    ∃ d s, e = .emitted (some c) d s t data true := by
  cases e with
  | emitted c' d s t' data' b =>
    cases b with
    | false => cases he
    | true =>
      dsimp only [Event.accepted] at he
      split_ifs at he with hc
      obtain ⟨rfl, rfl⟩ := Prod.mk.inj (Option.some.inj he)
      exact ⟨d, s, by rw [hc]⟩
  | _ => cases he

theorem accepted_eq_none (he : e.about ≠ some c) : e.accepted c = none := by
  cases e with
  | emitted c' d s t data b =>
    cases b with
    | false => rfl
    | true => exact if_neg he
  | _ => rfl

theorem sendsInSequence_of_about (he : e.about ≠ some c) : SendsInSequence c j e := by
  cases e with
  | emitted => exact fun hc => absurd hc he
  | _ => trivial

theorem accepted_cons_of_none (he : e.accepted c = none) : accepted c (e :: j) = accepted c j :=
  List.filterMap_cons_none he

theorem accepted_emitted (c : ConnId) (d : DeviceId) (s : Stream) (t : Header) (data : Bytes)
    (j : List Event) :
    accepted c (.emitted (some c) d s t data true :: j) = (t, data) :: accepted c j :=
  List.filterMap_cons_some (if_pos rfl)

theorem position_of_accepted {j' : List Event} (h : accepted c j' = accepted c j) :
    position c j' = position c j ∧ finSent c j' = finSent c j := by
  unfold position finSent sentBytes
  rw [h]
  exact ⟨rfl, rfl⟩

theorem Numbered.quiet (h : Numbered c k j) (he : e.accepted c = none)
    (hs : SendsInSequence c j e) : Numbered c k (e :: j) := by
  obtain ⟨hp, hf⟩ := position_of_accepted (accepted_cons_of_none (j := j) he)
  exact ⟨fun hk => hp ▸ h.next hk, h.start, fun hk => hf ▸ h.unfinished hk, h.justified.cons hs⟩

theorem Numbered.changes (h : Numbered c k j) (k₁ k₂ : Control) :
    Numbered c k (changes c k₁ k₂ ++ j) := by
  unfold Switchboard.changes
  split_ifs
  · exact h
  · exact h.quiet rfl trivial

theorem finSent_emitted (c : ConnId) (d : DeviceId) (s : Stream) (t : Header) (data : Bytes)
    (j : List Event) : finSent c (.emitted (some c) d s t data true :: j) =
      (t.flags.has .fin || finSent c j) := by
  unfold finSent
  rw [accepted_emitted, List.any_cons]

/-- A segment takes a number for each byte, and one for a FIN. -/
theorem position_emitted (hf : finSent c j = false) (d : DeviceId) (s : Stream) (t : Header)
    (data : Bytes) : position c (.emitted (some c) d s t data true :: j) =
      position c j + UInt32.ofNat data.length + if t.flags.has .fin then 1 else 0 := by
  have hb : sentBytes c (.emitted (some c) d s t data true :: j) = sentBytes c j + data.length := by
    unfold sentBytes
    rw [accepted_emitted, List.flatMap_cons, List.length_append, Nat.add_comm]
  unfold position
  rw [finSent_emitted, hf, Bool.or_false, hb, UInt32.ofNat_add]
  simp only [Bool.false_eq_true, if_false, UInt32.add_zero, UInt32.add_assoc]

theorem Numbered.emitted (h : Numbered c k j) (hf : t.flags.has .fin = false)
    (ht : InSequence c j t []) (d : DeviceId) (s : Stream) (b : Bool) :
    Numbered c k (.emitted (some c) d s t [] b :: j) := by
  cases b with
  | false => exact h.quiet rfl fun _ => ht
  | true =>
    have hfs := finSent_emitted c d s t [] j
    rw [hf, Bool.false_or] at hfs
    have hp : position c (.emitted (some c) d s t [] true :: j) = position c j := by
      unfold position sentBytes
      rw [hfs, accepted_emitted, List.flatMap_cons, List.nil_append]
    exact ⟨fun hk => hp ▸ h.next hk, h.start, fun hk => hfs ▸ h.unfinished hk,
      h.justified.cons fun _ => ht⟩

theorem Numbered.move (h : Numbered c k j) {st : State}
    (hs : st = k.state ∨ st ∈ k.state.successors ∨ st = .closed) :
    Numbered c { k with state := st } j := by
  refine ⟨fun hk => h.next (hk.imp_right fun ho => ?_), fun hk => h.start ?_,
    fun hk => h.unfinished ?_, h.justified⟩
  · rcases hs with rfl | hs | rfl
    · exact ho
    · refine ⟨fun hl => ho.2 (State.closed_of_successor _ st hs hl), fun hl => ?_⟩
      rw [hl] at hs
      cases hs
    · exact absurd rfl ho.2
  · rcases hs with rfl | hs | rfl
    · exact hk
    · exact absurd hk (State.ne_synReceived_of_successor _ st hs)
    · cases hk
  · rcases hs with rfl | hs | rfl
    · exact hk
    · exact .inr (State.mayClose_of_successor _ st hs hk)
    · rcases hk with hk | hk <;> cases hk

theorem Numbered.acked (h : Numbered c k j) (seg : Segment) :
    Numbered c { k with state := k.acked seg } j :=
  h.move ((k.acked_eq_or_mem seg).imp_right .inl)

theorem Numbered.inSequence (h : Numbered c k j)
    (hk : k.owesAck = true ∨ k.state ≠ .lastAck ∧ k.state ≠ .closed) (hs : t.seq = k.next)
    (hf : t.flags ≠ .syn ||| .ack) (hl : finSent c j = true → t.flags.has .fin = false ∧ data = []) :
    InSequence c j t data :=
  ⟨fun hn => absurd hn hf, fun _ => hs.trans (h.next hk), hl⟩

theorem Numbered.ack (h : Numbered c k j)
    (hk : k.owesAck = true ∨ k.state ≠ .lastAck ∧ k.state ≠ .closed) (hs : t.seq = k.next)
    (hf : t.flags = .ack) (d : DeviceId) (s : Stream) (b : Bool) :
    Numbered c k (.emitted (some c) d s t [] b :: j) := by
  have hn : t.flags.has .fin = false := by
    rw [hf]
    rfl
  have hy : t.flags ≠ .syn ||| .ack := by
    rw [hf]
    decide
  exact h.emitted hn (h.inSequence hk hs hy fun _ => ⟨hn, rfl⟩) d s b

theorem Numbered.took (h : Numbered c k j) (s : Stream) (d : DeviceId) (seg : Segment) (b : Bool) :
    Numbered c (k.take seg).1 (entries c s d k (k.take seg) b ++ j) := by
  have hk := k.take_cases seg
  generalize k.take seg = r at hk ⊢
  obtain ⟨k', o⟩ := r
  dsimp only at hk ⊢
  cases hk with
  | reset => exact (h.changes _ _).move (.inr (.inr rfl))
  | syn =>
    have hn := h.changes k k
    unfold Control.repeatSyn
    split_ifs with hs
    · -- the answer to a repeated SYN is the first segment once more, and nothing was sent since
      have hf : (Flags.syn ||| .ack).has .fin = false := by decide
      have hq : InSequence c (Switchboard.changes c k k ++ j)
          { k.header (.syn ||| .ack) with seq := k.next - 1 } [] :=
        ⟨fun _ => by rw [h.start hs]; rfl, fun hy => absurd rfl hy, fun _ => ⟨hf, rfl⟩⟩
      exact hn.emitted hf hq d s b
    · exact hn
  | ends | empty | dropped | overflow => exact (h.changes _ _).acked seg
  | data hr hy hs hp hm b' hb =>
    have hn := ((h.changes k { k with state := k.acked seg }).acked seg).quiet
      (e := .delivered c b'.drain.1) rfl trivial
    refine ⟨fun _ => hn.next (.inr ?_), hn.start, hn.unfinished, hn.justified⟩
    constructor <;> intro hl <;> rw [show k.acked seg = _ from hl] at hm <;> cases hm

theorem Numbered.finished (h : Numbered c k j) (s : Stream) (d : DeviceId) (fin b : Bool) :
    Numbered c (k.finish fin).1 (entries c s d k (k.finish fin) b ++ j) := by
  have hk := k.finish_cases fin
  generalize k.finish fin = r at hk ⊢
  obtain ⟨k', o⟩ := r
  dsimp only at hk ⊢
  have he := fun k' => (h.changes k k').quiet (e := .ended c) rfl trivial
  cases hk with
  | passive hs =>
    have hn := he { k with
      state := .lastAck, next := k.next + 1, expected := k.expected + 1, owesAck := false }
    have hf := hn.unfinished (.inl (by rw [hs]; rfl))
    have hy : (Flags.fin ||| .ack) ≠ .syn ||| .ack := by decide
    have hq : InSequence c _ { k.header (.fin ||| .ack) with ack := k.expected + 1 } [] :=
      hn.inSequence (.inr (by rw [hs]; decide)) rfl hy fun ht => absurd ht (by rw [hf]; decide)
    refine ⟨fun hk => ?_, nofun, fun hk => hk.elim nofun nofun, hn.justified.cons fun _ => hq⟩
    -- the FIN may have failed and has taken its number all the same: nothing uses the number now
    exact hk.elim nofun fun hk => absurd rfl hk.1
  | closing hs =>
    have hn := (he { k with state := .closing, expected := k.expected + 1, owesAck := false }).ack
      (t := { k.header .ack with ack := k.expected + 1 }) (.inr (by rw [hs]; decide)) rfl rfl d s b
    exact ⟨fun _ => hn.next (.inr (by rw [hs]; decide)), nofun, fun hk => hk.elim nofun nofun,
      hn.justified⟩
  | ends hs =>
    have hn := (he { k with state := .timeWait, expected := k.expected + 1, owesAck := false }).ack
      (t := { k.header .ack with ack := k.expected + 1 }) (.inr (by rw [hs]; decide)) rfl rfl d s b
    exact ⟨fun _ => hn.next (.inr (by rw [hs]; decide)), nofun, fun hk => hk.elim nofun nofun,
      hn.justified⟩
  | ignored =>
    have hn := h.changes k { k with owesAck := false }
    exact ⟨fun hk => hn.next (.inr (hk.resolve_left nofun)), hn.start, hn.unfinished,
      hn.justified⟩
  | ack ho =>
    have hn := (h.changes k { k with owesAck := false }).ack (t := k.header .ack) (.inl ho) rfl rfl
      d s b
    exact ⟨fun _ => hn.next (.inl ho), hn.start, hn.unfinished, hn.justified⟩
  | nothing => exact h.changes _ _

/-- A segment with the next number may be sent, which then changes. -/
theorem Numbered.advance (h : Numbered c k j) (hk : k.state ≠ .lastAck ∧ k.state ≠ .closed)
    (hf : finSent c j = false) (hs : t.seq = k.next) (hy : t.flags ≠ .syn ||| .ack) (d : DeviceId)
    (s : Stream) (data : Bytes) :
    k.next + UInt32.ofNat data.length + (if t.flags.has .fin then 1 else 0) =
      position c (.emitted (some c) d s t data true :: j) ∧
    Justified (SendsInSequence c) (.emitted (some c) d s t data true :: j) := by
  refine ⟨?_, h.justified.cons fun _ => ?_⟩
  · rw [position_emitted hf, h.next (.inr hk)]
  · exact h.inSequence (.inr hk) hs hy fun ht => absurd ht (by rw [hf]; decide)

theorem Numbered.sent (h : Numbered c k j) (hm : k.state.maySend = true) (d : DeviceId) (s : Stream)
    (data : Bytes) :
    Numbered c (k.sent data.length) (.emitted (some c) d s k.dataHeader data true :: j) := by
  have hk : k.state ≠ .lastAck ∧ k.state ≠ .closed := by
    constructor <;> intro hl <;> rw [hl] at hm <;> cases hm
  have hf := h.unfinished (.inl hm)
  have hy : (Flags.psh ||| .ack) ≠ .syn ||| .ack := by decide
  have hn : (Flags.psh ||| .ack).has .fin = false := by decide
  obtain ⟨hp, hj⟩ := h.advance (t := k.dataHeader) hk hf rfl hy d s data
  refine ⟨fun _ => ?_, fun hs => ?_, fun _ => ?_, hj⟩
  · rw [← hp, if_neg (by rw [show k.dataHeader.flags.has .fin = false from hn]; decide)]
    exact (UInt32.add_zero _).symm
  · rw [show k.state = .synReceived from hs] at hm
    cases hm
  · rw [finSent_emitted, hf, Bool.or_false]
    exact hn

theorem Numbered.closed (h : Numbered c k j) (ht : k.closeHeader? = some t) (d : DeviceId)
    (s : Stream) :
    Numbered c k.closed (.entered c .finWait1 :: .emitted (some c) d s t [] true :: j) := by
  obtain ⟨hm, rfl⟩ := Control.closeHeader?_eq_some ht
  have hk : k.state ≠ .lastAck ∧ k.state ≠ .closed := by
    constructor <;> intro hl <;> rw [hl] at hm <;> cases hm
  have hy : (k.header (.fin ||| .psh ||| .ack)).flags ≠ .syn ||| .ack := by
    rw [k.flags_header]
    decide
  have hn : (k.header (.fin ||| .psh ||| .ack)).flags.has .fin = true := by
    rw [k.flags_header]
    decide
  obtain ⟨hp, hj⟩ := h.advance hk (h.unfinished (.inr hm)) rfl hy d s []
  have hc : k.next + 1 = position c
      (.emitted (some c) d s (k.header (.fin ||| .psh ||| .ack)) [] true :: j) := by
    rw [← hp, if_pos hn, show UInt32.ofNat ([] : Bytes).length = 0 from rfl, UInt32.add_zero]
  have hn' : Numbered c k.closed
      (.emitted (some c) d s (k.header (.fin ||| .psh ||| .ack)) [] true :: j) :=
    ⟨fun _ => hc, nofun, fun hk => hk.elim nofun nofun, hj⟩
  exact hn'.quiet rfl trivial

theorem Numbered.failed (h : Numbered c k j)
    (ht : k.state.maySend = true ∧ t = k.dataHeader ∨ k.closeHeader? = some t ∧ data = [])
    (d : DeviceId) (s : Stream) : Numbered c k (.emitted (some c) d s t data false :: j) := by
  have hd : (Flags.psh ||| .ack) ≠ .syn ||| .ack := by decide
  have hc : (k.header (.fin ||| .psh ||| .ack)).flags ≠ .syn ||| .ack := by
    rw [k.flags_header]
    decide
  rcases ht with ⟨hm, rfl⟩ | ⟨ht, rfl⟩
  · have hf := h.unfinished (.inl hm)
    refine h.quiet rfl fun _ => h.inSequence (.inr ?_) rfl hd fun hl => absurd hl (by rw [hf]; decide)
    constructor <;> intro hl <;> rw [hl] at hm <;> cases hm
  · obtain ⟨hm, rfl⟩ := Control.closeHeader?_eq_some ht
    have hf := h.unfinished (.inr hm)
    refine h.quiet rfl fun _ => h.inSequence (.inr ?_) rfl hc fun hl => absurd hl (by rw [hf]; decide)
    constructor <;> intro hl <;> rw [hl] at hm <;> cases hm

theorem Numbered.opened (hj : ∀ e ∈ j, e.about ≠ some c) (isn : SeqNum) (cap : Nat) (d : DeviceId)
    (s s' : Stream) (b : Bool) : Numbered c (Control.accept isn cap).1
      (.emitted (some c) d s (Control.accept isn cap).2 [] b :: .opened c s' isn :: j) := by
  have ha : accepted c j = [] := by
    refine List.filterMap_eq_nil_iff.mpr fun e he => ?_
    exact accepted_eq_none (hj e he)
  have hp : position c (.opened c s' isn :: j) = 2 ∧ finSent c (.opened c s' isn :: j) = false := by
    unfold position finSent sentBytes
    rw [accepted_cons_of_none rfl, ha]
    exact ⟨rfl, rfl⟩
  have hn : (Flags.syn ||| .ack).has .fin = false := by decide
  have h : Numbered c (Control.accept isn cap).1 (.opened c s' isn :: j) := by
    exact ⟨fun _ => hp.1.symm, fun _ => rfl, fun _ => hp.2,
      (Justified.of_forall fun e he _ => sendsInSequence_of_about (hj e he)).cons trivial⟩
  exact h.emitted hn ⟨fun _ => rfl, fun hf => absurd rfl hf, fun _ => ⟨hn, rfl⟩⟩ d s b

/-- **A connection numbers its segments without gaps.** -/
theorem Life.numbered (hl : Life c s d k j) : Numbered c k j := by
  induction hl with
  | opened cap b hj ha hy => exact .opened hj _ cap d s s b
  | arrived hl s' seg ih => exact ih.quiet rfl trivial
  | took hl b ih => exact ih.took s d _ b
  | finished hl fin b ih => exact ih.finished s d fin b
  | failed hl t data ht ih => exact ih.failed ht d s
  | sent hl hm data ih => exact ih.sent hm d s data
  | closed hl ht ih => exact ih.closed ht d s

end

/-! ## The journal -/

namespace Host

variable {h : Host}

/-- **Every segment of a connection has the number that is due.** -/
theorem Visited.in_sequence (hv : Visited h) {newer older : List Event} {c : ConnId} {d : DeviceId}
    {s : Stream} {t : Header} {data : Bytes} {b : Bool}
    (hj : h.journal = newer ++ .emitted (some c) d s t data b :: older) :
    InSequence c older t data := by
  have hl := hv.justified (P := fun _ => SendsInSequence c) (fun hl => hl.numbered.justified) hj
    rfl rfl
  have ha : accepted c (older.filter (Event.concerns c)) = accepted c older := by
    refine filterMap_filter_of fun e he => accepted_eq_none fun hc => ?_
    rw [concerns_of_about hc] at he
    cases he
  obtain ⟨hp, hf⟩ := position_of_accepted ha
  exact ⟨hl.syn, fun ht => hp ▸ hl.seq ht, fun ht => hl.last (hf ▸ ht)⟩

theorem in_sequence_conversation : ∃ newer older d s t,
    conversation.journal = newer ++ .emitted (some 0) d s t [104, 105] true :: older ∧
      InSequence 0 older t [104, 105] := by
  have hm : [104, 105] ∈ (accepted 0 conversation.journal).map (·.2) := by decide +kernel
  obtain ⟨⟨t, data⟩, ht, rfl⟩ := List.mem_map.mp hm
  obtain ⟨e, he, ha⟩ := List.mem_filterMap.mp ht
  obtain ⟨d, s, rfl⟩ := accepted_eq_some ha
  obtain ⟨newer, older, hj⟩ := List.append_of_mem he
  exact ⟨newer, older, d, s, t, hj, visited_conversation.in_sequence hj⟩

end Host

end InetHost
