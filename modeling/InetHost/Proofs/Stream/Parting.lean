import InetHost.Proofs.Stream.Sequence
import InetHost.Proofs.Stream.Standing

/-!
# How a connection ends

A connection that its peer does not reset ends with a FIN of the host's own. Where the application
closes it, it does not go on until its device has taken the FIN. Where the peer closes first, the FIN is
the answer to the peer's, and the connection goes on even if its device refuses that answer.

A connection that was reset while the application was reading may still owe an acknowledgement. That is
all it sends after its end.

* `ResetIn`, `SilentSince`: a connection was reset, and it has sent nothing since;
* `fins`: the FINs of a connection; `Parted`: how many there are at all times;
* **`Visited.overtaken_or_reset_or_fin`**: who has left its place was overtaken, was reset or has given up
  one FIN;
* **`Visited.silent`**: nothing is sent between two ends after a connection was removed, until a SYN
  comes in, but for the acknowledgement that is owed and for the answer to a SYN that was waiting.
-/

namespace InetHost

open Tcp Switchboard

/-! ## Resets -/

/-- A segment for a connection. -/
def Event.sends (c : ConnId) : Event → Bool
  | .emitted c' _ _ _ _ _ => c' == some c
  | _ => false

/-- The segment that came in last, between two ends, is a RST. -/
def ResetComes (s : Stream) (j : List Event) : Prop :=
  ∃ seg, lastArrival j = some (s, seg) ∧ seg.flags.has .rst = true

/-- A connection was closed by a RST. -/
def ResetIn (c : ConnId) (s : Stream) (j : List Event) : Prop :=
  ∃ newer older, j = newer ++ .entered c .closed :: older ∧ ResetComes s older

/-- A connection was closed by a RST, and it has sent nothing since. -/
def SilentSince (c : ConnId) (s : Stream) (j : List Event) : Prop :=
  ∃ newer older, j = newer ++ .entered c .closed :: older ∧ ResetComes s older ∧
    ∀ e ∈ newer, e.sends c = false

section

variable {c : ConnId} {s : Stream} {j l : List Event}

theorem ResetIn.append (h : ResetIn c s j) (l : List Event) : ResetIn c s (l ++ j) := by
  obtain ⟨newer, older, rfl, hr⟩ := h
  exact ⟨l ++ newer, older, (List.append_assoc ..).symm, hr⟩

theorem SilentSince.append (h : SilentSince c s j) (hn : ∀ e ∈ l, e.sends c = false) :
    SilentSince c s (l ++ j) := by
  obtain ⟨newer, older, rfl, hr, hs⟩ := h
  refine ⟨l ++ newer, older, (List.append_assoc ..).symm, hr, fun e he => ?_⟩
  rcases List.mem_append.mp he with he | he
  · exact hn e he
  · exact hs e he

theorem resetComes_filter (s : Stream) (c : ConnId) (j : List Event) :
    ResetComes s (j.filter (Event.concerns c)) ↔ ResetComes s j := by
  unfold ResetComes
  rw [Host.lastArrival_filter]

theorem ResetIn.of_filter (h : ResetIn c s (j.filter (Event.concerns c))) : ResetIn c s j := by
  obtain ⟨new, old, hj, hr⟩ := h
  obtain ⟨newer, older, rfl, -, rfl⟩ := exists_of_filter hj
  exact ⟨newer, older, rfl, (resetComes_filter s c older).mp hr⟩

theorem SilentSince.of_filter (h : SilentSince c s (j.filter (Event.concerns c))) :
    SilentSince c s j := by
  obtain ⟨new, old, hj, hr, hs⟩ := h
  obtain ⟨newer, older, rfl, rfl, rfl⟩ := exists_of_filter hj
  refine ⟨newer, older, rfl, (resetComes_filter s c older).mp hr, fun e he => ?_⟩
  by_cases hc : e.concerns c = true
  · exact hs e (List.mem_filter.mpr ⟨he, hc⟩)
  · refine Bool.eq_false_iff.mpr fun hx => hc ?_
    cases e with
    | emitted => exact hx
    | _ => cases hx

end

/-! ## FINs -/

/-- The device of a connection took the host's FIN. -/
def Event.finSent (c : ConnId) : Event → Bool
  | .emitted c' _ _ t _ true => c' == some c && t.flags.has .fin
  | _ => false

/-- The device of a connection refused the host's FIN, which answered the peer's. -/
def Event.finLost (c : ConnId) : Event → Bool
  | .emitted c' _ _ t _ false => c' == some c && t.flags == .fin ||| .ack
  | _ => false

/-- The FINs of a connection that its device took. -/
def finsSent (c : ConnId) (j : List Event) : Nat := j.countP (Event.finSent c)

/-- The FINs of a connection that were lost on its device. -/
def finsLost (c : ConnId) (j : List Event) : Nat := j.countP (Event.finLost c)

/-- The FINs that a connection has given up: they went out or were lost. -/
def fins (c : ConnId) (j : List Event) : Nat := finsSent c j + finsLost c j

section

variable {c : ConnId} {s : Stream} {d : DeviceId} {k k' : Control} {j : List Event} {e : Event}
  {t : Header} {data : Bytes} {b : Bool}

theorem fins_of_about (he : e.about ≠ some c) : e.finSent c = false ∧ e.finLost c = false := by
  cases e with
  | emitted c' d s t data b =>
    have hc : (c' == some c) = false := beq_false_of_ne he
    cases b <;> exact ⟨by simp [Event.finSent, hc], by simp [Event.finLost, hc]⟩
  | _ => exact ⟨rfl, rfl⟩

theorem fins_emitted (ht : t.flags.has .fin = false) :
    (Event.emitted (some c) d s t data b).finSent c = false ∧
      (Event.emitted (some c) d s t data b).finLost c = false := by
  have hf : t.flags ≠ .fin ||| .ack := by
    rintro hf
    rw [hf] at ht
    exact absurd ht (by decide)
  cases b with
  | true => exact ⟨by simp [Event.finSent, ht], rfl⟩
  | false => exact ⟨rfl, by simp [Event.finLost, hf]⟩

theorem fins_append {l : List Event} (hn : ∀ e ∈ l, e.finSent c = false ∧ e.finLost c = false) :
    fins c (l ++ j) = fins c j := by
  have hs : l.countP (Event.finSent c) = 0 :=
    List.countP_eq_zero.mpr fun e he => by rw [(hn e he).1]; decide
  have hl : l.countP (Event.finLost c) = 0 :=
    List.countP_eq_zero.mpr fun e he => by rw [(hn e he).2]; decide
  unfold fins finsSent finsLost
  rw [List.countP_append, List.countP_append, hs, hl, Nat.zero_add, Nat.zero_add]

theorem fins_sent (ht : t.flags.has .fin = true) :
    fins c (.emitted (some c) d s t data true :: j) = fins c j + 1 := by
  have hs : (Event.emitted (some c) d s t data true).finSent c = true := by
    simp [Event.finSent, ht]
  unfold fins finsSent finsLost
  rw [List.countP_cons_of_pos hs, List.countP_cons_of_neg (by simp [Event.finLost])]
  omega

theorem fins_answer (ht : t.flags = .fin ||| .ack) (b : Bool) :
    fins c (.emitted (some c) d s t data b :: j) = fins c j + 1 := by
  cases b with
  | true => exact fins_sent (by rw [ht]; decide)
  | false =>
    have hl : (Event.emitted (some c) d s t data false).finLost c = true := by
      simp [Event.finLost, ht]
    unfold fins finsSent finsLost
    rw [List.countP_cons_of_pos hl, List.countP_cons_of_neg (by simp [Event.finSent])]
    omega

theorem fins_entries {r : Control × Outcome}
    (hr : ∀ t, r.2.reply = some t → t.flags.has .fin = false) :
    ∀ e ∈ entries c s d k r b, e.finSent c = false ∧ e.finLost c = false := by
  intro e he
  rcases List.mem_append.mp he with he | he
  · obtain ⟨data, -, rfl⟩ := List.mem_map.mp he
    exact ⟨rfl, rfl⟩
  rcases List.mem_append.mp he with he | he
  · obtain ⟨t, ht, rfl⟩ := List.mem_map.mp he
    exact fins_emitted (hr t (Option.mem_toList.mp ht))
  rcases List.mem_append.mp he with he | he
  · split_ifs at he
    · rw [List.mem_singleton.mp he]
      exact ⟨rfl, rfl⟩
    · cases he
  · rw [(mem_changes he).2]
    exact ⟨rfl, rfl⟩

/-! ### One connection -/

/-- **The FINs of a connection**: none while it may be closed, and then one, unless it was reset. -/
structure Parted (c : ConnId) (s : Stream) (k : Control) (j : List Event) : Prop where
  before : k.state.mayClose = true → fins c j = 0
  after : k.state.mayClose = false → ResetIn c s j ∨ fins c j = 1

theorem Parted.append (h : Parted c s k j) (hk : k'.state.mayClose = k.state.mayClose)
    {l : List Event} (hn : ∀ e ∈ l, e.finSent c = false ∧ e.finLost c = false) :
    Parted c s k' (l ++ j) := by
  have hf := fins_append (j := j) hn
  refine ⟨fun hm => ?_, fun hm => ?_⟩
  · rw [hf]
    exact h.before (hk ▸ hm)
  · rw [hf]
    exact (h.after (hk ▸ hm)).imp_left (·.append l)

theorem Parted.quiet (h : Parted c s k j) (hk : k'.state.mayClose = k.state.mayClose)
    (he : e.finSent c = false ∧ e.finLost c = false) : Parted c s k' (e :: j) :=
  h.append (l := [e]) hk fun _ hx => List.mem_singleton.mp hx ▸ he

theorem Control.mayClose_acked (k : Control) (seg : Segment) :
    (k.acked seg).mayClose = k.state.mayClose := by
  unfold Control.acked Control.acknowledged
  cases k.state with
  | finWait1 => split_ifs <;> rfl
  | _ => split_ifs <;> rfl

theorem Control.flags_of_reply_take {seg : Segment} (ht : (k.take seg).2.reply = some t) :
    t.flags = .syn ||| .ack := by
  have hk := k.take_cases seg
  generalize k.take seg = r at hk ht
  obtain ⟨k', o⟩ := r
  dsimp only at hk ht
  cases hk with
  | syn =>
    unfold Control.repeatSyn at ht
    split_ifs at ht
    rw [← Option.some.inj ht]
    rfl
  | _ => cases ht

theorem Parted.took {seg : Segment} (h : Parted c s k (.arrived s seg :: j)) (d : DeviceId)
    (b : Bool) :
    Parted c s (k.take seg).1 (entries c s d k (k.take seg) b ++ .arrived s seg :: j) := by
  have hq : ∀ e ∈ entries c s d k (k.take seg) b, e.finSent c = false ∧ e.finLost c = false :=
    fins_entries fun t ht => by rw [Control.flags_of_reply_take ht]; decide
  have hk := k.take_cases seg
  generalize k.take seg = r at hk hq ⊢
  obtain ⟨k', o⟩ := r
  dsimp only at hk hq ⊢
  cases hk with
  | reset hr =>
    refine ⟨nofun, fun _ => ?_⟩
    by_cases hc : k.state = .closed
    · have ha := h.after (by rw [hc]; rfl)
      rw [fins_append hq]
      exact ha.imp_left (·.append _)
    · have hn : State.closed ≠ k.state := Ne.symm hc
      refine .inl ⟨[], .arrived s seg :: j, ?_, seg, rfl, hr⟩
      unfold entries answers changes
      rw [if_neg hn]
      rfl
  | syn => exact h.append rfl hq
  | ends | empty | dropped | overflow | data => exact h.append (Control.mayClose_acked k seg) hq

theorem Parted.finished (h : Parted c s k j) (d : DeviceId) (fin b : Bool) :
    Parted c s (k.finish fin).1 (entries c s d k (k.finish fin) b ++ j) := by
  have hk := k.finish_cases fin
  generalize k.finish fin = r at hk ⊢
  obtain ⟨k', o⟩ := r
  dsimp only at hk ⊢
  have hf : Flags.ack.has .fin = false := by decide
  cases hk with
  | passive hs =>
    refine ⟨nofun, fun _ => .inr ?_⟩
    have hz := h.before (by rw [hs]; rfl)
    refine (fins_answer rfl b).trans (congrArg (· + 1) (Eq.trans (fins_append fun e he => ?_) hz))
    rcases List.mem_cons.mp he with rfl | he
    · exact ⟨rfl, rfl⟩
    · rw [(mem_changes he).2]
      exact ⟨rfl, rfl⟩
  | closing hs | ends hs =>
    refine h.append (by rw [hs]; rfl) (fins_entries fun t ht => ?_)
    rw [← Option.some.inj ht]
    exact hf
  | ack =>
    refine h.append (by rfl) (fins_entries fun t ht => ?_)
    rw [← Option.some.inj ht]
    exact hf
  | ignored | nothing => exact h.append (by rfl) (fins_entries fun t ht => by cases ht)

theorem Parted.failed (h : Parted c s k j)
    (ht : k.state.maySend = true ∧ t = k.dataHeader ∨ k.closeHeader? = some t ∧ data = [])
    (d : DeviceId) : Parted c s k (.emitted (some c) d s t data false :: j) := by
  refine h.quiet rfl ⟨rfl, ?_⟩
  have hf : t.flags ≠ .fin ||| .ack := by
    rcases ht with ⟨-, rfl⟩ | ⟨ht, -⟩
    · rw [Control.dataHeader, k.flags_header]
      decide
    · rw [(Control.closeHeader?_eq_some ht).2, k.flags_header]
      decide
  simp [Event.finLost, hf]

theorem Parted.closed (h : Parted c s k j) (ht : k.closeHeader? = some t) (d : DeviceId) :
    Parted c s k.closed (.entered c .finWait1 :: .emitted (some c) d s t [] true :: j) := by
  obtain ⟨hm, rfl⟩ := Control.closeHeader?_eq_some ht
  have hf : (k.header (.fin ||| .psh ||| .ack)).flags.has .fin = true := by
    rw [k.flags_header]
    decide
  have hc : Parted c s k.closed
      (.emitted (some c) d s (k.header (.fin ||| .psh ||| .ack)) [] true :: j) :=
    ⟨nofun, fun _ => .inr ((fins_sent hf).trans (congrArg (· + 1) (h.before hm)))⟩
  exact hc.quiet rfl ⟨rfl, rfl⟩

/-- **A connection gives up one FIN**, unless it is reset. -/
theorem Life.parted (hl : Life c s d k j) : Parted c s k j := by
  induction hl with
  | @opened j seg cap b hj ha hy =>
    have hz : fins c j = 0 := by
      rw [← List.append_nil j, fins_append fun e he => fins_of_about (hj e he)]
      rfl
    have ho : Parted c s (Control.accept seg.seq cap).1 j := ⟨fun _ => hz, nofun⟩
    have hf : (Control.accept seg.seq cap).2.flags.has .fin = false := by
      change (Flags.syn ||| .ack).has .fin = false
      decide
    exact (ho.quiet (e := .opened c s seg.seq) rfl ⟨rfl, rfl⟩).quiet rfl (fins_emitted hf)
  | arrived hl s' seg ih => exact ih.quiet rfl ⟨rfl, rfl⟩
  | took hl b ih => exact ih.took d b
  | finished hl fin b ih => exact ih.finished d fin b
  | failed hl t data ht ih => exact ih.failed ht d
  | sent hl hm data ih =>
    refine ih.quiet rfl (fins_emitted ?_)
    rw [Control.dataHeader, Control.flags_header]
    decide
  | closed hl ht ih => exact ih.closed ht d

/-! ## Acknowledgements that are owed -/

theorem Tcp.State.idle_of_isOver : ∀ s : State, s.isOver = true →
    s.mayReceive = false ∧ s.mayClose = false := by
  intro s
  cases s <;> decide

theorem Control.mayReceive_acked (seg : Segment) (hk : k.state.mayReceive = true) :
    (k.acked seg).mayReceive = true := by
  unfold Control.acked Control.acknowledged
  cases hs : k.state with
  | finWait1 => split_ifs <;> rfl
  | established | finWait2 => split_ifs <;> rfl
  | _ => rw [hs] at hk; cases hk

theorem Control.acked_closed (seg : Segment) (hk : k.state = .closed) : k.acked seg = .closed := by
  unfold Control.acked Control.acknowledged
  rw [hk]
  split_ifs <;> rfl

/-- A connection that takes data owes an acknowledgement; one that was reset may still owe it. -/
def Owes (c : ConnId) (s : Stream) (k : Control) (j : List Event) : Prop :=
  k.owesAck = true → k.state.mayReceive = true ∨ k.state = .closed ∧ SilentSince c s j

theorem Owes.acked (h : Owes c s k j) (seg : Segment) {k' : Control} (ho : k'.owesAck = k.owesAck)
    (hs : k'.state = k.acked seg) : Owes c s k' (changes c k k' ++ j) := by
  intro hk
  rw [hs]
  rcases h (ho ▸ hk) with hm | ⟨hc, hq⟩
  · exact .inl (Control.mayReceive_acked seg hm)
  · have ha := Control.acked_closed seg hc
    refine .inr ⟨ha, ?_⟩
    unfold changes
    rw [if_pos (by rw [hs, ha, hc])]
    exact hq

theorem Owes.took {seg : Segment} (h : Owes c s k (.arrived s seg :: j)) (d : DeviceId) (b : Bool) :
    Owes c s (k.take seg).1 (entries c s d k (k.take seg) b ++ .arrived s seg :: j) := by
  have hk := k.take_cases seg
  generalize k.take seg = r at hk ⊢
  obtain ⟨k', o⟩ := r
  dsimp only at hk ⊢
  cases hk with
  | reset hr =>
    intro ho
    refine .inr ⟨rfl, ?_⟩
    unfold entries answers changes
    dsimp only
    by_cases hc : State.closed = k.state
    · rw [if_pos hc]
      rcases h ho with hm | ⟨-, hq⟩
      · rw [← hc] at hm
        cases hm
      · exact hq
    · rw [if_neg hc]
      exact ⟨[], _, rfl, ⟨seg, rfl, hr⟩, List.forall_mem_nil _⟩
  | syn =>
    intro ho
    refine (h ho).imp_right fun ⟨hc, hq⟩ => ⟨hc, ?_⟩
    unfold entries answers changes Control.repeatSyn
    rw [if_neg (by rw [hc]; decide), if_pos rfl]
    exact hq
  | ends | empty | dropped | overflow => exact h.acked seg rfl rfl
  | data hr hy hs hp hm => exact fun _ => .inl hm

/-- **A connection owes an acknowledgement only while it takes data**, unless it was reset. -/
theorem Life.owes (hl : Life c s d k j) : Owes c s k j := by
  induction hl with
  | opened => exact nofun
  | arrived hl s' seg ih =>
    refine fun ho => (ih ho).imp_right fun ⟨hc, hq⟩ => ⟨hc, ?_⟩
    exact hq.append (l := [_]) fun e he => List.mem_singleton.mp he ▸ rfl
  | took hl b ih => exact ih.took d b
  | @finished k j hl fin b ih =>
    have hk := k.finish_cases fin
    generalize k.finish fin = r at hk ⊢
    obtain ⟨k', o⟩ := r
    dsimp only at hk ⊢
    cases hk with
    | nothing hn =>
      intro ho
      rw [hn] at ho
      cases ho
    | _ => exact nofun
  | @failed k j hl t data ht ih =>
    intro ho
    refine .inl ((ih ho).resolve_right fun ⟨hc, _⟩ => ?_)
    rcases ht with ⟨hm, -⟩ | ⟨ht, -⟩
    · rw [hc] at hm
      cases hm
    · have hm := (Control.closeHeader?_eq_some ht).1
      rw [hc] at hm
      cases hm
  | sent => exact nofun
  | closed => exact nofun

end

/-! ## The journal -/

theorem awaits_le {s : Stream} {e : Event}
    (hn : ∀ seg, e = .arrived s seg → seg.flags.has .syn = false) (r : Option ConnId) (n : Nat) :
    e.awaits s r n ≤ n := by
  cases e with
  | arrived s' seg =>
    dsimp only [Event.awaits]
    split_ifs with ha
    · obtain ⟨rfl, -, hy⟩ := ha
      unfold Segment.asks at hy
      rw [hn seg rfl] at hy
      cases hy
    · exact Nat.le_refl _
  | opened c s' isn =>
    dsimp only [Event.awaits]
    split_ifs
    · exact Nat.sub_le ..
    · exact Nat.le_refl _
  | emitted c d s' t data b =>
    cases c with
    | none =>
      dsimp only [Event.awaits]
      split_ifs
      · exact Nat.sub_le ..
      · exact Nat.le_refl _
    | some c => exact Nat.le_refl _
  | _ => exact Nat.le_refl _

theorem waiting_append_le {s : Stream} {new j : List Event}
    (hn : ∀ seg, .arrived s seg ∈ new → seg.flags.has .syn = false) :
    waiting s (new ++ j) ≤ waiting s j := by
  induction new with
  | nil => exact Nat.le_refl _
  | cons e new ih =>
    have he : ∀ seg, e = .arrived s seg → seg.flags.has .syn = false := by
      rintro seg rfl
      exact hn seg List.mem_cons_self
    exact Nat.le_trans (awaits_le he ..) (ih fun seg hm => hn seg (List.mem_cons_of_mem _ hm))

/-- A segment that no event of a place follows came in after the last of them. -/
theorem mem_of_places {e e' : Event} {mid older new old : List Event} (he : e.places = true)
    (hne : e ≠ e') (hn : ∀ x ∈ new, x.places = false) (h : mid ++ e :: older = new ++ e' :: old) :
    e' ∈ mid := by
  rcases List.append_eq_append_iff.mp h with ⟨l, rfl, hl⟩ | ⟨l, rfl, hl⟩
  · cases l with
    | nil => exact absurd (List.cons.inj hl).1 hne
    | cons x l =>
      obtain rfl := (List.cons.inj hl).1
      rw [hn e (List.mem_append_right _ List.mem_cons_self)] at he
      cases he
  · cases l with
    | nil => exact absurd (List.cons.inj hl).1.symm hne
    | cons x l =>
      obtain rfl := (List.cons.inj hl).1
      exact List.mem_append_right _ List.mem_cons_self

namespace Host

variable {h : Host} {newer mid older : List Event} {s : Stream} {c : ConnId} {e : Event}

theorem fins_filter (c : ConnId) (j : List Event) :
    fins c (j.filter (Event.concerns c)) = fins c j := by
  have hc : ∀ e : Event, e.concerns c = false → e.about ≠ some c := by
    intro e he hx
    rw [concerns_of_about hx] at he
    cases he
  unfold fins finsSent finsLost
  rw [countP_filter_of fun e he => (fins_of_about (hc e he)).1,
    countP_filter_of fun e he => (fins_of_about (hc e he)).2]

/-- **Who leaves its place** was overtaken, was reset, or has given up one FIN. -/
theorem Visited.overtaken_or_reset_or_fin (hv : Visited h) (hj : h.journal = newer ++ e :: older)
    (hr : registrant s older = some c) (hn : registrant s (e :: older) ≠ some c) :
    Overtaken c s older ∨ ResetIn c s older ∨ finsSent c older + finsLost c older = 1 := by
  have he := hv.stands hj
  cases (hv.stays hj hr).resolve_left hn with
  | overtaken ho => exact .inl ho
  | ended hs ho =>
    obtain ⟨-, -, k, ⟨d, hl⟩, hk⟩ := he
    have hm := (State.idle_of_isOver _ hk).2
    refine .inr ((hl.parted.after hm).imp (·.of_filter) fun hf => ?_)
    rwa [fins_filter] at hf

/-! ### A FIN that is lost -/

/-- A connection whose device refuses the answer to the peer's FIN, and whose peer acknowledges it all
the same. -/
def forsaken : Host := talked
  [.store ⟨10, 0, 0, 2⟩ ⟨2, 0, 0, 0, 0, 2⟩, .serveEcho, fromPeer ⟨99, 0, .syn, 1000⟩ [],
    fromPeer ⟨100, 2, .ack, 1000⟩ [], .setFailure 0 (some { kind := .wouldBlock }),
    fromPeer ⟨100, 2, .fin ||| .ack, 1000⟩ [], .setFailure 0 none,
    fromPeer ⟨101, 2, .ack, 1000⟩ []]

theorem visited_forsaken : Visited forsaken := visited_talked (by decide +kernel)

theorem journal_forsaken : ∃ e older, forsaken.journal = e :: older ∧
    registrant peerStream older = some 0 ∧ registrant peerStream (e :: older) = none ∧
    finsSent 0 older = 0 ∧ ∀ a ∈ older.filterMap Event.arrival, a.2.flags.has .rst = false := by
  have hn : forsaken.journal.isEmpty = false := by decide +kernel
  have hr : registrant peerStream forsaken.journal.tail = some 0 := by decide +kernel
  have hr' : registrant peerStream forsaken.journal = none := by decide +kernel
  have hf : finsSent 0 forsaken.journal.tail = 0 := by decide +kernel
  have ha : ∀ a ∈ forsaken.journal.tail.filterMap Event.arrival, a.2.flags.has .rst = false := by
    decide +kernel
  generalize forsaken.journal = j at hn hr hr' hf ha
  cases j with
  | nil => cases hn
  | cons e older => exact ⟨e, older, rfl, hr, hr', hf, ha⟩

/-- **A connection may end without a FIN that its device took**, and without a RST. -/
theorem forsaken_ends : Visited forsaken ∧ ∃ e older, forsaken.journal = e :: older ∧
    registrant peerStream older = some 0 ∧ registrant peerStream (e :: older) = none ∧
    finsSent 0 older = 0 ∧ ∀ a ∈ older.filterMap Event.arrival, a.2.flags.has .rst = false :=
  ⟨visited_forsaken, journal_forsaken⟩

theorem overtaken_or_reset_or_fin_forsaken : ∃ newer e older, forsaken.journal = newer ++ e :: older ∧
    registrant peerStream older = some 0 ∧ registrant peerStream (e :: older) ≠ some 0 ∧
    (Overtaken 0 peerStream older ∨ ResetIn 0 peerStream older ∨
      finsSent 0 older + finsLost 0 older = 1) := by
  obtain ⟨e, older, hj, hr, hr', -⟩ := journal_forsaken
  have hn : registrant peerStream (e :: older) ≠ some 0 := by
    rw [hr']
    nofun
  have hj' : forsaken.journal = [] ++ e :: older := hj
  exact ⟨[], e, older, hj', hr, hn, visited_forsaken.overtaken_or_reset_or_fin hj' hr hn⟩

/-! ### Silence -/

/-- Who has a place that was free when some events began was waiting then, unless a SYN came in. -/
theorem Visited.waiting_pos (hv : Visited h) (hj : h.journal = newer ++ (mid ++ older))
    (hr : registrant s (mid ++ older) = some c) (hn : registrant s older = none)
    (hm : ∀ seg, .arrived s seg ∈ mid → seg.flags.has .syn = false) : 0 < waiting s older := by
  obtain ⟨isn, new, old, rfl⟩ := exists_opened hr (by rw [hn]; nofun)
  have hj' : h.journal = (newer ++ new) ++ .opened c s isn :: (old ++ older) := by
    rw [hj]
    simp only [List.append_assoc, List.cons_append]
  have hw := (hv.stands hj').2.1
  refine Nat.lt_of_lt_of_le hw (waiting_append_le fun seg hx => hm seg ?_)
  exact List.mem_append_right _ (List.mem_cons_of_mem _ hx)

/-- **Who was removed is silent**, until a SYN comes in. -/
theorem Visited.silent (hv : Visited h) {c₀ c₁ : ConnId} {o : Option ConnId} {d : DeviceId}
    {t : Header} {data : Bytes} {b : Bool}
    (hj : h.journal = newer ++ .emitted o d s t data b :: (mid ++ .removed c₀ s c₁ :: older))
    (hm : ∀ seg, .arrived s seg ∈ mid → seg.flags.has .syn = false) :
    (∃ c, o = some c ∧ t.flags = .ack ∧ data = [] ∧
      SilentSince c s (mid ++ .removed c₀ s c₁ :: older)) ∨ 0 < waiting s older := by
  have he := hv.stands hj
  cases o with
  | none =>
    -- a SYN is refused at once, and it would have come in after the removal
    obtain ⟨seg, new, old, hx, hy, hp⟩ := he
    have hs : .arrived s seg ∈ mid :=
      mem_of_places (e := .removed c₀ s c₁) rfl nofun hp hx
    rw [hm seg hs] at hy
    cases hy
  | some c =>
    rcases he with hr | ⟨hf, hd, k, ⟨d', hl⟩, hk, ho⟩
    · refine .inr ?_
      have hn : registrant s (.removed c₀ s c₁ :: older) = none := by simp
      have hj' : h.journal = (newer ++ [.emitted (some c) d s t data b]) ++
          (mid ++ .removed c₀ s c₁ :: older) := by
        rw [hj, List.append_assoc]
        rfl
      have hw : 0 < waiting s (.removed c₀ s c₁ :: older) := hv.waiting_pos hj' hr hn hm
      exact hw
    · refine .inl ⟨c, rfl, hf, hd, ?_⟩
      refine SilentSince.of_filter ((hl.owes ho).resolve_left fun hx => ?_).2
      cases hx.symm.trans (State.idle_of_isOver _ hk).1

/-! ### An acknowledgement after the end -/

/-- A listener that receives a RST of its peer while it reads. -/
def overheard : Host := talked
  [.store ⟨10, 0, 0, 2⟩ ⟨2, 0, 0, 0, 0, 2⟩, .listen echoPort [] [[fromPeer ⟨102, 0, .rst, 0⟩ []]],
    fromPeer ⟨99, 0, .syn, 1000⟩ [], fromPeer ⟨100, 2, .psh ||| .ack, 1000⟩ [104, 105]]

theorem visited_overheard : Visited overheard := visited_talked (by decide +kernel)

/-- A segment between two ends, for a connection. -/
def sendsAt (s : Stream) (c : ConnId) : Event → Bool
  | .emitted c' _ s' _ _ _ => c' == some c && s' == s
  | _ => false

theorem eq_of_sendsAt (he : sendsAt s c e = true) :
    ∃ d t data b, e = .emitted (some c) d s t data b := by
  cases e with
  | emitted c' d s' t data b =>
    obtain ⟨hc, hs⟩ := Bool.and_eq_true_iff.mp he
    rw [beq_iff_eq.mp hc, beq_iff_eq.mp hs]
    exact ⟨d, t, data, b, rfl⟩
  | _ => cases he

theorem eq_of_removes (he : removes s e = true) : ∃ c c', e = .removed c s c' := by
  cases e with
  | removed c s' c' =>
    rw [show s' = s from beq_iff_eq.mp he]
    exact ⟨c, c', rfl⟩
  | _ => cases he

theorem journal_overheard : ∃ mid older c₀ c₁ d t data b,
    overheard.journal = .emitted (some 0) d peerStream t data b ::
      (mid ++ .removed c₀ peerStream c₁ :: older) ∧ mid.filterMap Event.arrival = [] := by
  have hs : overheard.journal.head?.map (sendsAt peerStream 0) = some true := by decide +kernel
  have hr : (overheard.journal.tail.drop 4).head?.map (removes peerStream) = some true := by
    decide +kernel
  have hm : (overheard.journal.tail.take 4).filterMap Event.arrival = [] := by decide +kernel
  generalize overheard.journal = j at hs hr hm
  cases j with
  | nil => cases hs
  | cons e j =>
    obtain ⟨d, t, data, b, rfl⟩ := eq_of_sendsAt (Option.some.inj hs)
    cases hd : j.drop 4 with
    | nil =>
      rw [List.tail_cons, hd] at hr
      cases hr
    | cons e' older =>
      rw [List.tail_cons, hd] at hr
      obtain ⟨c₀, c₁, rfl⟩ := eq_of_removes (Option.some.inj hr)
      refine ⟨j.take 4, older, c₀, c₁, d, t, data, b, ?_, hm⟩
      rw [← hd, List.take_append_drop]

/-- **A connection may speak after its end**, though no SYN has come in since. -/
theorem overheard_speaks : Visited overheard ∧ ∃ mid older c₀ c₁ d t data b,
    overheard.journal = .emitted (some 0) d peerStream t data b ::
      (mid ++ .removed c₀ peerStream c₁ :: older) ∧ mid.filterMap Event.arrival = [] :=
  ⟨visited_overheard, journal_overheard⟩

theorem silent_overheard : ∃ newer mid older c₀ c₁ d t data b,
    overheard.journal = newer ++ .emitted (some 0) d peerStream t data b ::
      (mid ++ .removed c₀ peerStream c₁ :: older) ∧
    (∀ seg, .arrived peerStream seg ∈ mid → seg.flags.has .syn = false) ∧
    ((∃ c, some 0 = some c ∧ t.flags = .ack ∧ data = [] ∧
      SilentSince c peerStream (mid ++ .removed c₀ peerStream c₁ :: older)) ∨
        0 < waiting peerStream older) := by
  obtain ⟨mid, older, c₀, c₁, d, t, data, b, hj, hm⟩ := journal_overheard
  have hs : ∀ seg, .arrived peerStream seg ∈ mid → seg.flags.has .syn = false := by
    intro seg hx
    cases (List.filterMap_eq_nil_iff.mp hm) _ hx
  have hj' : overheard.journal = [] ++ .emitted (some 0) d peerStream t data b ::
      (mid ++ .removed c₀ peerStream c₁ :: older) := hj
  exact ⟨[], mid, older, c₀, c₁, d, t, data, b, hj', hs, visited_overheard.silent hj' hs⟩

end Host

end InetHost
