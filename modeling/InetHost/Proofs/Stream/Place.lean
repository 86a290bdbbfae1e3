import InetHost.Proofs.Stream.Lifecycle

/-!
# Who is between two ends

The journal tells who is alive between two ends: the connection that was opened there last, until it
is removed or loses its place. A SYN opens a connection only after its listener was asked, and other
segments may come in meanwhile. So several SYNs may wait for the same place.

* `registrant`: who is between two ends; `waiting`: how many SYNs wait for a listener there;
* **`Traffic.seated`**: the registry says what the journal says;
* `Waits`, **`Traffic.waits`**: what has come to its end leaves as many SYNs waiting as it found, and
  one more waits whenever it opens a connection.
-/

namespace InetHost

open Tcp Switchboard

/-! ## Events -/

/-- Who is between two ends from an event on. -/
def Event.seats (s : Stream) : Event → Option (Option ConnId)
  | .opened c s' _ => if s' = s then some (some c) else none
  | .removed _ s' _ | .replaced _ s' => if s' = s then some none else none
  | _ => none

/-- Who is between two ends. -/
def registrant (s : Stream) (j : List Event) : Option ConnId :=
  (j.filterMap (Event.seats s)).head?.join

/-- A SYN for a listener: it neither resets nor acknowledges anything. -/
def Tcp.Segment.asks (seg : Segment) : Bool :=
  seg.flags.has .syn && !seg.flags.has .rst && !seg.flags.has .ack

/-- How many SYNs wait after an event, of `n` before it. One more waits if nobody was between the two
ends when it came in, and one less when it is accepted or refused. -/
def Event.awaits (s : Stream) (r : Option ConnId) (n : Nat) : Event → Nat
  | .arrived s' seg => if s' = s ∧ r = none ∧ seg.asks = true then n + 1 else n
  | .opened _ s' _ => if s' = s then n - 1 else n
  | .emitted none _ s' t _ _ => if s' = s ∧ t.flags.has .ack = true then n - 1 else n
  | _ => n

/-- How many SYNs wait for a listener to make place for them between two ends. -/
def waiting (s : Stream) : List Event → Nat
  | [] => 0
  | e :: j => e.awaits s (registrant s j) (waiting s j)

/-- An event that may change who is between two ends, or who waits. -/
def Event.places : Event → Bool
  | .arrived _ _ | .opened _ _ _ | .removed _ _ _ | .replaced _ _ | .emitted none _ _ _ _ _ => true
  | _ => false

section

variable {s s' : Stream} {c : ConnId} {e : Event} {j new older : List Event}

theorem registrant_cons (s : Stream) (e : Event) (j : List Event) :
    registrant s (e :: j) = (e.seats s).getD (registrant s j) := by
  unfold registrant
  cases he : e.seats s with
  | none => rw [List.filterMap_cons_none he, Option.getD_none]
  | some r => rw [List.filterMap_cons_some he, List.head?_cons, Option.getD_some, Option.join_some]

@[simp] theorem registrant_opened (s s' : Stream) (c : ConnId) (isn : SeqNum) (j : List Event) :
    registrant s (.opened c s' isn :: j) = if s' = s then some c else registrant s j := by
  rw [registrant_cons]
  dsimp only [Event.seats]
  split_ifs <;> rfl

@[simp] theorem registrant_removed (s s' : Stream) (c d : ConnId) (j : List Event) :
    registrant s (.removed c s' d :: j) = if s' = s then none else registrant s j := by
  rw [registrant_cons]
  dsimp only [Event.seats]
  split_ifs <;> rfl

@[simp] theorem registrant_replaced (s s' : Stream) (c : ConnId) (j : List Event) :
    registrant s (.replaced c s' :: j) = if s' = s then none else registrant s j := by
  rw [registrant_cons]
  dsimp only [Event.seats]
  split_ifs <;> rfl

theorem seats_of_places (he : e.places = false) (s : Stream) : e.seats s = none := by
  cases e with
  | opened | removed | replaced => cases he
  | _ => rfl

theorem awaits_of_places (he : e.places = false) (s : Stream) (r : Option ConnId) (n : Nat) :
    e.awaits s r n = n := by
  cases e with
  | arrived | opened => cases he
  | emitted c =>
    cases c with
    | none => cases he
    | some c => rfl
  | _ => rfl

theorem placing_append (hn : ∀ e ∈ new, e.places = false) (s : Stream) :
    registrant s (new ++ j) = registrant s j ∧ waiting s (new ++ j) = waiting s j := by
  induction new with
  | nil => exact ⟨rfl, rfl⟩
  | cons e new ih =>
    obtain ⟨hr, hw⟩ := ih fun e he => hn e (List.mem_cons_of_mem _ he)
    have he := hn e List.mem_cons_self
    constructor
    · rw [List.cons_append, registrant_cons, seats_of_places he, Option.getD_none, hr]
    · exact (awaits_of_places he ..).trans hw

/-- A segment that finds somebody, or is no SYN for a listener, does not wait. -/
theorem waiting_arrived {seg : Segment} (h : registrant s j ≠ none ∨ seg.asks = false)
    (s' : Stream) : waiting s' (.arrived s seg :: j) = waiting s' j := by
  refine if_neg fun hw => ?_
  obtain ⟨rfl, hr, ha⟩ := hw
  rcases h with h | h
  · exact h hr
  · rw [h] at ha
    cases ha

/-- Who is between two ends was opened there. -/
theorem exists_opened (hr : registrant s (new ++ j) = some c) (hj : registrant s j ≠ some c) :
    ∃ isn newer older, new = newer ++ .opened c s isn :: older := by
  induction new with
  | nil => exact absurd hr hj
  | cons e new ih =>
    rw [List.cons_append, registrant_cons] at hr
    cases he : e.seats s with
    | none =>
      rw [he, Option.getD_none] at hr
      obtain ⟨isn, newer, older, rfl⟩ := ih hr
      exact ⟨isn, e :: newer, older, rfl⟩
    | some r =>
      rw [he, Option.getD_some] at hr
      subst hr
      cases e with
      | opened c' s' isn =>
        dsimp only [Event.seats] at he
        split_ifs at he with hs
        cases he
        exact ⟨isn, [], new, by rw [hs]; rfl⟩
      | removed c' s' d | replaced c' s' =>
        dsimp only [Event.seats] at he
        split_ifs at he
        cases he
      | _ => cases he

/-! ### Parts of the journal -/

theorem onBoard_of_places (he : e.places = true) : e.onBoard = true := by
  cases e with
  | arrived | opened | removed | replaced | emitted => rfl
  | _ => cases he

theorem registrant_filter (s : Stream) (j : List Event) :
    registrant s (j.filter Event.onBoard) = registrant s j := by
  unfold registrant
  rw [filterMap_filter_of fun e he => seats_of_places (Bool.eq_false_iff.mpr fun hp => ?_) s]
  rw [onBoard_of_places hp] at he
  cases he

theorem waiting_filter (s : Stream) (j : List Event) :
    waiting s (j.filter Event.onBoard) = waiting s j := by
  induction j with
  | nil => rfl
  | cons e j ih =>
    by_cases he : e.onBoard = true
    · rw [List.filter_cons_of_pos he, waiting, waiting, registrant_filter, ih]
    · have hp : e.places = false := Bool.eq_false_iff.mpr fun hp => he (onBoard_of_places hp)
      rw [List.filter_cons_of_neg he, ih, waiting, awaits_of_places hp]

end

/-! ## The registry -/

/-- **The registry says what the journal says.** -/
structure Seated (v : Switchboard) : Prop where
  found : ∀ s, v.stream? s = registrant s v.history

section

variable {v w x : Switchboard} {c : ConnId} {e : Bool}

theorem Seated.quiet (h : Seated v) {new : List Event} (hh : w.history = new ++ v.history)
    (hn : ∀ e ∈ new, e.places = false) (hs : ∀ s, w.stream? s = v.stream? s) : Seated w where
  found s := by
    rw [hs, hh, (placing_append hn s).1]
    exact h.found s

theorem Seated.log (h : Seated v) {e : Event} (he : ∀ s, e.seats s = none) : Seated (v.log e) where
  found s := by
    change v.stream? s = registrant s (e :: v.history)
    rw [registrant_cons, he, Option.getD_none]
    exact h.found s

theorem places_answers {s : Stream} {d : DeviceId} {k : Control} {r : Control × Outcome} {b : Bool} :
    ∀ e ∈ answers c s d k r b, e.places = false := by
  intro e he
  rcases mem_answers he with ⟨t, rfl⟩ | rfl | ⟨-, rfl⟩ <;> rfl

theorem places_delivered {o : Outcome} :
    ∀ e ∈ o.deliver.toList.map (Event.delivered c), e.places = false := by
  intro e he
  obtain ⟨data, -, rfl⟩ := List.mem_map.mp he
  rfl

theorem places_advanced {s : Stream} {d : DeviceId} {t : Header} {data : Bytes} {k k' : Control}
    {b : Bool} : ∀ e ∈ (if b then changes c k k' else []) ++ [.emitted (some c) d s t data b],
      e.places = false := by
  intro e he
  rcases List.mem_append.mp he with he | he
  · split_ifs at he
    · rw [(mem_changes he).2]
      rfl
    · cases he
  · rw [List.mem_singleton.mp he]
    rfl

theorem history_advance_append (v : Switchboard) (c : ConnId) (t : Header) (data : Bytes)
    (k : Control) (b : Bool) : (v.advance c t data k b).history =
      ((if b then changes c (v.control c) k else []) ++
        [.emitted (some c) (v.line c).device (v.line c).stream t data b]) ++ v.history := by
  rw [history_advance, List.append_assoc]
  rfl

theorem Seated.work (h : Seated v) (c : ConnId) (r : Control × Outcome) (b : Bool) :
    Seated ((v.steer c r).settle c r.2 b) := by
  refine ⟨fun s => ?_⟩
  have ha : registrant s (answers c (v.line c).stream (v.line c).device (v.control c) r b ++
      v.history) = v.stream? s := by
    rw [(placing_append places_answers s).1, h.found s]
  rw [stream?_settle, stream?_steer, (acts_steer c r v).stream, history_work]
  unfold removal
  by_cases ht : r.2.teardown = true
  · rw [if_pos ht]
    cases hs : v.stream? (v.line c).stream with
    | none =>
      dsimp only
      rw [List.nil_append, ha]
      split_ifs with hss
      · rw [hss.2, hs]
      · rfl
    | some c' =>
      dsimp only
      rw [List.singleton_append, registrant_removed, ha]
      by_cases hss : s = (v.line c).stream
      · rw [if_pos ⟨ht, hss⟩, if_pos hss.symm]
      · rw [if_neg fun hx => hss hx.2, if_neg (Ne.symm hss)]
  · rw [if_neg ht, if_neg fun hx => ht hx.1, List.nil_append, ha]

theorem Seated.deliver (h : Seated v) (c : ConnId) (o : Outcome) : Seated (v.deliver c o) := by
  refine h.quiet (history_deliver ..) places_delivered fun s => ?_
  unfold Switchboard.deliver
  split <;> rfl

theorem Seated.take (h : Seated v) (s : Stream) (c : ConnId) (seg : Segment) (b : Bool) :
    Seated ((v.log (.arrived s seg)).take c seg b) :=
  ((h.log fun _ => rfl).work c _ b).deliver c _

theorem Seated.connect (h : Seated v) (s : Stream) (d : DeviceId) (isn : SeqNum) (b : Bool) :
    Seated (v.connect s d isn b) := by
  refine ⟨fun s' => ?_⟩
  rw [stream?_connect, history_connect, registrant_cons]
  dsimp only [Event.seats, Option.getD_none]
  rw [registrant_opened]
  by_cases hs : s' = s
  · rw [if_pos hs, if_pos hs.symm]
  · rw [if_neg hs, if_neg (Ne.symm hs), h.found s']
    unfold replacement
    split
    · rw [List.singleton_append, registrant_replaced, if_neg (Ne.symm hs)]
    · rfl

/-- **The registry says what the journal says**, along all traffic. -/
theorem Traffic.seated (ht : Traffic e v w) (h : Seated v) : Seated w := by
  induction ht with
  | refl | cut => exact h
  | trans _ _ h₁ h₂ => exact h₂ (h₁ h)
  | call v e he =>
    refine h.log fun s => ?_
    cases e with
    | opened | removed | replaced => cases he
    | _ => rfl
  | send hs hm data b =>
    exact h.quiet (history_advance_append ..) places_advanced fun s => stream?_advance ..
  | shut hs ht b =>
    exact h.quiet (history_advance_append ..) places_advanced fun s => stream?_advance ..
  | ignore => exact h.log fun _ => rfl
  | refuse => exact (h.log fun _ => rfl).log fun _ => rfl
  | accepting _ _ ih => exact ih (h.log fun _ => rfl)
  | accept _ _ _ _ d b _ _ ih => exact (ih (h.log fun _ => rfl)).connect ..
  | ends _ _ b => exact h.take ..
  | reading _ _ b _ ih => exact ih (h.take ..)
  | receive _ _ b b' _ ih => exact (ih (h.take ..)).work ..

/-! ## SYNs that wait -/

/-- A connection is opened while more SYNs wait than at the start. -/
def OpensAbove (start : List Event) (older : List Event) : Event → Prop
  | .opened _ s _ => waiting s start < waiting s (older ++ start)
  | _ => True

/-- **What traffic does to those who wait.** -/
structure Waits (e : Bool) (v w : Switchboard) : Prop where
  least : ∀ s, waiting s v.history ≤ waiting s w.history
  done : e = true → ∀ s, waiting s w.history = waiting s v.history
  opens : ∃ new, w.history = new ++ v.history ∧ Justified (OpensAbove v.history) new

theorem Waits.trans (h₁ : Waits true v w) (h₂ : Waits e w x) : Waits e v x where
  least s := Nat.le_trans (h₁.least s) (h₂.least s)
  done he s := (h₂.done he s).trans (h₁.done rfl s)
  opens := by
    obtain ⟨new₁, hw, hn₁⟩ := h₁.opens
    obtain ⟨new₂, hx, hn₂⟩ := h₂.opens
    refine ⟨new₂ ++ new₁, by rw [hx, hw, List.append_assoc], hn₁.extend hn₂ fun older e ho => ?_⟩
    cases e with
    | opened c s isn =>
      change waiting s v.history < waiting s ((older ++ new₁) ++ v.history)
      rw [List.append_assoc, ← hw, ← h₁.done rfl s]
      exact ho
    | _ => trivial

theorem waits_of_eq {l : List Event} (hh : w.history = l ++ v.history)
    (hn : ∀ e ∈ l, ∀ c s isn, e ≠ .opened c s isn)
    (hw : ∀ s, waiting s w.history = waiting s v.history) : Waits true v w where
  least s := Nat.le_of_eq (hw s).symm
  done _ := hw
  opens := by
    refine ⟨l, hh, Justified.of_forall fun e he older => ?_⟩
    cases e with
    | opened c s isn => exact absurd rfl (hn _ he c s isn)
    | _ => trivial

theorem waits_quiet {l : List Event} (hh : w.history = l ++ v.history)
    (hn : ∀ e ∈ l, e.places = false) : Waits true v w := by
  refine waits_of_eq hh (fun e he c s isn => ?_) fun s => by rw [hh, (placing_append hn s).2]
  rintro rfl
  cases hn _ he

theorem Waits.refl (v : Switchboard) : Waits true v v :=
  waits_quiet (l := []) rfl (List.forall_mem_nil _)

theorem Waits.cut (h : Waits true v w) : Waits false v w := ⟨h.least, nofun, h.opens⟩

theorem waits_arrived (h : Seated v) {s : Stream} (seg : Segment)
    (hs : v.stream? s ≠ none ∨ seg.asks = false) : Waits true v (v.log (.arrived s seg)) := by
  refine waits_of_eq (l := [.arrived s seg]) rfl (fun e he => ?_) fun s' => ?_
  · rw [List.mem_singleton.mp he]
    nofun
  · exact waiting_arrived (hs.imp_left fun hn => by rwa [← h.found s]) s'

theorem waits_work (v : Switchboard) (c : ConnId) (r : Control × Outcome) (b : Bool) :
    Waits true v ((v.steer c r).settle c r.2 b) := by
  have hr : ∀ e ∈ v.removal c r.2, ∃ c' s, e = .removed c' s c := by
    intro e he
    unfold removal at he
    split_ifs at he
    · split at he
      · exact ⟨_, _, List.mem_singleton.mp he⟩
      · cases he
    · cases he
  have hw := history_work v c r b
  rw [← List.append_assoc] at hw
  refine waits_of_eq hw (fun e he c' s isn => ?_) fun s => ?_
  · rintro rfl
    rcases List.mem_append.mp he with he | he
    · obtain ⟨_, _, hx⟩ := hr _ he
      cases hx
    · cases places_answers _ he
  · have ha : waiting s (answers c (v.line c).stream (v.line c).device (v.control c) r b ++
        v.history) = waiting s v.history := (placing_append places_answers s).2
    rw [hw, List.append_assoc]
    refine Eq.trans ?_ ha
    -- a removal changes who is there, but nobody waits more or less
    revert hr
    generalize v.removal c r.2 = l
    intro hr
    induction l with
    | nil => rfl
    | cons e l ih =>
      obtain ⟨c', s', rfl⟩ := hr e List.mem_cons_self
      exact ih fun e he => hr e (List.mem_cons_of_mem _ he)

theorem waits_take (h : Seated v) {s : Stream} (hs : v.stream? s = some c) (seg : Segment)
    (b : Bool) : Waits true v ((v.log (.arrived s seg)).take c seg b) := by
  have ha := waits_arrived h seg (.inl (by rw [hs]; nofun))
  exact (ha.trans (waits_work _ c _ b)).trans (waits_quiet (history_deliver ..) places_delivered)

theorem waiting_asked (h : Seated v) {s : Stream} {seg : Segment} (hs : v.stream? s = none)
    (ha : seg.asks = true) (s' : Stream) : waiting s' (v.log (.arrived s seg)).history =
      waiting s' v.history + if s = s' then 1 else 0 := by
  change Event.awaits s' _ _ _ = _
  dsimp only [Event.awaits]
  by_cases hss : s = s'
  · subst hss
    rw [if_pos ⟨rfl, (h.found s).symm.trans hs, ha⟩, if_pos rfl]
  · rw [if_neg fun hx => hss hx.1, if_neg hss]
    rfl

theorem asks_of_flags {seg : Segment} (hr : seg.flags.has .rst = false)
    (hy : seg.flags.has .syn = true) : seg.asks = !seg.flags.has .ack := by
  unfold Segment.asks
  rw [hr, hy]
  rfl

/-- What refuses a segment acknowledges it, unless it acknowledges something itself. -/
theorem has_ack_reset (f : Flags) (seq ack : SeqNum) :
    (Header.reset f seq ack).flags.has .ack = !f.has .ack := by
  unfold Header.reset
  split_ifs with hk
  · rw [hk]
    change Flags.rst.has .ack = false
    decide
  · rw [Bool.eq_false_iff.mpr hk]
    change (Flags.rst ||| .ack).has .ack = true
    decide

/-- A SYN is refused: if it waited, it does so no more. -/
theorem waits_refused (h : Seated v) {s : Stream} {seg : Segment} (hs : v.stream? s = none)
    (hr : seg.flags.has .rst = false) (hy : seg.flags.has .syn = true) (d : DeviceId) (b : Bool) :
    Waits true v ((v.log (.arrived s seg)).log
      (.emitted none d s (.reset seg.flags seg.seq seg.ack) [] b)) := by
  have ha := asks_of_flags hr hy
  refine waits_of_eq (l := [.emitted none d s _ [] b, .arrived s seg]) rfl (fun e he => ?_)
    fun s' => ?_
  · simp only [List.mem_cons, List.not_mem_nil, or_false] at he
    rcases he with rfl | rfl <;> nofun
  · change Event.awaits s' _ _ _ = _
    dsimp only [Event.awaits]
    rw [has_ack_reset, ← ha]
    cases ha : seg.asks with
    | false =>
      rw [if_neg fun hx => Bool.noConfusion hx.2]
      exact waiting_arrived (.inr ha) s'
    | true =>
      rw [waiting_asked h hs ha s']
      split_ifs with h₁ h₂ h₂
      · rfl
      · exact absurd h₁.1 h₂
      · exact absurd ⟨h₂, rfl⟩ h₁
      · rfl

theorem opensAbove_replacement (start older : List Event) (v : Switchboard) (s : Stream) :
    ∀ e ∈ v.replacement s, OpensAbove start older e := by
  intro e he
  obtain ⟨old, rfl⟩ := mem_replacement he
  trivial

theorem placing_replacement (v : Switchboard) (s s' : Stream) :
    waiting s' (v.replacement s ++ v.history) = waiting s' v.history := by
  unfold replacement
  split <;> rfl

theorem waiting_le_arrived (s : Stream) (seg : Segment) (j : List Event) (s' : Stream) :
    waiting s' j ≤ waiting s' (.arrived s seg :: j) := by
  change _ ≤ Event.awaits s' _ _ _
  dsimp only [Event.awaits]
  split_ifs
  · exact Nat.le_succ _
  · exact Nat.le_refl _

theorem Waits.arrived {s : Stream} {seg : Segment} (hw : Waits e (v.log (.arrived s seg)) w) :
    Waits false v w := by
  obtain ⟨new, hn, hj⟩ := hw.opens
  have hl := waiting_le_arrived s seg v.history
  refine ⟨fun s' => Nat.le_trans (hl s') (hw.least s'), nofun, new ++ [.arrived s seg], ?_, ?_⟩
  · rw [hn, List.append_assoc]
    rfl
  · have hb : Justified (OpensAbove v.history) [.arrived s seg] := Justified.nil.cons trivial
    refine hb.extend hj fun older e ho => ?_
    cases e with
    | opened c s' isn =>
      change waiting s' v.history < waiting s' ((older ++ [.arrived s seg]) ++ v.history)
      rw [List.append_assoc]
      exact Nat.lt_of_le_of_lt (hl s') ho
    | _ => trivial

/-- A SYN waits while its listener is asked, and then opens a connection. -/
theorem Waits.accept (h : Seated v) {s : Stream} {seg : Segment} (hs : v.stream? s = none)
    (ha : seg.asks = true) (hw : Waits true (v.log (.arrived s seg)) w) (d : DeviceId) (b : Bool) :
    Waits true v (w.connect s d seg.seq b) := by
  have hd : ∀ s', waiting s' (w.replacement s ++ w.history) =
      waiting s' v.history + if s = s' then 1 else 0 := fun s' => by
    rw [placing_replacement, hw.done rfl, waiting_asked h hs ha]
  have hc : ∀ s', waiting s' (w.connect s d seg.seq b).history = waiting s' v.history := by
    intro s'
    rw [history_connect]
    change (if s = s' then waiting s' (w.replacement s ++ w.history) - 1
      else waiting s' (w.replacement s ++ w.history)) = _
    rw [hd]
    split_ifs <;> rfl
  obtain ⟨new, hn, hj⟩ := hw.arrived.opens
  refine ⟨fun s' => Nat.le_of_eq (hc s').symm, fun _ => hc,
    .emitted (some w.lines.length) d s (Control.accept seg.seq w.capacity).2 [] b ::
      .opened w.lines.length s seg.seq :: (w.replacement s ++ new), ?_, ?_⟩
  · rw [history_connect, hn, List.cons_append, List.cons_append, List.append_assoc]
  · have hr : Justified (OpensAbove v.history) (w.replacement s ++ new) :=
      hj.append fun e he older => opensAbove_replacement _ older w s e he
    refine (hr.cons ?_).cons trivial
    change waiting s v.history < waiting s ((w.replacement s ++ new) ++ v.history)
    rw [List.append_assoc, ← hn, hd, if_pos rfl]
    exact Nat.lt_succ_self _

/-- **Who has come to an end leaves as many waiting as there were.** -/
theorem Traffic.waits (ht : Traffic e v w) (h : Seated v) : Waits e v w := by
  induction ht with
  | refl v => exact .refl v
  | cut v => exact (Waits.refl v).cut
  | trans h₁₂ _ h₁ h₂ => exact (h₁ h).trans (h₂ (h₁₂.seated h))
  | call v e he =>
    refine waits_quiet (l := [e]) rfl fun e' hm => ?_
    rw [List.mem_singleton.mp hm]
    cases e with
    | accepting | reading | notifying | jobRuns | taskRuns | answered => rfl
    | _ => cases he
  | send => exact waits_quiet (history_advance_append ..) places_advanced
  | shut => exact waits_quiet (history_advance_append ..) places_advanced
  | ignore hs seg hf =>
    refine waits_arrived h seg (.inr ?_)
    unfold Segment.asks
    rcases hf with hf | hf
    · rw [hf, Bool.not_true, Bool.and_false, Bool.false_and]
    · rw [hf, Bool.false_and, Bool.false_and]
  | refuse hs hr hy d b _ => exact waits_refused h hs hr hy d b
  | accepting _ _ ih => exact (ih (h.log fun _ => rfl)).arrived
  | accept hs hr hy hk d b _ _ ih =>
    refine (ih (h.log fun _ => rfl)).accept h hs ?_ d b
    rw [asks_of_flags hr hy, hk]
    rfl
  | ends hs _ b => exact waits_take h hs _ b
  | reading hs _ b _ ih => exact (waits_take h hs _ b).trans (ih (h.take ..))
  | receive hs _ b b' _ ih =>
    exact ((waits_take h hs _ b).trans (ih (h.take ..))).trans (waits_work ..)

end

end InetHost
