import InetHost.Proofs.Stream.Traffic

/-!
# What traffic leaves alone

* `Acts c v w`: from `v` to `w` only connection `c` was worked on. Its ends stay as they are, other
  lines stay as they are altogether, and only events of `c` are entered;
* `Grows v w`: connections and events are only added. **`Traffic.grows`**: along all traffic.
-/

namespace InetHost

open Tcp

namespace Switchboard

variable {v w x : Switchboard} {c : ConnId}

/-! ## Lines -/

theorem line_log (v : Switchboard) (e : Event) (c : ConnId) : (v.log e).line c = v.line c := rfl

theorem line_write (v : Switchboard) {c : ConnId} (hc : c < v.lines.length) (k : Control) :
    (v.write c k).line c = { v.line c with control := k } := by
  unfold line write
  rw [List.getD_eq_getElem?_getD, List.getElem?_modify_eq, List.getElem?_eq_getElem hc,
    List.getD_eq_getElem _ _ hc]
  rfl

theorem line_write_ne (v : Switchboard) {c c' : ConnId} (hc : c' ≠ c) (k : Control) :
    (v.write c k).line c' = v.line c' := by
  unfold line write
  rw [List.getD_eq_getElem?_getD, List.getElem?_modify_ne _ _ hc.symm, List.getD_eq_getElem?_getD]

theorem write_of_length_le (v : Switchboard) {c : ConnId} (hc : v.lines.length ≤ c) (k : Control) :
    v.write c k = v := by
  unfold write
  rw [List.modify_eq_self hc]

/-! ## The registry -/

theorem lookup_filter_ne {α β : Type} [DecidableEq α] (l : List (α × β)) (a a' : α) :
    (l.filter (·.1 ≠ a)).lookup a' = if a' = a then none else l.lookup a' := by
  induction l with
  | nil => simp
  | cons p l ih =>
    obtain ⟨b, x⟩ := p
    by_cases hb : b = a
    · rw [List.filter_cons_of_neg (by simp [hb]), ih]
      by_cases ha : a' = a
      · rw [if_pos ha, if_pos ha]
      · rw [if_neg ha, if_neg ha, List.lookup_cons, beq_false_of_ne (hb ▸ ha)]
    · rw [List.filter_cons_of_pos (by simp [hb]), List.lookup_cons, ih, List.lookup_cons]
      by_cases ha : a' = a
      · rw [if_pos ha, if_pos ha, beq_false_of_ne (ha ▸ Ne.symm hb)]
      · rw [if_neg ha, if_neg ha]

theorem stream?_remove (v : Switchboard) (s : Stream) (c : ConnId) (s' : Stream) :
    (v.remove s c).stream? s' = if s' = s then none else v.stream? s' := by
  unfold remove
  cases hs : v.stream? s with
  | none =>
    dsimp only
    split_ifs with h
    · rw [h, hs]
    · rfl
  | some c' => exact lookup_filter_ne v.streams s s'

theorem stream?_place (v : Switchboard) (s : Stream) (d : DeviceId) (isn : SeqNum) (k : Control)
    (s' : Stream) :
    (v.place s d isn k).stream? s' = if s' = s then some v.lines.length else v.stream? s' := by
  have hs : (v.place s d isn k).stream? s' =
      (v.streams.filter (·.1 ≠ s) ++ [(s, v.lines.length)]).lookup s' := by
    unfold place
    cases v.stream? s <;> rfl
  rw [hs, List.lookup_append, lookup_filter_ne, List.lookup_cons, List.lookup_nil]
  by_cases h : s' = s
  · simp [h]
  · simp [h, beq_false_of_ne h, stream?]

/-! ## Work on one connection -/

/-- An event that work on a connection enters. -/
def Enters (c : ConnId) (e : Event) : Prop :=
  e.about = some c ∨ ∃ c' s, e = .removed c' s c

/-- **Only one connection was worked on.** -/
structure Acts (c : ConnId) (v w : Switchboard) : Prop where
  capacity : w.capacity = v.capacity
  addresses : w.addresses = v.addresses
  length : w.lines.length = v.lines.length
  stream : ∀ c', (w.line c').stream = (v.line c').stream
  device : ∀ c', (w.line c').device = (v.line c').device
  other : ∀ c', c' ≠ c → w.line c' = v.line c'
  registry : ∀ s c', w.stream? s = some c' → v.stream? s = some c'
  history : ∃ new, w.history = new ++ v.history ∧ ∀ e ∈ new, Enters c e

theorem Acts.refl (c : ConnId) (v : Switchboard) : Acts c v v :=
  ⟨rfl, rfl, rfl, fun _ => rfl, fun _ => rfl, fun _ _ => rfl, fun _ _ h => h, [], rfl,
    List.forall_mem_nil _⟩

theorem Acts.trans (h₁ : Acts c v w) (h₂ : Acts c w x) : Acts c v x where
  capacity := h₂.capacity.trans h₁.capacity
  addresses := h₂.addresses.trans h₁.addresses
  length := h₂.length.trans h₁.length
  stream c' := (h₂.stream c').trans (h₁.stream c')
  device c' := (h₂.device c').trans (h₁.device c')
  other c' hc := (h₂.other c' hc).trans (h₁.other c' hc)
  registry s c' hs := h₁.registry s c' (h₂.registry s c' hs)
  history := extends_trans h₁.history h₂.history

theorem Acts.control_eq (h : Acts c v w) {c' : ConnId} (hc : c' ≠ c) :
    w.control c' = v.control c' :=
  congrArg Line.control (h.other c' hc)

theorem acts_log (v : Switchboard) {e : Event} (he : Enters c e) : Acts c v (v.log e) :=
  ⟨rfl, rfl, rfl, fun _ => rfl, fun _ => rfl, fun _ _ => rfl, fun _ _ h => h, [e], rfl,
    fun _ h => List.mem_singleton.mp h ▸ he⟩

theorem acts_emit (c : ConnId) (t : Header) (data : Bytes) (b : Bool) (v : Switchboard) :
    Acts c v (v.emit c t data b) :=
  acts_log v (.inl rfl)

theorem acts_write (c : ConnId) (k : Control) (v : Switchboard) : Acts c v (v.write c k) := by
  by_cases hc : c < v.lines.length
  · have hl : ∀ c', c' ≠ c → (v.write c k).line c' = v.line c' := fun c' hn =>
      line_write_ne v hn k
    refine ⟨rfl, rfl, List.length_modify .., fun c' => ?_, fun c' => ?_, hl, fun _ _ h => h, [],
      rfl, List.forall_mem_nil _⟩
    · by_cases he : c' = c
      · rw [he, line_write v hc]
      · rw [hl c' he]
    · by_cases he : c' = c
      · rw [he, line_write v hc]
      · rw [hl c' he]
  · rw [write_of_length_le v (Nat.not_lt.mp hc)]
    exact .refl c v

theorem acts_setControl (c : ConnId) (k : Control) (v : Switchboard) :
    Acts c v (v.setControl c k) := by
  unfold setControl
  split_ifs
  · exact acts_write c k v
  · exact (acts_write c k v).trans (acts_log _ (.inl rfl))

theorem acts_remove (s : Stream) (c : ConnId) (v : Switchboard) : Acts c v (v.remove s c) := by
  have hr : ∀ s' c', (v.remove s c).stream? s' = some c' → v.stream? s' = some c' := by
    intro s' c' h
    rw [stream?_remove] at h
    split_ifs at h
    exact h
  unfold remove at hr ⊢
  cases hs : v.stream? s with
  | none => exact .refl c v
  | some c' =>
    rw [hs] at hr
    exact ⟨rfl, rfl, rfl, fun _ => rfl, fun _ => rfl, fun _ _ => rfl, hr, [.removed c' s c], rfl,
      fun _ h => List.mem_singleton.mp h ▸ .inr ⟨c', s, rfl⟩⟩

theorem acts_steer (c : ConnId) (r : Control × Outcome) (v : Switchboard) :
    Acts c v (v.steer c r) := by
  unfold steer
  dsimp only
  split_ifs
  · exact (acts_setControl c r.1 v).trans (acts_log _ (.inl rfl))
  · exact acts_setControl c r.1 v

theorem acts_settle (c : ConnId) (o : Outcome) (b : Bool) (v : Switchboard) :
    Acts c v (v.settle c o b) := by
  have hr : Acts c v (v.reply c o b) := by
    unfold reply
    split
    · exact acts_emit c _ [] b v
    · exact .refl c v
  unfold settle
  dsimp only
  split_ifs
  · exact hr.trans (acts_remove _ c _)
  · exact hr

theorem acts_deliver (c : ConnId) (o : Outcome) (v : Switchboard) : Acts c v (v.deliver c o) := by
  unfold deliver
  split
  · exact acts_log v (.inl rfl)
  · exact .refl c v

theorem acts_work (c : ConnId) (r : Control × Outcome) (b : Bool) (v : Switchboard) :
    Acts c v ((v.steer c r).settle c r.2 b) :=
  (acts_steer c r v).trans (acts_settle c r.2 b _)

theorem acts_take (c : ConnId) (seg : Segment) (b : Bool) (v : Switchboard) :
    Acts c v (v.take c seg b) :=
  (acts_work c _ b v).trans (acts_deliver c _ _)

theorem acts_finish (c : ConnId) (fin b : Bool) (v : Switchboard) : Acts c v (v.finish c fin b) :=
  acts_work c _ b v

theorem acts_advance (c : ConnId) (t : Header) (data : Bytes) (k : Control) (b : Bool)
    (v : Switchboard) : Acts c v (v.advance c t data k b) := by
  unfold advance
  dsimp only
  split_ifs
  · exact (acts_emit c t data b v).trans (acts_setControl c k _)
  · exact acts_emit c t data b v

/-! ## The events of the work -/

/-- The event of a change of the control block. -/
def changes (c : ConnId) (k k' : Control) : List Event :=
  if k'.state = k.state then [] else [.entered c k'.state]

/-- The events of a step of a control block, the last first. -/
def answers (c : ConnId) (s : Stream) (d : DeviceId) (k : Control) (r : Control × Outcome)
    (b : Bool) : List Event :=
  r.2.reply.toList.map (.emitted (some c) d s · [] b) ++
    ((if r.2.ended then [.ended c] else []) ++ changes c k r.1)

theorem mem_changes {k k' : Control} {e : Event} (he : e ∈ changes c k k') :
    k'.state ≠ k.state ∧ e = .entered c k'.state := by
  unfold changes at he
  split_ifs at he with hk
  · cases he
  · exact ⟨hk, List.mem_singleton.mp he⟩

theorem mem_answers {s : Stream} {d : DeviceId} {k : Control} {r : Control × Outcome} {b : Bool}
    {e : Event} (he : e ∈ answers c s d k r b) :
    (∃ t, e = .emitted (some c) d s t [] b) ∨ e = .ended c ∨
      r.1.state ≠ k.state ∧ e = .entered c r.1.state := by
  rcases List.mem_append.mp he with he | he
  · obtain ⟨t, -, rfl⟩ := List.mem_map.mp he
    exact .inl ⟨t, rfl⟩
  rcases List.mem_append.mp he with he | he
  · split_ifs at he
    · exact .inr (.inl (List.mem_singleton.mp he))
    · cases he
  · exact .inr (.inr (mem_changes he))

/-- The event of a connection that is removed as `c` is over. -/
def removal (v : Switchboard) (c : ConnId) (o : Outcome) : List Event :=
  if o.teardown then
    match v.stream? (v.line c).stream with
    | some c' => [.removed c' (v.line c).stream c]
    | none => []
  else []

theorem history_setControl (v : Switchboard) (c : ConnId) (k : Control) :
    (v.setControl c k).history = changes c (v.control c) k ++ v.history := by
  unfold setControl changes
  split_ifs <;> rfl

theorem history_steer (v : Switchboard) (c : ConnId) (r : Control × Outcome) :
    (v.steer c r).history =
      (if r.2.ended then [.ended c] else []) ++ (changes c (v.control c) r.1 ++ v.history) := by
  rw [← history_setControl]
  unfold steer
  split_ifs <;> rfl

theorem stream?_steer (v : Switchboard) (c : ConnId) (r : Control × Outcome) (s : Stream) :
    (v.steer c r).stream? s = v.stream? s := by
  unfold steer setControl
  split_ifs <;> rfl

theorem history_remove (v : Switchboard) (s : Stream) (c : ConnId) :
    (v.remove s c).history = (match v.stream? s with
      | some c' => [.removed c' s c]
      | none => []) ++ v.history := by
  unfold remove
  cases v.stream? s <;> rfl

theorem history_settle (v : Switchboard) (c : ConnId) (o : Outcome) (b : Bool) :
    (v.settle c o b).history = v.removal c o ++
      (o.reply.toList.map (.emitted (some c) (v.line c).device (v.line c).stream · [] b) ++
        v.history) := by
  unfold settle reply removal
  cases o.reply with
  | none =>
    split_ifs
    · exact history_remove ..
    · rfl
  | some t =>
    split_ifs
    · exact history_remove ..
    · rfl

theorem history_work (v : Switchboard) (c : ConnId) (r : Control × Outcome) (b : Bool) :
    ((v.steer c r).settle c r.2 b).history = v.removal c r.2 ++
      (answers c (v.line c).stream (v.line c).device (v.control c) r b ++ v.history) := by
  have hr : (v.steer c r).removal c r.2 = v.removal c r.2 := by
    unfold removal
    rw [stream?_steer, (acts_steer c r v).stream]
  rw [history_settle, hr, (acts_steer c r v).stream, (acts_steer c r v).device, history_steer]
  unfold answers
  rw [List.append_assoc, List.append_assoc]

theorem history_deliver (v : Switchboard) (c : ConnId) (o : Outcome) :
    (v.deliver c o).history = o.deliver.toList.map (.delivered c) ++ v.history := by
  unfold deliver
  cases o.deliver <;> rfl

theorem history_advance (v : Switchboard) (c : ConnId) (t : Header) (data : Bytes) (k : Control)
    (b : Bool) : (v.advance c t data k b).history =
      (if b then changes c (v.control c) k else []) ++
        .emitted (some c) (v.line c).device (v.line c).stream t data b :: v.history := by
  unfold advance
  split_ifs
  · exact history_setControl ..
  · rfl

/-! ## Growth -/

/-- **Connections and events are only added.** -/
structure Grows (v w : Switchboard) : Prop where
  capacity : w.capacity = v.capacity
  addresses : w.addresses = v.addresses
  length : v.lines.length ≤ w.lines.length
  stream : ∀ c < v.lines.length, (w.line c).stream = (v.line c).stream
  device : ∀ c < v.lines.length, (w.line c).device = (v.line c).device
  history : v.history <:+ w.history

theorem Grows.refl (v : Switchboard) : Grows v v :=
  ⟨rfl, rfl, Nat.le_refl _, fun _ _ => rfl, fun _ _ => rfl, List.suffix_rfl⟩

theorem Grows.trans (h₁ : Grows v w) (h₂ : Grows w x) : Grows v x where
  capacity := h₂.capacity.trans h₁.capacity
  addresses := h₂.addresses.trans h₁.addresses
  length := Nat.le_trans h₁.length h₂.length
  stream c hc := (h₂.stream c (Nat.lt_of_lt_of_le hc h₁.length)).trans (h₁.stream c hc)
  device c hc := (h₂.device c (Nat.lt_of_lt_of_le hc h₁.length)).trans (h₁.device c hc)
  history := h₁.history.trans h₂.history

theorem Acts.grows (h : Acts c v w) : Grows v w where
  capacity := h.capacity
  addresses := h.addresses
  length := Nat.le_of_eq h.length.symm
  stream c' _ := h.stream c'
  device c' _ := h.device c'
  history := by
    obtain ⟨new, he, -⟩ := h.history
    exact ⟨new, he.symm⟩

theorem grows_log (v : Switchboard) (e : Event) : Grows v (v.log e) :=
  ⟨rfl, rfl, Nat.le_refl _, fun _ _ => rfl, fun _ _ => rfl, List.suffix_cons e v.history⟩

/-! ### A new connection -/

theorem lines_place (s : Stream) (d : DeviceId) (isn : SeqNum) (k : Control) (v : Switchboard) :
    (v.place s d isn k).lines = v.lines ++ [⟨s, d, k⟩] := by
  unfold place
  cases v.stream? s <;> rfl

theorem addresses_place (s : Stream) (d : DeviceId) (isn : SeqNum) (k : Control)
    (v : Switchboard) : (v.place s d isn k).addresses = v.addresses := by
  unfold place
  cases v.stream? s <;> rfl

theorem capacity_place (s : Stream) (d : DeviceId) (isn : SeqNum) (k : Control)
    (v : Switchboard) : (v.place s d isn k).capacity = v.capacity := by
  unfold place
  cases v.stream? s <;> rfl

theorem lines_connect (s : Stream) (d : DeviceId) (isn : SeqNum) (b : Bool) (v : Switchboard) :
    (v.connect s d isn b).lines = v.lines ++ [⟨s, d, (Control.accept isn v.capacity).1⟩] :=
  lines_place s d isn _ v

theorem length_connect (s : Stream) (d : DeviceId) (isn : SeqNum) (b : Bool) (v : Switchboard) :
    (v.connect s d isn b).lines.length = v.lines.length + 1 := by
  simp [lines_connect]

theorem stream?_connect (v : Switchboard) (s : Stream) (d : DeviceId) (isn : SeqNum) (b : Bool)
    (s' : Stream) : (v.connect s d isn b).stream? s' =
      if s' = s then some v.lines.length else v.stream? s' :=
  stream?_place v s d isn _ s'

theorem line_connect {c : ConnId} (s : Stream) (d : DeviceId) (isn : SeqNum) (b : Bool)
    (hc : c < v.lines.length) : (v.connect s d isn b).line c = v.line c := by
  unfold line
  rw [lines_connect, List.getD_append _ _ _ _ hc]

theorem line_connect_self (s : Stream) (d : DeviceId) (isn : SeqNum) (b : Bool) (v : Switchboard) :
    (v.connect s d isn b).line v.lines.length = ⟨s, d, (Control.accept isn v.capacity).1⟩ := by
  unfold line
  rw [lines_connect, List.getD_append_right _ _ _ _ (Nat.le_refl _), Nat.sub_self]
  rfl

/-- The event of a connection that loses its place. -/
def replacement (v : Switchboard) (s : Stream) : List Event :=
  match v.stream? s with
  | some old => [.replaced old s]
  | none => []

theorem mem_replacement {v : Switchboard} {s : Stream} {e : Event} (he : e ∈ v.replacement s) :
    ∃ old, e = .replaced old s := by
  unfold replacement at he
  split at he
  · exact ⟨_, List.mem_singleton.mp he⟩
  · cases he

theorem history_connect (s : Stream) (d : DeviceId) (isn : SeqNum) (b : Bool) (v : Switchboard) :
    (v.connect s d isn b).history =
      .emitted (some v.lines.length) d s (Control.accept isn v.capacity).2 [] b ::
        .opened v.lines.length s isn :: (v.replacement s ++ v.history) := by
  have hl := line_connect_self s d isn b v
  have he : (v.connect s d isn b).history =
      .emitted (some v.lines.length) ((v.connect s d isn b).line v.lines.length).device
        ((v.connect s d isn b).line v.lines.length).stream (Control.accept isn v.capacity).2 [] b ::
        (v.place s d isn (Control.accept isn v.capacity).1).history := rfl
  rw [he, hl]
  unfold place replacement
  cases v.stream? s <;> rfl

theorem grows_connect (s : Stream) (d : DeviceId) (isn : SeqNum) (b : Bool) (v : Switchboard) :
    Grows v (v.connect s d isn b) := by
  have hl : ∀ c < v.lines.length, (v.connect s d isn b).line c = v.line c := fun c hc =>
    line_connect s d isn b hc
  refine ⟨capacity_place s d isn _ v, addresses_place s d isn _ v, ?_,
    fun c hc => congrArg Line.stream (hl c hc), fun c hc => congrArg Line.device (hl c hc), ?_⟩
  · rw [length_connect]
    exact Nat.le_add_right _ _
  · rw [history_connect]
    exact ⟨_ :: _ :: v.replacement s, rfl⟩

end Switchboard

open Switchboard

/-- **Traffic only adds to a switchboard.** -/
theorem Traffic.grows {e : Bool} {v w : Switchboard} (ht : Traffic e v w) : Grows v w := by
  induction ht with
  | refl v => exact .refl v
  | cut v => exact .refl v
  | trans _ _ h₁ h₂ => exact h₁.trans h₂
  | call v e _ => exact grows_log v e
  | send _ _ data b => exact (acts_advance ..).grows
  | shut _ _ b => exact (acts_advance ..).grows
  | ignore _ seg _ => exact grows_log ..
  | refuse => exact (grows_log ..).trans (grows_log ..)
  | accepting _ _ ih => exact (grows_log ..).trans ih
  | accept _ _ _ _ _ _ _ _ ih => exact ((grows_log ..).trans ih).trans (grows_connect ..)
  | ends _ _ b => exact (grows_log ..).trans (acts_take ..).grows
  | reading _ _ b _ ih => exact ((grows_log ..).trans (acts_take ..).grows).trans ih
  | receive _ _ b b' _ ih =>
    exact (((grows_log ..).trans (acts_take ..).grows).trans ih).trans (acts_finish ..).grows

end InetHost
