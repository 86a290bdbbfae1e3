import InetHost.Proofs.Stream.Life

/-!
# The connections that are alive

A host finds a connection by its two ends. While application code runs in the middle of a segment, the
connection of that segment may come to its end, and another may take its place between the same ends.

* `Follows v w`: along traffic a connection leaves the registry only when it is over, and one that is
  over stays so. It is what is known when the application's turn has passed;
* `Tidy v`: the connections in the registry are alive, and those that are over have been removed;
* **`Traffic.tidy`**: traffic keeps a switchboard tidy.
-/

namespace InetHost

open Tcp Switchboard

/-- A connection is removed on its own account, and before application code runs every connection
that is over has been. -/
def Orderly (j : List Event) : Event → Prop
  | .removed c _ decided => c = decided
  | e => e.isCall = true →
    ∀ c st, .entered c st ∈ j → st.isOver = true → ∃ s, .removed c s c ∈ j

/-- The connections in the registry are alive, and those that are over have been removed. -/
structure Tidy (v : Switchboard) : Prop where
  alive : ∀ s c, v.stream? s = some c → (v.control c).state.isOver = false
  gone : ∀ c st, .entered c st ∈ v.history → st.isOver = true → ∃ s, .removed c s c ∈ v.history
  orderly : Justified Orderly v.history

/-- **A connection leaves the registry only when it is over**, for good. -/
structure Follows (v w : Switchboard) : Prop where
  kept : ∀ s c, v.stream? s = some c → w.stream? s = some c ∨ (w.control c).state.isOver = true
  ended : ∀ c < v.lines.length, (v.control c).state.isOver = true →
    (w.control c).state.isOver = true

variable {v w x : Switchboard} {c : ConnId}

theorem Follows.refl (v : Switchboard) : Follows v v := ⟨fun _ _ h => .inl h, fun _ _ h => h⟩

theorem Follows.trans (hl : Lives v) (hg : Grows v w) (h₁ : Follows v w) (h₂ : Follows w x) :
    Follows v x where
  kept s c hs := by
    rcases h₁.kept s c hs with hw | hw
    · exact h₂.kept s c hw
    · exact .inr (h₂.ended c (Nat.lt_of_lt_of_le (hl.registered s c hs).1 hg.length) hw)
  ended c hc ho := h₂.ended c (Nat.lt_of_lt_of_le hc hg.length) (h₁.ended c hc ho)

/-! ## Events -/

theorem orderly_of_isCall {e : Event} {j : List Event} (he : e.isCall = false)
    (hr : ∀ c s c', e ≠ .removed c s c') : Orderly j e := by
  cases e with
  | removed => exact absurd rfl (hr _ _ _)
  | _ => exact fun hc => Bool.noConfusion (he.symm.trans hc)

theorem Tidy.log (h : Tidy v) {e : Event} (he : ∀ c st, e ≠ .entered c st)
    (ho : Orderly v.history e) : Tidy (v.log e) where
  alive := h.alive
  gone c st hm hs := by
    rcases List.mem_cons.mp hm with hm | hm
    · exact absurd hm.symm (he c st)
    · obtain ⟨s, hr⟩ := h.gone c st hm hs
      exact ⟨s, List.mem_cons_of_mem _ hr⟩
  orderly := h.orderly.cons ho

theorem follows_log (v : Switchboard) (e : Event) : Follows v (v.log e) :=
  ⟨fun _ _ h => .inl h, fun _ _ h => h⟩

/-! ## Steps of a control block -/

theorem stream?_settle (v : Switchboard) (c : ConnId) (o : Outcome) (b : Bool) (s : Stream) :
    (v.settle c o b).stream? s =
      if o.teardown = true ∧ s = (v.line c).stream then none else v.stream? s := by
  have hr : ∀ s, (v.reply c o b).stream? s = v.stream? s ∧
      ((v.reply c o b).line c).stream = (v.line c).stream := by
    intro s
    unfold reply
    split <;> exact ⟨rfl, rfl⟩
  unfold settle
  dsimp only
  cases o.teardown with
  | false =>
    rw [if_neg (by decide), if_neg fun h => Bool.noConfusion h.1]
    exact (hr s).1
  | true =>
    rw [if_pos rfl, stream?_remove, (hr s).1, (hr s).2]
    simp only [true_and]

/-- What a step asks for suits a tidy switchboard: a connection that it tears down is over and in the
registry, and it does not make another one over or alive again. -/
structure Suits (v : Switchboard) (c : ConnId) (r : Control × Outcome) : Prop where
  registered : r.2.teardown = true → v.stream? (v.line c).stream = some c
  ended : r.2.teardown = true → r.1.state.isOver = true
  alive : r.2.teardown = false → r.1.state = (v.control c).state ∨
    (v.control c).state.isOver = false ∧ r.1.state.isOver = false

theorem follows_work (hc : c < v.lines.length) {r : Control × Outcome} (hr : Suits v c r)
    (b : Bool) : Follows v ((v.steer c r).settle c r.2 b) := by
  have hk := control_work v hc r b
  have ho := fun c' (hn : c' ≠ c) => (acts_work c r b v).control_eq hn
  refine ⟨fun s c' hs => ?_, fun c' _ hs => ?_⟩
  · rw [stream?_settle, stream?_steer, (acts_steer c r v).stream]
    split_ifs with ht
    · obtain rfl : c' = c := Option.some.inj (hs.symm.trans (ht.2 ▸ hr.registered ht.1))
      rw [hk]
      exact .inr (hr.ended ht.1)
    · exact .inl hs
  · by_cases hn : c' = c
    · rw [hn, hk]
      rw [hn] at hs
      cases ht : r.2.teardown with
      | true => exact hr.ended ht
      | false =>
        rcases hr.alive ht with he | he
        · rwa [he]
        · rw [he.1] at hs
          cases hs
    · rwa [ho c' hn]

theorem Suits.of_mem_removal {r : Control × Outcome} (hr : Suits v c r) {e : Event}
    (he : e ∈ v.removal c r.2) : e = .removed c (v.line c).stream c := by
  unfold removal at he
  split_ifs at he with ht
  · rw [hr.registered ht] at he
    exact List.mem_singleton.mp he
  · cases he

theorem Suits.mem_removal {r : Control × Outcome} (hr : Suits v c r) (ht : r.2.teardown = true) :
    .removed c (v.line c).stream c ∈ v.removal c r.2 := by
  unfold removal
  rw [if_pos ht, hr.registered ht]
  exact List.mem_singleton_self _

theorem Tidy.alive_work (h : Tidy v) (hl : Lives v) (hc : c < v.lines.length)
    {r : Control × Outcome} (hr : Suits v c r) (b : Bool) {s : Stream} {c' : ConnId}
    (hs : ((v.steer c r).settle c r.2 b).stream? s = some c') :
    (((v.steer c r).settle c r.2 b).control c').state.isOver = false := by
  rw [stream?_settle, stream?_steer, (acts_steer c r v).stream] at hs
  split_ifs at hs with ht
  by_cases hcc : c' = c
  · rw [hcc, control_work v hc]
    rw [hcc] at hs
    cases ho : r.2.teardown with
    | true => exact absurd ⟨ho, (hl.registered s c hs).2.symm⟩ ht
    | false =>
      rcases hr.alive ho with he | he
      · rw [he]
        exact h.alive s c hs
      · exact he.2
  · rw [(acts_work c r b v).control_eq hcc]
    exact h.alive s c' hs

theorem Suits.gone_work {r : Control × Outcome} (hr : Suits v c r) {s : Stream} {d : DeviceId}
    {b : Bool} {c' : ConnId} {st : State}
    (hm : .entered c' st ∈ answers c s d (v.control c) r b) (hs : st.isOver = true) :
    .removed c' (v.line c').stream c' ∈ v.removal c r.2 := by
  rcases mem_answers hm with ⟨t, ht⟩ | ht | ⟨hne, ht⟩
  · cases ht
  · cases ht
  · obtain ⟨rfl, rfl⟩ := Event.entered.inj ht
    cases ho : r.2.teardown with
    | true => exact hr.mem_removal ho
    | false =>
      rcases hr.alive ho with he | he
      · exact absurd he hne
      · rw [he.2] at hs
        cases hs

theorem Tidy.work (h : Tidy v) (hl : Lives v) (hc : c < v.lines.length) {r : Control × Outcome}
    (hr : Suits v c r) (b : Bool) : Tidy ((v.steer c r).settle c r.2 b) where
  alive _ _ hs := h.alive_work hl hc hr b hs
  gone c' st hm hs := by
    rw [history_work] at hm ⊢
    rcases List.mem_append.mp hm with hm | hm
    · cases hr.of_mem_removal hm
    rcases List.mem_append.mp hm with hm | hm
    · exact ⟨_, List.mem_append_left _ (hr.gone_work hm hs)⟩
    · obtain ⟨s, hg⟩ := h.gone c' st hm hs
      exact ⟨s, List.mem_append_right _ (List.mem_append_right _ hg)⟩
  orderly := by
    rw [history_work]
    refine (h.orderly.append fun e he older => ?_).append fun e he older => ?_
    · rcases mem_answers he with ⟨t, rfl⟩ | rfl | ⟨-, rfl⟩ <;>
        exact orderly_of_isCall rfl (by nofun)
    · rw [hr.of_mem_removal he]
      rfl

theorem Suits.take (h : Tidy v) (hs : v.stream? (v.line c).stream = some c) (seg : Segment) :
    Suits v c ((v.control c).take seg) := by
  have hk := (v.control c).take_cases seg
  generalize (v.control c).take seg = r at hk ⊢
  obtain ⟨k', o⟩ := r
  dsimp only at hk
  cases hk with
  | reset => exact ⟨fun _ => hs, fun _ => rfl, nofun⟩
  | syn =>
    unfold Control.repeatSyn
    split_ifs <;> exact ⟨nofun, nofun, fun _ => .inl rfl⟩
  | ends hr hy hm ho => exact ⟨fun _ => hs, fun _ => ho, nofun⟩
  | empty hr hy ha | dropped hr hy ha | overflow hr hy ha | data hr hy ha =>
    exact ⟨nofun, nofun, fun _ => ha.imp_right fun hn => ⟨h.alive _ c hs, hn⟩⟩

theorem Suits.finish
    (hs : v.stream? (v.line c).stream = some c ∨ (v.control c).state.isOver = true) (fin : Bool) :
    Suits v c ((v.control c).finish fin) := by
  have hk := (v.control c).finish_cases fin
  generalize (v.control c).finish fin = r at hk ⊢
  obtain ⟨k', o⟩ := r
  dsimp only at hk
  cases hk with
  | passive ha | closing ha => exact ⟨nofun, nofun, fun _ => .inr ⟨by rw [ha]; rfl, rfl⟩⟩
  | ends ha =>
    -- a connection that the application's turn has ended is not torn down again
    refine ⟨fun _ => hs.resolve_right fun hn => ?_, fun _ => rfl, nofun⟩
    rw [ha] at hn
    cases hn
  | ignored | ack | nothing => exact ⟨nofun, nofun, fun _ => .inl rfl⟩

/-! ## Segments of the host -/

theorem stream?_advance (v : Switchboard) (c : ConnId) (t : Header) (data : Bytes) (k : Control)
    (b : Bool) (s : Stream) : (v.advance c t data k b).stream? s = v.stream? s := by
  unfold advance setControl
  dsimp only
  split_ifs <;> rfl

theorem follows_advance (ho : (v.control c).state.isOver = false)
    (t : Header) (data : Bytes) (k : Control) (b : Bool) : Follows v (v.advance c t data k b) := by
  refine ⟨fun s c' hs => .inl ?_, fun c' _ hs => ?_⟩
  · rwa [stream?_advance]
  · by_cases hcc : c' = c
    · rw [hcc, ho] at hs
      cases hs
    · rwa [(acts_advance c t data k b v).control_eq hcc]

theorem Tidy.advance (h : Tidy v) (hc : c < v.lines.length) {k : Control}
    (hk : k.state.isOver = false) (t : Header) (data : Bytes) (b : Bool) :
    Tidy (v.advance c t data k b) := by
  have hh := history_advance v c t data k b
  have hn : ∀ e ∈ (if b then changes c (v.control c) k else []), e = .entered c k.state := by
    intro e he
    split_ifs at he
    · exact (mem_changes he).2
    · cases he
  refine ⟨fun s c' hs => ?_, fun c' st hm hs => ?_, ?_⟩
  · rw [stream?_advance] at hs
    by_cases hcc : c' = c
    · rw [hcc, control_advance v hc]
      split_ifs
      · exact hk
      · exact h.alive s c (hcc ▸ hs)
    · rw [(acts_advance c t data k b v).control_eq hcc]
      exact h.alive s c' hs
  · rw [hh] at hm ⊢
    rcases List.mem_append.mp hm with hm | hm
    · obtain ⟨-, rfl⟩ := Event.entered.inj (hn _ hm)
      rw [hk] at hs
      cases hs
    rcases List.mem_cons.mp hm with hm | hm
    · cases hm
    · obtain ⟨s, hg⟩ := h.gone c' st hm hs
      exact ⟨s, List.mem_append_right _ (List.mem_cons_of_mem _ hg)⟩
  · rw [hh]
    refine (h.orderly.cons (orderly_of_isCall rfl (by nofun))).append fun e he older => ?_
    rw [hn e he]
    exact orderly_of_isCall rfl (by nofun)

/-! ## New connections -/

theorem follows_connect {s : Stream} (hv : Follows x v) (hs : x.stream? s = none)
    (hx : Lives x) (hg : Grows x v) (d : DeviceId) (isn : SeqNum) (b : Bool) :
    Follows x (v.connect s d isn b) := by
  have hc : ∀ c < v.lines.length, (v.connect s d isn b).control c = v.control c := fun c hc =>
    congrArg Line.control (line_connect s d isn b hc)
  refine ⟨fun s' c hs' => ?_, fun c hc' ho => ?_⟩
  · have hss : s' ≠ s := fun he => by rw [he, hs] at hs'; cases hs'
    rw [stream?_connect, if_neg hss, hc c (Nat.lt_of_lt_of_le (hx.registered s' c hs').1 hg.length)]
    exact hv.kept s' c hs'
  · rw [hc c (Nat.lt_of_lt_of_le hc' hg.length)]
    exact hv.ended c hc' ho

theorem Tidy.connect (h : Tidy v) (hl : Lives v) (s : Stream) (d : DeviceId) (isn : SeqNum)
    (b : Bool) : Tidy (v.connect s d isn b) := by
  have hh := history_connect s d isn b v
  refine ⟨fun s' c hs => ?_, fun c st hm hs => ?_, ?_⟩
  · rw [stream?_connect] at hs
    unfold Switchboard.control
    split_ifs at hs
    · rw [← Option.some.inj hs, line_connect_self]
      rfl
    · rw [line_connect s d isn b (hl.registered s' c hs).1]
      exact h.alive s' c hs
  · rw [hh] at hm ⊢
    rcases List.mem_cons.mp hm with hm | hm
    · cases hm
    rcases List.mem_cons.mp hm with hm | hm
    · cases hm
    rcases List.mem_append.mp hm with hm | hm
    · obtain ⟨old, he⟩ := mem_replacement hm
      cases he
    · obtain ⟨s', hg⟩ := h.gone c st hm hs
      exact ⟨s', List.mem_cons_of_mem _ (List.mem_cons_of_mem _ (List.mem_append_right _ hg))⟩
  · rw [hh]
    have hq : ∀ {e : Event} {j}, e.isCall = false → (∀ c s c', e ≠ .removed c s c') → Orderly j e :=
      orderly_of_isCall
    refine ((h.orderly.append fun e he older => ?_).cons (hq rfl (by nofun))).cons (hq rfl (by nofun))
    obtain ⟨old, rfl⟩ := mem_replacement he
    exact hq rfl (by nofun)

/-! ## Traffic -/

theorem Tidy.arrived (h : Tidy v) (s : Stream) (seg : Segment) : Tidy (v.log (.arrived s seg)) :=
  h.log nofun (orderly_of_isCall rfl (by nofun))

theorem Follows.of_log {e : Event} (h : Follows (v.log e) w) : Follows v w := ⟨h.kept, h.ended⟩

theorem Tidy.deliver (h : Tidy v) (c : ConnId) (o : Outcome) : Tidy (v.deliver c o) := by
  unfold Switchboard.deliver
  split
  · exact h.log nofun (orderly_of_isCall rfl (by nofun))
  · exact h

theorem Follows.deliver (h : Follows v w) (c : ConnId) (o : Outcome) :
    Follows v (w.deliver c o) := by
  unfold Switchboard.deliver
  split
  · exact ⟨h.kept, h.ended⟩
  · exact h

theorem Tidy.take (h : Tidy v) (hl : Lives v) {s : Stream} (hs : v.stream? s = some c)
    (seg : Segment) (b : Bool) : Tidy ((v.log (.arrived s seg)).take c seg b) ∧
      Follows v ((v.log (.arrived s seg)).take c seg b) := by
  obtain ⟨hc, rfl⟩ := hl.registered s c hs
  have ha := h.arrived (v.line c).stream seg
  have hc' : c < (v.log (.arrived (v.line c).stream seg)).lines.length := hc
  have hr := Suits.take (c := c) ha hs seg
  exact ⟨(ha.work (hl.arrived ..) hc' hr b).deliver c _,
    (follows_work hc' hr b).of_log.deliver c _⟩

/-- **Traffic keeps a switchboard tidy**, and connections stay until they are over. -/
theorem Traffic.tidy {e : Bool} (ht : Traffic e v w) (hl : Lives v) (h : Tidy v) :
    Tidy w ∧ Follows v w := by
  induction ht with
  | refl v => exact ⟨h, .refl v⟩
  | cut v => exact ⟨h, .refl v⟩
  | trans h₁₂ _ h₁ h₂ =>
    obtain ⟨ht₁, hf₁⟩ := h₁ hl h
    obtain ⟨ht₂, hf₂⟩ := h₂ (h₁₂.lives hl) ht₁
    exact ⟨ht₂, hf₁.trans hl h₁₂.grows hf₂⟩
  | call v e he =>
    refine ⟨h.log ?_ ?_, follows_log v e⟩
    · rintro c st rfl
      cases he
    · cases e with
      | accepting | reading | notifying | jobRuns | taskRuns | answered => exact fun _ => h.gone
      | _ => cases he
  | @send v s c hs hm data b =>
    have ho := h.alive s c hs
    exact ⟨h.advance (k := (v.control c).sent data.length) (hl.registered s c hs).1 ho _ data b,
      follows_advance ho ..⟩
  | @shut v s c t hs ht b =>
    exact ⟨h.advance (k := (v.control c).closed) (hl.registered s c hs).1 rfl t [] b,
      follows_advance (h.alive s c hs) ..⟩
  | ignore => exact ⟨h.arrived .., follows_log ..⟩
  | refuse =>
    exact ⟨(h.arrived ..).log nofun (orderly_of_isCall rfl (by nofun)), (follows_log ..).of_log⟩
  | accepting _ _ ih =>
    obtain ⟨hw, hf⟩ := ih (hl.arrived ..) (h.arrived ..)
    exact ⟨hw, hf.of_log⟩
  | accept hs _ _ _ d b _ ha ih =>
    obtain ⟨hw, hf⟩ := ih (hl.arrived ..) (h.arrived ..)
    exact ⟨hw.connect (ha.lives (hl.arrived ..)) _ d _ b,
      follows_connect hf.of_log hs hl ((grows_log ..).trans ha.grows) d _ b⟩
  | ends hs _ b => exact h.take hl hs _ b
  | reading hs _ b ha ih =>
    obtain ⟨ht, hf⟩ := h.take hl hs _ b
    obtain ⟨ht', hf'⟩ := ih (hl.take hs b) ht
    exact ⟨ht', hf.trans hl ((grows_log ..).trans (acts_take ..).grows) hf'⟩
  | @receive v w s c seg hs ho b b' ha ih =>
    obtain ⟨ht, hf⟩ := h.take hl hs seg b
    obtain ⟨ht', hf'⟩ := ih (hl.take hs b) ht
    have hg := ((grows_log ..).trans (acts_take ..).grows).trans ha.grows
    have hw := hf.trans hl ((grows_log ..).trans (acts_take ..).grows) hf'
    obtain ⟨hc, rfl⟩ := hl.registered s c hs
    have hc' := Nat.lt_of_lt_of_le hc hg.length
    have hr : Suits w c ((w.control c).finish ((v.control c).take seg).2.fin) := by
      -- another connection is between the same ends only if this one is over
      refine Suits.finish ?_ _
      rw [hg.stream c hc]
      exact hw.kept _ c hs
    exact ⟨ht'.work (ha.lives (hl.take hs b)) hc' hr b', hw.trans hl hg (follows_work hc' hr b')⟩

end InetHost
