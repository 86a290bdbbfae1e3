import InetHost.Proofs.Stream.Answering

/-!
# Hosts at rest

Between two operations no application code is running, and no connection owes an acknowledgement. A
segment that brings nothing new is then taken without a word.

* `AtRest`: a host that was started and used until everything had come to its end;
* **`AtRest.owes_nothing`**: none of its connections owes an acknowledgement;
* `takeIn`, `handOn`: the two halves of taking a segment, before the application reads and from there;
* `SendsNothing h h'`: from `h` to `h'` nothing was sent, nor was anything to be sent;
* `Control.Unanswered`: the segments that a connection does not answer if it owes nothing;
  **`hushes_receiveOn`**: the host takes them and sends nothing.
-/

namespace InetHost

open Tcp Switchboard

/-! ## What is owed -/

/-- The end of a segment leaves nothing owed. -/
theorem Tcp.Control.owesAck_finish (k : Control) (fin : Bool) : (k.finish fin).1.owesAck = false := by
  have hk := k.finish_cases fin
  generalize (k.finish fin).1 = k', (k.finish fin).2 = o at hk
  cases hk with
  | nothing ho => exact ho
  | _ => rfl

/-- Only data that is given out is owed an acknowledgement. -/
theorem Tcp.Control.owesAck_take {k : Control} {g : Segment} (hd : (k.take g).2.deliver = none) :
    (k.take g).1.owesAck = k.owesAck := by
  have hk := k.take_cases g
  generalize (k.take g).1 = k', (k.take g).2 = o at hk hd
  cases hk with
  | data => cases hd
  | _ => rfl

/-- No connection owes what it did not owe before. -/
def Switchboard.Eases (v w : Switchboard) : Prop :=
  ∀ c, (w.control c).owesAck = true → (v.control c).owesAck = true

namespace Switchboard

variable {v w : Switchboard} {c : ConnId}

theorem owesAck_of_le (hc : v.lines.length ≤ c) : (v.control c).owesAck = false := by
  unfold control line
  rw [List.getD_eq_default _ _ hc]
  rfl

theorem Acts.eases (ha : Acts c v w)
    (hk : c < v.lines.length → (w.control c).owesAck = true → (v.control c).owesAck = true) :
    Eases v w := by
  intro c' ho
  by_cases hc : c' = c
  · subst hc
    by_cases hl : c' < v.lines.length
    · exact hk hl ho
    · rw [owesAck_of_le (ha.length.symm ▸ Nat.not_lt.mp hl)] at ho
      cases ho
  · rwa [ha.control_eq hc] at ho

theorem eases_advance (v : Switchboard) (c : ConnId) (t : Header) (data : Bytes) {k : Control}
    (hk : k.owesAck = false) (b : Bool) : Eases v (v.advance c t data k b) := by
  refine (acts_advance c t data k b v).eases fun hc ho => ?_
  rw [control_advance v hc] at ho
  split at ho
  · rw [hk] at ho
    cases ho
  · exact ho

theorem eases_connect (v : Switchboard) (s : Stream) (d : DeviceId) (isn : SeqNum) (b : Bool) :
    Eases v (v.connect s d isn b) := by
  intro c ho
  unfold control at ho ⊢
  rcases Nat.lt_trichotomy c v.lines.length with hc | rfl | hc
  · rwa [line_connect s d isn b hc] at ho
  · rw [line_connect_self] at ho
    cases ho
  · have hl : (v.connect s d isn b).lines.length ≤ c := by
      rw [length_connect]
      exact hc
    cases (owesAck_of_le hl).symm.trans ho

theorem owesAck_finish (v : Switchboard) (c : ConnId) (fin b : Bool) :
    ((v.finish c fin b).control c).owesAck = false := by
  by_cases hc : c < v.lines.length
  · rw [control_finish v hc]
    exact Control.owesAck_finish _ fin
  · refine owesAck_of_le ?_
    rw [(acts_finish c fin b v).length]
    exact Nat.not_lt.mp hc

end Switchboard

/-- **Traffic that has come to its end leaves nothing more owed.** -/
theorem Traffic.eases {e : Bool} {v w : Switchboard} (ht : Traffic e v w) (he : e = true) :
    Eases v w := by
  induction ht with
  | refl | call | ignore | refuse => exact fun _ ho => ho
  | cut | accepting | reading => cases he
  | trans _ _ h₁ h₂ => exact fun c ho => h₁ rfl c (h₂ he c ho)
  | send _ _ data b => exact eases_advance _ _ _ _ rfl b
  | shut _ _ b => exact eases_advance _ _ _ _ rfl b
  | accept _ _ _ _ d b _ _ ih => exact fun c ho => ih rfl c (eases_connect _ _ d _ b c ho)
  | @ends v s c seg hs hr b =>
    refine (acts_take c seg b (v.log (.arrived s seg))).eases fun hc ho => ?_
    rw [control_take _ hc] at ho
    have hd : (((v.log (.arrived s seg)).control c).take seg).2.deliver = none :=
      Host.deliver_of_teardown hr
    rwa [Control.owesAck_take hd] at ho
  | @receive v w s c seg hs hr b b' ha ih =>
    -- what the segment's data made the connection owe is paid at the segment's end
    intro c' ho
    by_cases hc : c' = c
    · rw [hc, owesAck_finish] at ho
      cases ho
    · rw [(acts_finish c _ b' w).control_eq hc] at ho
      have ho' := ih rfl c' ho
      rwa [(acts_take c seg b _).control_eq hc] at ho'

namespace Host

variable {h h₁ h' : Host} {c : ConnId} {g : Segment} {k : Control}

/-- **A host at rest**: it was started and used, and everything has come to its end. -/
def AtRest (h : Host) : Prop := ∃ s h₀, start s = .ok h₀ ∧ Leads true h₀ h

theorem AtRest.visited (hr : AtRest h) : Visited h := by
  obtain ⟨s, h₀, hs, hl⟩ := hr
  exact ⟨s, h₀, true, hs, hl⟩

theorem AtRest.leads (hr : AtRest h) (hl : Leads true h h') : AtRest h' := by
  obtain ⟨s, h₀, hs, hl₀⟩ := hr
  exact ⟨s, h₀, hs, hl₀.trans hl⟩

/-- **No connection of a host at rest owes an acknowledgement.** -/
theorem AtRest.owes_nothing (hr : AtRest h) (c : ConnId) :
    (h.connection c).control.owesAck = false := by
  obtain ⟨s, h₀, hs, hl⟩ := hr
  have hn : (h₀.board.control c).owesAck = false := by
    refine owesAck_of_le ?_
    rw [(board_start hs).1]
    exact Nat.zero_le c
  rw [← control_board]
  refine Bool.eq_false_iff.mpr fun ho => ?_
  cases hn.symm.trans ((traffic_leads hl).eases rfl c ho)

theorem atRest_talked {ops : List Op}
    (hs : (after? 3 ops (attach { config := {} } talker)).isSome = true) : AtRest (talked ops) := by
  obtain ⟨h, hh⟩ := Option.isSome_iff_exists.mp hs
  rw [talked, hh]
  exact ⟨⟨{}, [talker]⟩, _, rfl, leads_after? hh⟩

/-! ## The halves of a segment -/

/-- A connection takes the flags, the acknowledgement and the data of a segment. -/
def takeIn (c : ConnId) (g : Segment) : Act Outcome := do
  let o ← steer c (·.take g)
  settle c o
  return o

/-- The application reads the data of a segment, and its end is taken. -/
def handOn (app : Application) (c : ConnId) (o : Outcome) : Run Unit := do
  unless o.teardown do
    match o.deliver with
    | none => pure ()
    | some data =>
      record (.delivered c data)
      app (.read c data)
    conclude c o.fin

theorem run_receiveOn (app : Application) (c : ConnId) (g : Segment) (h : Host) :
    (receiveOn app c g).run h =
      (handOn app c ((takeIn c g).run h).1).run ((takeIn c g).run h).2 := rfl

theorem board_takeIn (c : ConnId) (g : Segment) (h : Host) :
    let r := (h.connection c).control.take g
    ((takeIn c g).run h).1 = r.2 ∧
      ∃ b, ((takeIn c g).run h).2.board = (h.board.steer c r).settle c r.2 b := by
  obtain ⟨hb, ho⟩ := board_steer c (·.take g) h
  obtain ⟨b, hb'⟩ := board_settle c ((steer c (·.take g)).run h).1 ((steer c (·.take g)).run h).2
  rw [hb, ho] at hb'
  refine ⟨ho, b, ?_⟩
  rw [← hb', ← ho]
  rfl

theorem control_takeIn (hc : c < h.connections.length) (g : Segment) :
    (((takeIn c g).run h).2.connection c).control = ((h.connection c).control.take g).1 := by
  obtain ⟨-, b, hb⟩ := board_takeIn c g h
  rw [← control_board, hb]
  exact control_work h.board (by rwa [length_lines_board]) _ b

/-- Without data the application has no part in the second. -/
theorem run_handOn {o : Outcome} (hd : o.deliver = none) (app : Application) (c : ConnId) (h : Host) :
    (handOn app c o).run h =
      if o.teardown then (some (), h) else (conclude c o.fin).run h := by
  unfold handOn
  rw [hd]
  cases o.teardown <;> rfl

/-! ### Where nothing changes -/

theorem modify_self {α : Type} {f : α → α} {l : List α} {n : Nat} {a : α}
    (hf : f (l.getD n a) = l.getD n a) : l.modify n f = l := by
  refine List.ext_getElem? fun i => ?_
  by_cases hi : i = n
  · subst hi
    rw [List.getElem?_modify_eq]
    rw [List.getD_eq_getElem?_getD] at hf
    cases hl : l[i]? with
    | none => rfl
    | some x =>
      rw [hl] at hf
      exact congrArg some hf
  · exact List.getElem?_modify_ne _ _ (Ne.symm hi)

theorem run_setControl_self (hk : (h.connection c).control = k) :
    (setControl c k).run h = ((), h) := by
  subst hk
  have hm : h.connections.modify c ({ · with control := (h.connection c).control }) = h.connections :=
    modify_self rfl
  unfold setControl
  rw [act_get, act_modify, hm]
  exact congrArg (StateT.run · h) (if_pos rfl)

theorem run_steer_self {f : Control → Control × Outcome} {o : Outcome}
    (hf : f (h.connection c).control = ((h.connection c).control, o)) (ho : o.ended = false) :
    (steer c f).run h = (o, ((o.notice.forM note).run h).2) := by
  unfold steer
  rw [act_get, hf]
  dsimp only
  rw [StateT.run_bind, run_setControl_self rfl, ho]
  rfl

theorem run_takeIn_self {o : Outcome}
    (hf : (h.connection c).control.take g = ((h.connection c).control, o)) (ho : o.ended = false) :
    (takeIn c g).run h = (o, ((settle c o).run ((o.notice.forM note).run h).2).2) := by
  unfold takeIn
  rw [StateT.run_bind, run_steer_self (f := (·.take g)) hf ho]
  rfl

/-- A connection that owes nothing has nothing to say at the end of a segment without a FIN. -/
theorem run_conclude_idle (ho : (h.connection c).control.owesAck = false) :
    (conclude c false).run h = (some (), h) := by
  have hf : (h.connection c).control.finish false = ((h.connection c).control, {}) := by
    unfold Control.finish
    rw [if_neg (by decide), ho]
    rfl
  unfold conclude
  rw [run_act, run_steer_self hf rfl]
  rfl

/-! ## Silence -/

end Host

/-- A segment was to be sent, or a frame was offered, given to the hardware or put on the wire. -/
def Event.isSending : Event → Bool
  | .emitted _ _ _ _ _ _ | .offered _ _ _ | .transmitted _ _ _ | .wire _ _ => true
  | _ => false

namespace Host

variable {h h₁ h' : Host} {c : ConnId} {g : Segment} {k : Control}

/-- **Nothing was sent, nor was anything to be sent.** Frames and jobs wait as they did. -/
def SendsNothing (h h' : Host) : Prop :=
  ∃ os cs ss new,
    h' = { h with owners := os, connections := cs, streams := ss, journal := new ++ h.journal } ∧
      ∀ e ∈ new, e.isSending = false

theorem SendsNothing.refl (h : Host) : SendsNothing h h := ⟨_, _, _, [], rfl, List.forall_mem_nil _⟩

theorem SendsNothing.trans (m : SendsNothing h h₁) (m' : SendsNothing h₁ h') : SendsNothing h h' := by
  obtain ⟨os, cs, ss, new, rfl, hn⟩ := m
  obtain ⟨os', cs', ss', new', rfl, hn'⟩ := m'
  refine ⟨os', cs', ss', new' ++ new, ?_, List.forall_mem_append.mpr ⟨hn', hn⟩⟩
  rw [List.append_assoc]

instance : Std.Refl SendsNothing := ⟨SendsNothing.refl⟩

instance : IsTrans Host SendsNothing := ⟨fun _ _ _ => SendsNothing.trans⟩

theorem sendsNothing_record {e : Event} (he : e.isSending = false) (h : Host) :
    Does SendsNothing h (record e) :=
  ⟨_, _, _, [e], rfl, List.forall_mem_singleton.mpr he⟩

theorem sendsNothing_setControl (c : ConnId) (k : Control) (h : Host) :
    Does SendsNothing h (setControl c k) := by
  obtain ⟨new, hj, hn⟩ := run_setControl c k h
  refine ⟨_, _, _, new, hj, fun e he => ?_⟩
  rw [hn e he]
  rfl

theorem sendsNothing_steer (c : ConnId) (f : Control → Control × Outcome) (h : Host) :
    Does SendsNothing h (steer c f) :=
  does_steer (sendsNothing_setControl c _ h) (sendsNothing_record rfl) fun _ _ h => sendsNothing_record rfl h

theorem sendsNothing_removeStream (s : Stream) (c : ConnId) (h : Host) :
    Does SendsNothing h (removeStream s c) := by
  refine Does.get ?_
  split
  · exact Does.pure _
  · exact ⟨_, _, _, [_], rfl, List.forall_mem_singleton.mpr rfl⟩

theorem sendsNothing_settle {o : Outcome} (ho : o.reply = none) (c : ConnId) (h : Host) :
    Does SendsNothing h (settle c o) := by
  refine does_settle (fun t ht => ?_) (fun _ h => sendsNothing_record rfl h)
    fun s h => sendsNothing_removeStream s c h
  cases ho.symm.trans ht

/-- **Code is not heard**: whatever the application is, it is not called, and nothing is sent. -/
def Hushes (x : Application → Run Unit) (h : Host) : Prop :=
  ∃ h', (∀ app, (x app).run h = (some (), h')) ∧ SendsNothing h h'

end Host

/-! ## Segments without an answer -/

/-- **A segment that is not answered** by a connection that owes nothing. -/
inductive Tcp.Control.Unanswered (k : Control) (g : Segment) : Prop
  /-- It only acknowledges. -/
  | bare (hr : g.flags.has .rst = false) (hy : g.flags.has .syn = false)
    (hf : g.flags.has .fin = false) (hp : g.payload = [])
  /-- Its data is dropped, as it comes in the wrong state or does not fit. -/
  | dropped (hr : g.flags.has .rst = false) (hy : g.flags.has .syn = false) (hp : g.payload ≠ [])
    (hd : (k.acked g).mayReceive = false ∨ k.buffer.extend? g.payload = none)
  /-- Its SYN comes when the connection is open already. -/
  | unexpected (hr : g.flags.has .rst = false) (hy : g.flags.has .syn = true)
    (hs : k.state ≠ .synReceived)
  | reset (hr : g.flags.has .rst = true)

theorem Tcp.Control.Unanswered.take {k : Control} {g : Segment} (hu : k.Unanswered g) :
    (k.take g).2.reply = none ∧ (k.take g).2.deliver = none ∧ (k.take g).2.fin = false := by
  have hk := k.take_cases g
  generalize (k.take g).1 = k', (k.take g).2 = o at hk
  cases hk with
  | reset | ends | dropped | overflow => exact ⟨rfl, rfl, rfl⟩
  | syn hr hy =>
    cases hu with
    | unexpected hr hy hs =>
      unfold repeatSyn
      rw [if_neg hs]
      exact ⟨rfl, rfl, rfl⟩
    | bare hr' hy' | dropped hr' hy' => cases hy.symm.trans hy'
    | reset hr' => cases hr.symm.trans hr'
  | empty hr hy hs hp =>
    refine ⟨rfl, rfl, ?_⟩
    cases hu with
    | bare hr hy hf => exact hf
    | dropped hr hy hp' => exact absurd hp hp'
    | unexpected hr hy' => cases hy.symm.trans hy'
    | reset hr' => cases hr.symm.trans hr'
  | data hr hy hs hp hm b hb =>
    cases hu with
    | bare hr hy hf hp' => exact absurd hp' hp
    | dropped hr hy hp hd =>
      rcases hd with hd | hd
      · cases hm.symm.trans hd
      · cases hb.symm.trans hd
    | unexpected hr hy' => cases hy.symm.trans hy'
    | reset hr' => cases hr.symm.trans hr'

namespace Host

variable {h h' : Host} {c : ConnId} {g : Segment}

/-- **A segment that is not answered is taken without a word.** -/
theorem hushes_receiveOn (hc : c < h.connections.length)
    (ho : (h.connection c).control.owesAck = false) (hu : (h.connection c).control.Unanswered g) :
    Hushes (receiveOn · c g) h := by
  obtain ⟨hr, hd, hf⟩ := hu.take
  have hi := (board_takeIn c g h).1
  have hm : SendsNothing h ((takeIn c g).run h).2 := by
    refine Does.bind (sendsNothing_steer c (·.take g) h)
      (Does.bind (sendsNothing_settle ?_ c _) (Does.pure _))
    rw [(board_steer c (·.take g) h).2, hr]
  have ho₁ : (((takeIn c g).run h).2.connection c).control.owesAck = false := by
    rw [control_takeIn hc, Control.owesAck_take hd, ho]
  refine ⟨_, fun app => ?_, hm⟩
  rw [run_receiveOn, hi, run_handOn hd, hf, run_conclude_idle ho₁]
  split <;> rfl

end Host

end InetHost
