import InetHost.Proofs.Exchange.Course
import InetHost.Proofs.Exchange.Silence
import InetHost.Proofs.Run.Enrolment
import InetHost.Proofs.Stream.Opening

/-!
# Who is let in

A segment that comes in for no connection is refused, opens a connection or is passed over. Its flags and
the listeners decide which.

* `legs`: what a host does about a segment; **`course_receiveSegment`**: so it does, whatever the
  application is;
* `opens_mem_legs`, `refuses_mem_legs`: when a connection is opened and when a RST is tried;
* `Cleared`, **`cleared_receiveSegment`**: what a RST does;
* **`Visited.admission`**: how every host lets peers in.
-/

namespace InetHost

open Tcp Switchboard

/-! ## Answers of a control block -/

theorem Tcp.Control.rst_reply_take (k : Control) (g : Segment) :
    ∀ t, (k.take g).2.reply = some t → t.flags.has .rst = false := by
  have ht := k.take_cases g
  generalize (k.take g).1 = k', (k.take g).2 = o at ht
  intro t hr
  cases ht with
  | syn =>
    unfold repeatSyn at hr
    split at hr
    · obtain rfl := Option.some.inj hr
      exact show (Flags.syn ||| Flags.ack).has .rst = false by decide
    · cases hr
  | _ => cases hr

theorem Tcp.Control.rst_reply_finish (k : Control) (fin : Bool) :
    ∀ t, (k.finish fin).2.reply = some t → t.flags.has .rst = false := by
  have hf := k.finish_cases fin
  generalize (k.finish fin).1 = k', (k.finish fin).2 = o at hf
  intro t hr
  cases hf with
  | passive =>
    obtain rfl := Option.some.inj hr
    exact show (Flags.fin ||| Flags.ack).has .rst = false by decide
  | closing | ends | ack =>
    obtain rfl := Option.some.inj hr
    exact show Flags.ack.has .rst = false by decide
  | ignored | nothing => cases hr

namespace Host

variable {h h₁ h' : Host} {app : Application} {d : DeviceId} {s : Stream} {g : Segment} {c : ConnId}
  {b : Bytes} {src : Ip} {a : Nat} {x : Emission} {k : Control}

/-! ## Connections -/

theorem apart_setControl (c : ConnId) (k : Control) (h : Host) : Does Apart h (setControl c k) := by
  obtain ⟨new, hj, hn⟩ := run_setControl c k h
  unfold Does
  rw [hj]
  refine ⟨List.length_modify .., fun _ _ hs => hs, new, rfl, fun e he => ?_⟩
  rw [hn e he]
  rfl

theorem apart_steer (c : ConnId) (f : Control → Control × Outcome) (h : Host) :
    Does Apart h (steer c f) :=
  does_steer (apart_setControl c _ h) (fun _ => apart_record rfl) fun _ _ _ => apart_record rfl

theorem apart_removeStream (s : Stream) (c : ConnId) (h : Host) :
    Does Apart h (removeStream s c) := by
  refine Does.get ?_
  split
  · exact Does.pure _
  · refine ⟨rfl, fun s' c' hs => ?_, [_], rfl, List.forall_mem_singleton.mpr rfl⟩
    have hs : (h.streams.filter (·.1 ≠ s)).lookup s' = some c' := hs
    rw [lookup_filter_ne] at hs
    split at hs
    · cases hs
    · exact hs

theorem apart_settle {o : Outcome} (ho : ∀ t, o.reply = some t → t.flags.has .rst = false) (c : ConnId)
    (h : Host) : Does Apart h (settle c o) := by
  refine does_settle (fun t ht => ?_) (fun _ _ => apart_record rfl) fun s h => apart_removeStream s c h
  exact (posts_answerOn c t h).apart (List.forall_mem_singleton.mpr (ho t ht))

theorem apart_takeIn (c : ConnId) (g : Segment) (h : Host) : Does Apart h (takeIn c g) := by
  refine Does.bind (apart_steer c (·.take g) h) (Does.bind (apart_settle ?_ c _) (Does.pure _))
  rw [(board_steer c (·.take g) h).2]
  exact Control.rst_reply_take _ g

theorem course_conclude (c : ConnId) (fin : Bool) (h : Host) :
    Within (Course app [.apart]) h (conclude c fin) := by
  have ha : Does Apart h (do settle c (← steer c (·.finish fin)) : Act Unit) := by
    refine Does.bind (apart_steer c (·.finish fin) h) (apart_settle ?_ c _)
    rw [(board_steer c (·.finish fin) h).2]
    exact Control.rst_reply_finish _ fin
  exact .apart ha (.done _)

/-! ## The course of a segment -/

/-- What a host does about a segment for a connection. -/
def legsOn (c : ConnId) (o : Outcome) : List Leg :=
  match o.deliver with
  | none => [.apart]
  | some data => [.apart, .call (.read c data), .apart]

/-- The listener that accepts a SYN. -/
def taker? (h : Host) (s : Stream) (g : Segment) : Option Nat :=
  if g.flags.has .ack then none else h.acceptor? s.here.port

/-- What a host does about a segment. -/
def legs (h : Host) (d : DeviceId) (s : Stream) (g : Segment) : List Leg :=
  match h.stream? s with
  | some c => legsOn c ((h.connection c).control.take g).2
  | none =>
    if g.flags.has .syn && !g.flags.has .rst then
      match h.taker? s g with
      | some a => [.apart, .call (.accept a s), .opens s d a g.seq]
      | none => [.refuses ⟨none, d, s, .reset g.flags g.seq g.ack, []⟩]
    else [.apart]

theorem course_handOn {o : Outcome} (ho : o.teardown = true → o.deliver = none) (app : Application)
    (c : ConnId) (h : Host) : Within (Course app (legsOn c o)) h (handOn app c o) := by
  unfold Within legsOn
  cases hd : o.deliver with
  | none =>
    rw [run_handOn hd]
    cases o.teardown with
    | true => exact .apart (.refl h) (.done h)
    | false => exact course_conclude c o.fin h
  | some data =>
    have ht : o.teardown = false := by
      refine Bool.eq_false_iff.mpr fun ht => ?_
      cases hd.symm.trans (ho ht)
    unfold handOn
    rw [ht, hd]
    refine course_act (apart_record rfl) (course_call fun h₁ _ => ?_)
    exact course_conclude c o.fin h₁

theorem course_receiveOn (app : Application) (c : ConnId) (g : Segment) (h : Host) :
    Within (Course app (legsOn c ((h.connection c).control.take g).2)) h (receiveOn app c g) := by
  have ho := (board_takeIn c g h).1
  have hc := course_handOn (o := ((h.connection c).control.take g).2) deliver_of_teardown app c
    ((takeIn c g).run h).2
  unfold Within at hc ⊢
  rw [run_receiveOn, ho]
  revert hc
  unfold legsOn
  split <;> exact fun hc => hc.after (apart_takeIn c g h)

/-- **A connection takes its place** between its ends. -/
structure Placed (k : Connection) (h h' : Host) : Prop where
  connections : h'.connections = h.connections ++ [k]
  streams : ∀ s, h'.stream? s = if s = k.stream then some h.connections.length else h.stream? s
  journal : ∃ new, h'.journal = new ++ h.journal ∧ ∀ e ∈ new, e.isCall = false ∧ e.emission = none

theorem placed_openStream (s : Stream) (d : DeviceId) (service : StreamService) (isn : SeqNum)
    (k : Control) (h : Host) : ((openStream s d service isn k).run h).1 = h.connections.length ∧
    Placed { stream := s, device := d, control := k, service } h
      ((openStream s d service isn k).run h).2 := by
  have hs : ∀ s', ((openStream s d service isn k).run h).2.stream? s' =
      if s' = s then some h.connections.length else h.stream? s' := by
    intro s'
    rw [← stream?_board, board_openStream, stream?_place, length_lines_board]
    rfl
  unfold openStream at hs ⊢
  rw [act_get, act_modify] at hs ⊢
  cases ho : h.stream? s with
  | none =>
    rw [ho] at hs
    exact ⟨rfl, rfl, hs, [_], rfl, List.forall_mem_singleton.mpr ⟨rfl, rfl⟩⟩
  | some old =>
    rw [ho] at hs
    exact ⟨rfl, rfl, hs, [_, _], rfl, by simp [Event.isCall, Event.emission]⟩

theorem Placed.connection {k : Connection} (p : Placed k h h') :
    h'.connection h.connections.length = k := by
  unfold Host.connection
  rw [p.connections, List.getD_append_right _ _ _ _ (Nat.le_refl _), Nat.sub_self]
  rfl

theorem Placed.opens {isn : SeqNum}
    (p : Placed {
      stream := s
      device := d
      control := (Control.accept isn h.config.receiveBuffer).1
      service := (h.acceptors.getD a default).service } h h₁) :
    Opens s d a isn h ((answerOn h.connections.length
      (Control.accept isn h.config.receiveBuffer).2).run h₁).2 := by
  have hp := posts_answerOn h.connections.length (Control.accept isn h.config.receiveBuffer).2 h₁
  rw [p.connection] at hp
  obtain ⟨ds, ts, qs, new, he, hn, hl, -⟩ := hp
  obtain ⟨old, hj, ho⟩ := p.journal
  rw [he]
  refine ⟨p.connections, p.streams, new ++ old, ?_, ?_, ?_⟩
  · rw [hj, List.append_assoc]
  · exact List.forall_mem_append.mpr ⟨hn, fun e he => (ho e he).1⟩
  · have hn : emissions old = [] := inOrder_eq_nil fun e he => (ho e he).2
    rw [emissions_append, hn, hl]
    rfl

/-- A SYN is refused with a RST, … -/
theorem posts_reset (d : DeviceId) (s : Stream) (g : Segment) (h : Host) :
    ∃ h', (acceptStream.reset d s g).run h = (some (), h') ∧
      Posts [⟨none, d, s, .reset g.flags g.seq g.ack, []⟩] h h' := by
  unfold acceptStream.reset
  rw [run_act, run_lift]
  refine ⟨_, rfl, ?_⟩
  have hn : Posts [] h ((note (.streamRefused s)).run h).2 :=
    posts_record (e := .noticed (.streamRefused s)) rfl h
  exact hn.trans (posts_answer none d s _ _)

theorem run_acceptStream_refused (ht : h.taker? s g = none) :
    (acceptStream app d s g).run h = (acceptStream.reset d s g).run h := by
  unfold taker? at ht
  unfold acceptStream
  rw [run_get]
  split
  · rename_i a ha
    by_cases hk : g.flags.has .ack = true
    · rw [if_pos hk]
    · rw [if_neg hk, ha] at ht
      cases ht
  · rfl

/-- … or a listener accepts it. -/
theorem course_acceptStream (ht : h.taker? s g = some a) :
    Within (Course app [.call (.accept a s), .opens s d a g.seq]) h (acceptStream app d s g) := by
  unfold taker? at ht
  split at ht
  · cases ht
  · rename_i hk
    unfold acceptStream
    refine Within.get ?_
    rw [ht]
    dsimp only
    rw [if_neg hk]
    refine course_call fun h₁ _ => Within.get ?_
    obtain ⟨hc, hp⟩ := placed_openStream s d (h₁.acceptors.getD a default).service g.seq
      (Control.accept g.seq h₁.config.receiveBuffer).1 h₁
    have ho := hp.opens
    unfold Within
    rw [run_act, hc, run_lift]
    exact .opens ho (.done _)

theorem Traced.apart (ht : Traced h h') : Apart h h' := by
  obtain ⟨new, rfl, hn⟩ := ht
  refine ⟨rfl, fun _ _ hs => hs, new, rfl, fun e he => ?_⟩
  have ht := hn e he
  cases e <;> first | rfl | cases ht

theorem wanted_iff (hc : h.stream? s = none) :
    h.Wanted s g ↔ (g.flags.has .syn && !g.flags.has .rst) = true := by
  unfold Wanted
  simp [hc]

/-- What asks for nothing is passed over. -/
theorem ignores_unwanted (hg : g.Reads b) (hs : s = ⟨⟨(h.device d).ip, g.dstPort⟩, ⟨src, g.srcPort⟩⟩)
    (hw : ¬ h.Wanted s g) : Ignores (receiveSegment · d b src) h := by
  refine ignores_receiveSegment fun g' hg' => ?_
  obtain rfl : g = g' :=
    Except.ok.inj ((Segment.decode_eq_ok.mpr hg).symm.trans (Segment.decode_eq_ok.mpr hg'))
  rwa [← hs]

/-- **The course of a segment**, whatever the application is. -/
theorem course_receiveSegment (hg : g.Reads b)
    (hs : s = ⟨⟨(h.device d).ip, g.dstPort⟩, ⟨src, g.srcPort⟩⟩) (app : Application) :
    Within (Course app (h.legs d s g)) h (receiveSegment app d b src) := by
  have ha : Apart h ((record (.arrived s g)).run h).2 := apart_record rfl
  unfold Within legs
  cases hc : h.stream? s with
  | some c =>
    have hr := course_receiveOn app c g ((record (.arrived s g)).run h).2
    rw [run_receiveSegment_registered hc hg hs]
    revert hr
    change Within (Course app (legsOn c ((h.connection c).control.take g).2)) _ _ → _
    dsimp only
    unfold legsOn
    split <;> exact fun hr => hr.after ha
  | none =>
    dsimp only
    cases hy : g.flags.has .syn && !g.flags.has .rst with
    | false =>
      have hw : ¬ h.Wanted s g := by
        rw [wanted_iff hc, hy]
        exact Bool.false_ne_true
      obtain ⟨h', hr, ht⟩ := ignores_unwanted hg hs hw
      rw [hr app]
      exact .apart ht.apart (.done h')
    | true =>
      rw [if_pos rfl]
      have hw : h.Wanted s g := (wanted_iff hc).mpr hy
      rw [run_receiveSegment hg hs hw, hc]
      dsimp only
      have ht : (((record (.arrived s g)).run h).2).taker? s g = h.taker? s g := rfl
      cases hx : h.taker? s g with
      | some a =>
        exact .apart ha (course_acceptStream (ht.trans hx))
      | none =>
        obtain ⟨h', hr, hp⟩ := posts_reset d s g ((record (.arrived s g)).run h).2
        rw [run_acceptStream_refused (ht.trans hx), hr]
        exact .refuses ((posts_record (e := .arrived s g) rfl h).trans hp) (.done h')

/-! ## RSTs -/

/-- **Two ends are left without a connection**, and without a word. Other connections stay as they are. -/
structure Cleared (s : Stream) (h h' : Host) : Prop where
  sendsNothing : SendsNothing h h'
  gone : h'.stream? s = none
  streams : ∀ s' ≠ s, h'.stream? s' = h.stream? s'
  length : h'.connections.length = h.connections.length
  connections : ∀ c, h.stream? s ≠ some c → h'.connection c = h.connection c

theorem take_reset (hr : g.flags.has .rst = true) (k : Control) :
    k.take g = ({ k with state := .closed }, { teardown := true }) := by
  unfold Control.take
  rw [if_pos hr]

theorem run_removeStream (hc : h.stream? s = some c) (c' : ConnId) : (removeStream s c').run h = ((), { h with
    streams := h.streams.filter (·.1 ≠ s)
    journal := .removed c s c' :: h.journal }) := by
  unfold removeStream
  rw [act_get, hc]
  rfl

theorem cleared_settle (hc : h.stream? s = some c) (he : (h.connection c).stream = s) :
    Cleared s h ((settle c { teardown := true }).run h).2 := by
  have hr : (settle c { teardown := true }).run h =
      (removeStream (h.connection c).stream c).run
        ((note (.streamClosed (h.connection c).stream)).run h).2 := rfl
  have hs : ∀ s', (h.streams.filter (·.1 ≠ s)).lookup s' = if s' = s then none else h.stream? s' :=
    lookup_filter_ne h.streams s
  rw [hr, he, run_removeStream (h := ((note (.streamClosed s)).run h).2) hc]
  refine ⟨⟨_, _, _, [_, _], rfl, by simp [Event.isSending]⟩, ?_, fun s' hn => ?_, rfl, fun _ _ => rfl⟩
  · exact (hs s).trans (if_pos rfl)
  · exact (hs s').trans (if_neg hn)

theorem Cleared.after (x : Cleared s h₁ h') (hm : SendsNothing h h₁) (hs : h₁.streams = h.streams)
    (hl : h₁.connections.length = h.connections.length)
    (hc : ∀ c, h.stream? s ≠ some c → h₁.connection c = h.connection c) : Cleared s h h' := by
  have hs : ∀ s, h₁.stream? s = h.stream? s := fun s => congrArg (·.lookup s) hs
  refine ⟨hm.trans x.sendsNothing, x.gone, fun s' hn => ?_, x.length.trans hl, fun c hn => ?_⟩
  · rw [x.streams s' hn, hs]
  · rw [x.connections c (by rwa [hs]), hc c hn]

/-- **A RST closes a connection.** -/
theorem cleared_takeIn (hc : h.stream? s = some c) (he : (h.connection c).stream = s)
    (hr : g.flags.has .rst = true) : Cleared s h ((takeIn c g).run h).2 := by
  let k : Control := { (h.connection c).control with state := .closed }
  obtain ⟨new, hj, -⟩ := run_setControl c k h
  have hm : SendsNothing h ((setControl c k).run h).2 := sendsNothing_setControl c k h
  have hs : (steer c (·.take g)).run h = ({ teardown := true }, ((setControl c k).run h).2) := by
    unfold steer
    rw [act_get]
    dsimp only
    rw [take_reset hr]
    rfl
  have ht : ((takeIn c g).run h).2 =
      ((settle c { teardown := true }).run ((setControl c k).run h).2).2 := by
    unfold takeIn
    rw [StateT.run_bind, hs]
    rfl
  rw [ht]
  generalize ((setControl c k).run h).2 = h₁ at hj hm
  have hd : ∀ c', h₁.connection c' =
      if c = c' ∧ c' < h.connections.length then { h.connection c' with control := k }
      else h.connection c' := by
    intro c'
    rw [hj]
    exact getD_modify _ _ _ _ _
  have hc₁ : h₁.stream? s = some c := by
    rw [hj]
    exact hc
  have he₁ : (h₁.connection c).stream = s := by
    rw [hd]
    split <;> exact he
  refine (cleared_settle hc₁ he₁).after hm ?_ ?_ fun c' hn => ?_
  · rw [hj]
  · rw [hj]
    exact List.length_modify ..
  · have hx : ¬ (c = c' ∧ c' < h.connections.length) := fun hx => hn (hx.1 ▸ hc)
    rw [hd, if_neg hx]

/-- **A RST leaves its ends without a connection**, whatever else it says and whatever the application is. -/
theorem cleared_receiveSegment (hv : ∀ c, h.stream? s = some c → (h.connection c).stream = s)
    (hg : g.Reads b) (hs : s = ⟨⟨(h.device d).ip, g.dstPort⟩, ⟨src, g.srcPort⟩⟩)
    (hr : g.flags.has .rst = true) :
    ∃ h', (∀ app, (receiveSegment app d b src).run h = (some (), h')) ∧ Cleared s h h' := by
  have hm : SendsNothing h ((record (.arrived s g)).run h).2 := sendsNothing_record rfl h
  cases hc : h.stream? s with
  | some c =>
    have hx : Cleared s ((record (.arrived s g)).run h).2
        ((takeIn c g).run ((record (.arrived s g)).run h).2).2 := cleared_takeIn hc (hv c hc) hr
    refine ⟨_, fun app => ?_, hx.after hm rfl rfl fun _ _ => rfl⟩
    rw [run_receiveSegment_registered hc hg hs, run_receiveOn, (board_takeIn c g _).1, take_reset hr,
      run_handOn rfl]
    rfl
  | none =>
    have hw : ¬ h.Wanted s g := by
      rw [wanted_iff hc, hr, Bool.not_true, Bool.and_false]
      exact Bool.false_ne_true
    obtain ⟨h', hrun, ht⟩ := ignores_unwanted hg hs hw
    have hm := ht.sendsNothing
    obtain ⟨new, rfl, -⟩ := ht
    exact ⟨_, hrun, hm, hc, fun _ _ => rfl, rfl, fun _ _ => rfl⟩

/-! ## Who is let in -/

/-- **A segment knocks**: it has a SYN and no RST, and there is no connection between its ends. -/
structure Knocks (h : Host) (s : Stream) (g : Segment) : Prop where
  unknown : h.stream? s = none
  syn : g.flags.has .syn = true
  rst : g.flags.has .rst = false

theorem taker?_eq_some :
    h.taker? s g = some a ↔ g.flags.has .ack = false ∧ h.acceptor? s.here.port = some a := by
  unfold taker?
  cases g.flags.has .ack <;> simp

theorem taker?_eq_none :
    h.taker? s g = none ↔ g.flags.has .ack = true ∨ h.acceptor? s.here.port = none := by
  unfold taker?
  cases g.flags.has .ack <;> simp

theorem Knocks.legs (x : Knocks h s g) (d : DeviceId) : h.legs d s g =
    match h.taker? s g with
    | some a => [.apart, .call (.accept a s), .opens s d a g.seq]
    | none => [.refuses ⟨none, d, s, .reset g.flags g.seq g.ack, []⟩] := by
  unfold Host.legs
  rw [x.unknown, x.syn, x.rst]
  rfl

theorem legs_of_not_knocks (hn : ¬ Knocks h s g) (d : DeviceId) :
    h.legs d s g = [.apart] ∨ ∃ c data, h.legs d s g = [.apart, .call (.read c data), .apart] := by
  unfold legs
  cases hc : h.stream? s with
  | some c =>
    change legsOn c _ = _ ∨ ∃ c' data, legsOn c _ = _
    unfold legsOn
    cases ((h.connection c).control.take g).2.deliver with
    | none => exact .inl rfl
    | some data => exact .inr ⟨c, data, rfl⟩
  | none =>
    refine .inl (if_neg fun hy => hn ?_)
    rw [Bool.and_eq_true, Bool.not_eq_true'] at hy
    exact ⟨hc, hy.1, hy.2⟩

/-- **When a connection is opened.** -/
theorem opens_mem_legs {s' : Stream} {d' : DeviceId} {isn : SeqNum} :
    .opens s' d' a isn ∈ h.legs d s g ↔
      (Knocks h s g ∧ h.taker? s g = some a) ∧ s' = s ∧ d' = d ∧ isn = g.seq := by
  by_cases hx : Knocks h s g
  · rw [hx.legs]
    cases h.taker? s g with
    | none => simp
    | some a' =>
      simp only [hx, true_and, Option.some.injEq, List.mem_cons, reduceCtorEq, Leg.opens.injEq,
        List.not_mem_nil, false_or, or_false]
      constructor
      · rintro ⟨hs, hd, ha, hi⟩
        exact ⟨ha.symm, hs, hd, hi⟩
      · rintro ⟨ha, hs, hd, hi⟩
        exact ⟨hs, hd, ha.symm, hi⟩
  · rcases legs_of_not_knocks hx d with hl | ⟨c, data, hl⟩ <;> simp [hl, hx]

/-- **When a segment is refused.** -/
theorem refuses_mem_legs : .refuses x ∈ h.legs d s g ↔ (Knocks h s g ∧ h.taker? s g = none) ∧
    x = ⟨none, d, s, .reset g.flags g.seq g.ack, []⟩ := by
  by_cases hx : Knocks h s g
  · rw [hx.legs]
    cases h.taker? s g with
    | none => simp [hx]
    | some a' => simp
  · rcases legs_of_not_knocks hx d with hl | ⟨c, data, hl⟩ <;> simp [hl, hx]

/-- **Only a segment that opens a connection has it accepted.** -/
theorem accept_mem_legs {s' : Stream} : .call (.accept a s') ∈ h.legs d s g ↔
    (Knocks h s g ∧ h.taker? s g = some a) ∧ s' = s := by
  by_cases hx : Knocks h s g
  · rw [hx.legs]
    cases h.taker? s g with
    | none => simp
    | some a' =>
      simp only [hx, true_and, Option.some.injEq, List.mem_cons, reduceCtorEq, Leg.call.injEq,
        Call.accept.injEq, List.not_mem_nil, false_or, or_false]
      exact and_congr_left' eq_comm
  · rcases legs_of_not_knocks hx d with hl | ⟨c, data, hl⟩ <;> simp [hl, hx]

/-! ### Frames -/

theorem Brings.run_receiveFrame (hb : Brings s b g) (ha : (h.device d).ip = s.here.ip) :
    ∃ p : Ipv4.Packet, g.Reads p.payload ∧ s = ⟨⟨(h.device d).ip, g.dstPort⟩, ⟨p.src, g.srcPort⟩⟩ ∧
      ∀ app, (receiveFrame app d b).run h =
        (receiveSegment app d p.payload p.src).run ((register d).run h).2 := by
  obtain ⟨f, p, hf, ht, hp, hq, hi, hg⟩ := hb.reads
  refine ⟨p, hg, ?_, fun app => run_receiveFrame_segment hf ht hp hq app⟩
  rw [ha, hi, hb.srcPort, hb.dstPort]

/-- **The course of a frame** with a segment: the device is presented first. -/
theorem course_receiveFrame (hb : Brings s b g) (ha : (h.device d).ip = s.here.ip) (app : Application) :
    Within (Course app (.apart :: h.legs d s g)) h (receiveFrame app d b) := by
  obtain ⟨p, hg, hs, hr⟩ := Brings.run_receiveFrame hb ha
  obtain ⟨os, j, he⟩ := run_register d h
  have hp := apart_register d h
  unfold Does at hp
  unfold Within
  rw [hr app]
  rw [he] at hp ⊢
  exact .apart hp (course_receiveSegment (h := { h with owners := os, journal := j }) hg hs app)

theorem cleared_receiveFrame (hv : ∀ c, h.stream? s = some c → (h.connection c).stream = s)
    (hb : Brings s b g) (ha : (h.device d).ip = s.here.ip) (hr : g.flags.has .rst = true) :
    ∃ h', (∀ app, (receiveFrame app d b).run h = (some (), h')) ∧ Cleared s h h' := by
  obtain ⟨p, hg, hs, hf⟩ := Brings.run_receiveFrame hb ha
  obtain ⟨os, j, he⟩ := run_register d h
  have hm := sendsNothing_register d h
  unfold Does at hm
  rw [he] at hf hm
  obtain ⟨h', hx, hc⟩ :=
    cleared_receiveSegment (h := { h with owners := os, journal := j }) hv hg hs hr
  exact ⟨h', fun app => (hf app).trans (hx app), hc.after hm rfl rfl fun _ _ => rfl⟩

/-! ### Every host -/

/-- **How a host lets peers in.** -/
structure Admission (h : Host) : Prop where
  /-- What it does about a segment is told by `legs`, whatever the application is, … -/
  segment : ∀ {d b src s g}, Segment.decode b = .ok g →
    s = ⟨⟨(h.device d).ip, g.dstPort⟩, ⟨src, g.srcPort⟩⟩ → ∀ app,
      Within (Course app (h.legs d s g)) h (receiveSegment app d b src)
  /-- … and so it is for a segment in a frame, whose device is presented first. -/
  frame : ∀ {d b s g}, Brings s b g → (h.device d).ip = s.here.ip → ∀ app,
    Within (Course app (.apart :: h.legs d s g)) h (receiveFrame app d b)
  /-- A connection is opened just if a segment knocks that has no ACK, and its port has a listener, … -/
  opens : ∀ {d s g s' d' a isn}, .opens s' d' a isn ∈ h.legs d s g ↔
    (Knocks h s g ∧ g.flags.has .ack = false ∧ h.acceptor? s.here.port = some a) ∧
      s' = s ∧ d' = d ∧ isn = g.seq
  /-- … and then this listener accepts it, and nothing else is called or tried. -/
  accepts : ∀ {d s g s' d' a isn}, .opens s' d' a isn ∈ h.legs d s g →
    h.legs d s g = [.apart, .call (.accept a s), .opens s d a g.seq]
  /-- A listener is asked to accept nothing else. -/
  asked : ∀ {d s g s' a}, .call (.accept a s') ∈ h.legs d s g → .opens s d a g.seq ∈ h.legs d s g
  /-- A RST is tried just if a segment knocks that has an ACK or whose port has no listener, … -/
  refuses : ∀ {d s g x}, .refuses x ∈ h.legs d s g ↔
    (Knocks h s g ∧ (g.flags.has .ack = true ∨ h.acceptor? s.here.port = none)) ∧ x = ⟨none, d, s,
      if g.flags.has .ack then ⟨g.ack, 0, .rst, 0⟩ else ⟨0, g.seq + 1, .rst ||| .ack, 0⟩, []⟩
  /-- … and then nothing else happens. -/
  refused : ∀ {d s g x}, .refuses x ∈ h.legs d s g → h.legs d s g = [.refuses x]
  /-- A RST, whatever else it says, has nothing sent and no code called, and leaves its ends without a
  connection. Other connections stay as they are. -/
  reset : ∀ {d b src s g}, Segment.decode b = .ok g →
    s = ⟨⟨(h.device d).ip, g.dstPort⟩, ⟨src, g.srcPort⟩⟩ → g.flags.has .rst = true →
      ∃ h', (∀ app, (receiveSegment app d b src).run h = (some (), h')) ∧ Cleared s h h'
  /-- So does a RST in a frame. -/
  resetFrame : ∀ {d b s g}, Brings s b g → (h.device d).ip = s.here.ip → g.flags.has .rst = true →
    ∃ h', (∀ app, (receiveFrame app d b).run h = (some (), h')) ∧ Cleared s h h'
  /-- A port's listener is the one that the roll has for it. There is no other, … -/
  listener : ∀ {port a}, h.acceptor? port = some a ↔
    ∃ service, h.acceptorRoll[a]? = some (port, service)
  /-- … as the first one stays, with its number and its service, … -/
  stays : ∀ {e h' port a}, Leads e h h' → h.acceptor? port = some a →
    h'.acceptor? port = some a ∧ h'.acceptorRoll[a]? = h.acceptorRoll[a]?
  /-- … and a second one is not taken. -/
  taken : ∀ {port a}, h.acceptor? port = some a → ∀ service,
    (listen port service).run h = (.error .portTaken, h)

/-- **A connection is opened by a SYN without ACK for a listener, and by nothing else**; what knocks otherwise
is refused with a RST. -/
theorem Visited.admission (hv : Visited h) : Admission h where
  segment hg hs := course_receiveSegment (Segment.decode_eq_ok.mp hg) hs
  frame := course_receiveFrame
  opens := by
    intro d s g s' d' a isn
    rw [opens_mem_legs, taker?_eq_some]
  accepts hm := by
    obtain ⟨⟨hk, ht⟩, -⟩ := opens_mem_legs.mp hm
    rw [hk.legs, ht]
  asked hm := by
    obtain ⟨hk, -⟩ := accept_mem_legs.mp hm
    exact opens_mem_legs.mpr ⟨hk, rfl, rfl, rfl⟩
  refuses := by
    intro d s g x
    rw [refuses_mem_legs, taker?_eq_none]
    rfl
  refused hm := by
    obtain ⟨⟨hk, ht⟩, rfl⟩ := refuses_mem_legs.mp hm
    rw [hk.legs, ht]
  reset hg hs := cleared_receiveSegment (fun _ hc => (hv.registered hc).2) (Segment.decode_eq_ok.mp hg) hs
  resetFrame := cleared_receiveFrame fun _ hc => (hv.registered hc).2
  listener := hv.acceptor?_iff
  stays hl ha := by
    have he := enrols_leads hl
    obtain ⟨service, hs⟩ := hv.acceptor?_iff.mp ha
    refine ⟨he.acceptor? ha, ?_⟩
    rw [getElem?_of_begins he.acceptors hs, hs]
  taken ha := run_listen_taken ha

/-- The ends of a connection that the peer of `respondent` asks for from another port. -/
def stranger : Stream := ⟨respondent.stream.here, ⟨⟨10, 0, 0, 2⟩, 4001⟩⟩

/-- A SYN is accepted and one with an ACK refused; a RST closes the connection that is there, although it
has a SYN and data. -/
theorem admission_respondent : Visited respondent ∧ ∃ b₁ b₂ b₃ h',
    (∀ app, Within (Course app [.apart, .call (.accept 0 stranger), .opens stranger 0 0 50]) respondent
      (receiveSegment app 0 b₁ ⟨10, 0, 0, 2⟩)) ∧
    (∀ app, Within (Course app [.refuses ⟨none, 0, stranger, ⟨60, 0, .rst, 0⟩, []⟩]) respondent
      (receiveSegment app 0 b₂ ⟨10, 0, 0, 2⟩)) ∧
    respondent.stream? respondent.stream = some 0 ∧
    (∀ app, (receiveSegment app 0 b₃ ⟨10, 0, 0, 2⟩).run respondent = (some (), h')) ∧
    Cleared respondent.stream respondent h' := by
  have hv : Visited respondent := visited_talked (by decide +kernel)
  have hx := hv.admission
  have hd : (respondent.device 0).ip = talker.ip := by decide +kernel
  have hn : respondent.stream? stranger = none := by decide +kernel
  have ha : respondent.acceptor? stranger.here.port = some 0 := by decide +kernel
  have hg : ∀ (s : Stream) (t : Header) (data : Bytes), Segment.decode (encode ⟨s.peer, s.here⟩ t data) =
      .ok ⟨s.peer.port, s.here.port, t.seq, t.ack, t.flags, data⟩ := fun s t data =>
    Segment.decode_eq_ok.mpr (Segment.reads_encode ⟨s.peer, s.here⟩ t data)
  have hs : ∀ {s : Stream}, s.here.ip = talker.ip → s.peer.ip = ⟨10, 0, 0, 2⟩ →
      s = ⟨⟨(respondent.device 0).ip, s.here.port⟩, ⟨⟨10, 0, 0, 2⟩, s.peer.port⟩⟩ := by
    intro s hh hp
    rw [hd, ← hh, ← hp]
  have h₁ := fun app => hx.segment (hg stranger ⟨50, 0, .syn, 1000⟩ []) (hs rfl rfl) app
  have h₂ := fun app => hx.segment (hg stranger ⟨50, 60, .syn ||| .ack, 1000⟩ []) (hs rfl rfl) app
  have hl : .opens stranger 0 0 50 ∈ respondent.legs 0 stranger
      ⟨stranger.peer.port, stranger.here.port, 50, 0, .syn, []⟩ :=
    hx.opens.mpr ⟨⟨⟨hn, by decide, by decide⟩, by decide, ha⟩, rfl, rfl, rfl⟩
  have hr : .refuses ⟨none, 0, stranger, ⟨60, 0, .rst, 0⟩, []⟩ ∈ respondent.legs 0 stranger
      ⟨stranger.peer.port, stranger.here.port, 50, 60, .syn ||| .ack, []⟩ :=
    hx.refuses.mpr ⟨⟨⟨hn, by decide, by decide⟩, .inl (by decide)⟩, by decide⟩
  obtain ⟨h', hrun, hc⟩ := hx.reset
    (hg respondent.stream ⟨7, 8, .rst ||| .syn ||| .fin, 0⟩ [104]) (hs rfl rfl) (by decide)
  rw [hx.accepts hl] at h₁
  rw [hx.refused hr] at h₂
  exact ⟨hv, _, _, _, h', h₁, h₂, by decide +kernel, hrun, hc⟩

end Host

end InetHost
