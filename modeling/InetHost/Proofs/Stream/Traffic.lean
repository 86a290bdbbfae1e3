import InetHost.Proofs.Run.Leads
import InetHost.Proofs.Stream.ChoreCases
import InetHost.Proofs.Tcp.Control

/-!
# Traffic on a switchboard

`Traffic e v w` says that a run may lead from the switchboard `v` to `w`. It is a relation between
switchboards alone, with one rule for each thing that a host does on its connections. Where
application code is called in the middle of it (after data was taken, before a connection is opened),
the traffic of that code stands as a premise.

* `Traffic`: the rules;
* `board_emit`, `board_settle`, …: each act of a host on its connections is one on its switchboard;
* **`traffic_leads`**: whatever a host comes to is traffic on its switchboard.
-/

namespace InetHost

open Tcp

/-- **A run may lead from one switchboard to another**; `false` if it has not come to its end. -/
inductive Traffic : Bool → Switchboard → Switchboard → Prop
  | refl (v : Switchboard) : Traffic true v v
  | cut (v : Switchboard) : Traffic false v v
  | trans {e : Bool} {v v₁ v₂ : Switchboard} (h₁₂ : Traffic true v v₁) (h₂₃ : Traffic e v₁ v₂) :
    Traffic e v v₂
  | call (v : Switchboard) (e : Event) (he : e.isCall = true) : Traffic true v (v.log e)
  | send {v : Switchboard} {s : Stream} {c : ConnId} (hs : v.stream? s = some c)
    (hm : (v.control c).state.maySend = true) (data : Bytes) (b : Bool) :
    Traffic true v (v.send c data b)
  | shut {v : Switchboard} {s : Stream} {c : ConnId} {t : Header} (hs : v.stream? s = some c)
    (ht : (v.control c).closeHeader? = some t) (b : Bool) : Traffic true v (v.shut c t b)
  | ignore {v : Switchboard} {s : Stream} (hs : v.stream? s = none) (seg : Segment)
    (hf : seg.flags.has .rst = true ∨ seg.flags.has .syn = false) :
    Traffic true v (v.log (.arrived s seg))
  | refuse {v : Switchboard} {s : Stream} {seg : Segment} (hs : v.stream? s = none)
    (hr : seg.flags.has .rst = false) (hy : seg.flags.has .syn = true) (d : DeviceId) (b : Bool)
    (hd : v.address d = s.here.ip) :
    Traffic true v ((v.log (.arrived s seg)).log
      (.emitted none d s (.reset seg.flags seg.seq seg.ack) [] b))
  | accepting {v w : Switchboard} {s : Stream} {seg : Segment} (hs : v.stream? s = none)
    (ha : Traffic false (v.log (.arrived s seg)) w) : Traffic false v w
  | accept {v w : Switchboard} {s : Stream} {seg : Segment} (hs : v.stream? s = none)
    (hr : seg.flags.has .rst = false) (hy : seg.flags.has .syn = true)
    (hk : seg.flags.has .ack = false) (d : DeviceId) (b : Bool) (hd : v.address d = s.here.ip)
    (ha : Traffic true (v.log (.arrived s seg)) w) : Traffic true v (w.connect s d seg.seq b)
  | ends {v : Switchboard} {s : Stream} {c : ConnId} {seg : Segment} (hs : v.stream? s = some c)
    (ht : ((v.control c).take seg).2.teardown = true) (b : Bool) :
    Traffic true v ((v.log (.arrived s seg)).take c seg b)
  | reading {v w : Switchboard} {s : Stream} {c : ConnId} {seg : Segment}
    (hs : v.stream? s = some c) (ht : ((v.control c).take seg).2.teardown = false) (b : Bool)
    (ha : Traffic false ((v.log (.arrived s seg)).take c seg b) w) : Traffic false v w
  | receive {v w : Switchboard} {s : Stream} {c : ConnId} {seg : Segment}
    (hs : v.stream? s = some c) (ht : ((v.control c).take seg).2.teardown = false) (b b' : Bool)
    (ha : Traffic true ((v.log (.arrived s seg)).take c seg b) w) :
    Traffic true v (w.finish c ((v.control c).take seg).2.fin b')

namespace Host

variable {h : Host} {α β : Type}

/-! ## Acts on connections -/

theorem board_bind {x : Act α} {f : α → Act β} {v : Switchboard} (hx : (x.run h).2.board = v)
    (hf : Does SameBoard (x.run h).2 (f (x.run h).1)) : ((x >>= f).run h).2.board = v :=
  hf.trans hx

theorem board_next {x : Act α} {f : α → Act β} {v : Switchboard}
    (hf : ((f (x.run h).1).run (x.run h).2).2.board = v) : ((x >>= f).run h).2.board = v := hf

theorem board_entered {x : Act α} {f : α → Event} (hx : Does SameBoard h x)
    (hf : ∀ a, (f a).onBoard = true) :
    ((do let a ← x; record (f a); return a : Act α).run h).2.board =
      h.board.log (f ((do let a ← x; record (f a); return a : Act α).run h).1) := by
  change ((record (f (x.run h).1)).run (x.run h).2).2.board = h.board.log (f (x.run h).1)
  rw [board_log (hf _), hx]

theorem board_sendSegment (c : Option ConnId) (d : DeviceId) (s : Stream) (t : Header)
    (data : Bytes) (h : Host) :
    ((sendSegment c d s t data).run h).2.board =
      h.board.log (.emitted c d s t data ((sendSegment c d s t data).run h).1.toBool) := by
  have hc : Does (Chores fun _ _ _ => True) h
      (sendPacket (.withRoom headroom (encode s t data)) Ipv4.tcp s.peer.ip d) :=
    chores_sendPacket fun _ _ => .inr trivial
  unfold sendSegment
  rw [board_entered (f := fun r => .emitted c d s t data r.toBool) (board_chores hc) fun _ => rfl]

theorem sameBoard_note (n : Notice) : Does SameBoard h (note n) := sameBoard_record rfl

theorem board_answer (c : Option ConnId) (d : DeviceId) (s : Stream) (t : Header) (h : Host) :
    ∃ b, ((answer c d s t).run h).2.board = h.board.log (.emitted c d s t [] b) := by
  refine ⟨_, board_bind (board_sendSegment c d s t [] h) ?_⟩
  split
  · exact Does.pure _
  · exact sameBoard_note _

theorem board_emit (c : ConnId) (t : Header) (data : Bytes) (h : Host) :
    ((emit c t data).run h).2.board =
      h.board.emit c t data ((emit c t data).run h).1.toBool := by
  unfold emit
  rw [act_get, board_sendSegment]
  unfold Switchboard.emit
  rw [line_board]
  rfl

theorem board_answerOn (c : ConnId) (t : Header) (h : Host) :
    ∃ b, ((answerOn c t).run h).2.board = h.board.emit c t [] b := by
  obtain ⟨b, hb⟩ := board_answer (some c) (h.connection c).device (h.connection c).stream t h
  refine ⟨b, ?_⟩
  unfold answerOn Switchboard.emit
  rw [act_get, hb, line_board]
  rfl

theorem board_setControl (c : ConnId) (k : Control) (h : Host) :
    ((setControl c k).run h).2.board = h.board.setControl c k := by
  have hl : (h.connections.modify c ({ · with control := k })).map (·.line) =
      (h.connections.map (·.line)).modify c ({ · with control := k }) := by
    refine map_modify _ _ ?_ _ _
    intro k
    rfl
  have hb : board { h with connections := h.connections.modify c ({ · with control := k }) } =
      h.board.write c k :=
    congrArg (fun l => { h.board with lines := l }) hl
  unfold setControl Switchboard.setControl
  rw [act_get, act_modify, control_board]
  split_ifs
  · exact hb
  · rw [board_log rfl, hb]

theorem board_removeStream (s : Stream) (c : ConnId) (h : Host) :
    ((removeStream s c).run h).2.board = h.board.remove s c := by
  unfold removeStream Switchboard.remove
  rw [act_get, stream?_board]
  cases hs : h.stream? s with
  | none => rfl
  | some c' =>
    dsimp only
    rw [act_modify, board_log rfl]
    rfl

theorem sameBoard_forM (o : Option Notice) : Does SameBoard h (o.forM note) := by
  cases o with
  | none => exact Does.pure _
  | some n => exact sameBoard_note n

theorem board_steer (c : ConnId) (f : Control → Control × Outcome) (h : Host) :
    ((steer c f).run h).2.board = h.board.steer c (f (h.connection c).control) ∧
      ((steer c f).run h).1 = (f (h.connection c).control).2 := by
  unfold steer Switchboard.steer
  rw [act_get]
  rcases f (h.connection c).control with ⟨k, o⟩
  have hs := board_setControl c k h
  dsimp only
  cases he : o.ended with
  | false =>
    refine ⟨board_bind hs ?_, rfl⟩
    exact Does.bind (sameBoard_forM o.notice) (Does.pure o)
  | true =>
    refine ⟨?_, rfl⟩
    rw [if_pos rfl]
    refine board_next (board_bind ?_ ?_)
    · rw [board_log rfl, hs, if_pos rfl]
    · exact Does.bind (sameBoard_forM o.notice) (Does.pure o)

theorem board_reply (c : ConnId) (o : Outcome) (h : Host) :
    ∃ b, ((o.reply.forM (answerOn c)).run h).2.board = h.board.reply c o b := by
  unfold Switchboard.reply Option.forM
  cases o.reply with
  | none => exact ⟨false, rfl⟩
  | some t => exact board_answerOn c t h

theorem board_settle (c : ConnId) (o : Outcome) (h : Host) :
    ∃ b, ((settle c o).run h).2.board = h.board.settle c o b := by
  obtain ⟨b, hb⟩ := board_reply c o h
  refine ⟨b, board_next ?_⟩
  unfold Switchboard.settle
  rw [← hb]
  generalize ((o.reply.forM (answerOn c)).run h).2 = h'
  cases o.teardown with
  | false => rfl
  | true =>
    have hn : ∀ n, ((note n).run h').2.board = h'.board := sameBoard_note
    rw [if_pos rfl, if_pos rfl, act_get, line_board]
    refine board_next ?_
    rw [board_removeStream, hn]
    rfl

theorem board_advance (c : ConnId) (t : Header) (data : Bytes) (k : Control) (h : Host) :
    ∃ b, ((do
      let r ← emit c t data
      if r.toBool then setControl c k
      return r : Act (Except NetError Unit)).run h).2.board = h.board.advance c t data k b := by
  refine ⟨((emit c t data).run h).1.toBool, board_next ?_⟩
  have he := board_emit c t data h
  unfold Switchboard.advance
  generalize (emit c t data).run h = r at he ⊢
  rw [← he]
  cases r.1.toBool with
  | false => rfl
  | true => exact board_bind (board_setControl _ _ _) (Does.pure _)

/-- Data is sent on the board, or nothing happens. -/
theorem board_sendData (s : Stream) (data : Bytes) (h : Host) :
    ((sendData s data).run h).2.board = h.board ∨
      ∃ c b, h.board.stream? s = some c ∧ (h.board.control c).state.maySend = true ∧
        ((sendData s data).run h).2.board = h.board.send c data b := by
  unfold sendData
  rw [act_get]
  split_ifs
  · exact .inl rfl
  · split
    · exact .inl rfl
    · rename_i c hs
      dsimp only
      split_ifs with hm
      · obtain ⟨b, hb⟩ := board_advance c (h.connection c).control.dataHeader data
          ((h.connection c).control.sent data.length) h
        refine .inr ⟨c, b, hs, by rwa [control_board], hb.trans ?_⟩
        rw [← control_board]
        rfl
      · exact .inl rfl

/-- A FIN is sent on the board, or nothing happens. -/
theorem board_close (s : Stream) (h : Host) :
    ((close s).run h).2.board = h.board ∨
      ∃ c t b, h.board.stream? s = some c ∧ (h.board.control c).closeHeader? = some t ∧
        ((close s).run h).2.board = h.board.shut c t b := by
  unfold close
  rw [act_get]
  split
  · exact .inl rfl
  · rename_i c hs
    dsimp only
    split
    · exact .inl rfl
    · rename_i t ht
      obtain ⟨b, hb⟩ := board_advance c t [] (h.connection c).control.closed h
      refine .inr ⟨c, t, b, hs, by rwa [control_board], hb.trans ?_⟩
      rw [← control_board]
      rfl

theorem traffic_sendData (s : Stream) (data : Bytes) (h : Host) :
    Traffic true h.board ((sendData s data).run h).2.board := by
  rcases board_sendData s data h with hb | ⟨c, b, hs, hm, hb⟩
  · rw [hb]
    exact .refl _
  · rw [hb]
    exact .send hs hm data b

theorem traffic_close (s : Stream) (h : Host) :
    Traffic true h.board ((close s).run h).2.board := by
  rcases board_close s h with hb | ⟨c, t, b, hs, ht, hb⟩
  · rw [hb]
    exact .refl _
  · rw [hb]
    exact .shut hs ht b

/-! ## Segments that come in -/

theorem board_openStream (s : Stream) (d : DeviceId) (service : StreamService) (isn : SeqNum)
    (k : Control) (h : Host) :
    ((openStream s d service isn k).run h).2.board = h.board.place s d isn k := by
  unfold openStream Switchboard.place
  rw [act_get, act_modify, stream?_board]
  have hl : (h.connections ++ [(⟨s, d, k, service, 0⟩ : Connection)]).map Connection.line =
      h.board.lines ++ [⟨s, d, k⟩] := List.map_append
  have hb : ∀ streams,
      board { h with connections := h.connections ++ [⟨s, d, k, service, 0⟩], streams } =
        { h.board with lines := h.board.lines ++ [⟨s, d, k⟩], streams } := fun streams =>
    congrArg (fun l => { h.board with lines := l, streams }) hl
  cases hs : h.stream? s with
  | none =>
    refine board_next (board_bind ?_ (Does.pure _))
    dsimp only [Option.forM]
    rw [board_log rfl, length_lines_board]
    exact congrArg (Switchboard.log · _) (hb _)
  | some old =>
    refine board_next (board_bind ?_ (Does.pure _))
    dsimp only [Option.forM]
    rw [board_log rfl, board_log rfl, length_lines_board]
    exact congrArg (fun w : Switchboard => (w.log _).log _) (hb _)

theorem board_connect (s : Stream) (d : DeviceId) (service : StreamService) (isn : SeqNum)
    {k : Control} {t : Header} (hk : Control.accept isn h.config.receiveBuffer = (k, t)) :
    ∃ b, ((answerOn ((openStream s d service isn k).run h).1 t).run
      ((openStream s d service isn k).run h).2).2.board = h.board.connect s d isn b := by
  obtain ⟨b, hb⟩ := board_answerOn h.connections.length t ((openStream s d service isn k).run h).2
  refine ⟨b, hb.trans ?_⟩
  rw [board_openStream, ← length_lines_board]
  unfold Switchboard.connect
  rw [show h.board.capacity = h.config.receiveBuffer from rfl, hk]

theorem deliver_of_teardown {k : Control} {seg : Segment} (ht : (k.take seg).2.teardown = true) :
    (k.take seg).2.deliver = none := by
  have hk := k.take_cases seg
  revert hk ht
  generalize (k.take seg).1 = k', (k.take seg).2 = o
  intro ht hk
  cases hk with
  | syn =>
    unfold Control.repeatSyn
    split_ifs <;> rfl
  | data => cases ht
  | _ => rfl

theorem board_finish (c : ConnId) (fin : Bool) (h : Host) :
    ∃ b, ((do settle c (← steer c (·.finish fin)) : Run Unit).run h).1.isSome = true ∧
      ((do settle c (← steer c (·.finish fin)) : Run Unit).run h).2.board =
        h.board.finish c fin b := by
  obtain ⟨hb, ho⟩ := board_steer c (·.finish fin) h
  obtain ⟨b, hb'⟩ := board_settle c ((steer c (·.finish fin)).run h).1
    ((steer c (·.finish fin)).run h).2
  refine ⟨b, rfl, ?_⟩
  rw [run_act]
  refine hb'.trans ?_
  unfold Switchboard.finish
  rw [hb, ho, control_board]

section Application

variable {app : Application}
  (ha : ∀ k h, Within (fun e h h' => Traffic e h.board h'.board) h (app k))

include ha

/-- The application reads the data of a segment, and the end of the segment is taken after it. -/
theorem traffic_read {v : Switchboard} {s : Stream} {c : ConnId} {seg : Segment} {b : Bool}
    (data : Bytes) (hs : v.stream? s = some c)
    (ho : ((v.control c).take seg).2.teardown = false)
    (hb : (v.log (.arrived s seg)).take c seg b = h.board) :
    let x : Run Unit := do
      app (.read c data)
      settle c (← steer c (·.finish ((v.control c).take seg).2.fin))
    Traffic (x.run h).1.isSome v (x.run h).2.board := by
  dsimp only
  have hw := ha (.read c data) h
  unfold Within at hw
  dsimp only at hw
  rw [← hb] at hw
  rw [run_bind]
  cases hr : (app (.read c data)).run h with
  | mk r h₁ =>
    rw [hr] at hw
    cases r with
    | none => exact .reading hs ho b hw
    | some _ =>
      obtain ⟨b', he, hb'⟩ := board_finish c ((v.control c).take seg).2.fin h₁
      dsimp only
      rw [he, hb']
      exact .receive hs ho b b' hw

/-- A segment of a connection is taken, and its end after the application's turn. -/
theorem traffic_receiveOn {v : Switchboard} {s : Stream} {c : ConnId} {seg : Segment}
    (hs : v.stream? s = some c) (hb : h.board = v.log (.arrived s seg)) :
    Traffic ((receiveOn app c seg).run h).1.isSome v ((receiveOn app c seg).run h).2.board := by
  have hk : (h.connection c).control = v.control c := by
    rw [← control_board, hb]
    rfl
  obtain ⟨h₁, ho⟩ := board_steer c (·.take seg) h
  rw [hk] at h₁ ho
  obtain ⟨b, h₂⟩ := board_settle c ((v.control c).take seg).2 ((steer c (·.take seg)).run h).2
  unfold receiveOn
  rw [run_act, ho, run_act]
  rw [h₁, hb] at h₂
  generalize ((settle c ((v.control c).take seg).2).run _).2 = h' at h₂ ⊢
  have ht : (v.log (.arrived s seg)).take c seg b = h'.board.deliver c ((v.control c).take seg).2 := by
    rw [h₂]
    rfl
  unfold Switchboard.deliver at ht
  cases ho : ((v.control c).take seg).2.teardown with
  | true =>
    rw [deliver_of_teardown ho] at ht
    rw [if_pos rfl]
    have hr := Traffic.ends hs ho b
    rw [ht] at hr
    exact hr
  | false =>
    rw [if_neg (by decide)]
    cases hd : ((v.control c).take seg).2.deliver with
    | none =>
      rw [hd] at ht
      obtain ⟨b', he, hb'⟩ := board_finish c ((v.control c).take seg).2.fin h'
      dsimp only at ht ⊢
      rw [he, hb', ← ht]
      exact .receive hs ho b b' (.refl _)
    | some data =>
      rw [hd] at ht
      have hl : ((record (.delivered c data)).run h').2.board = h'.board.log (.delivered c data) :=
        board_log rfl h'
      dsimp only at ht ⊢
      rw [run_act]
      exact traffic_read ha data hs ho (ht.trans hl.symm)

omit ha in
theorem traffic_reset {v : Switchboard} {s : Stream} {d : DeviceId} {seg : Segment}
    (hs : v.stream? s = none) (hb : h.board = v.log (.arrived s seg))
    (hr : seg.flags.has .rst = false) (hy : seg.flags.has .syn = true)
    (hd : v.address d = s.here.ip) :
    Traffic ((acceptStream.reset d s seg).run h).1.isSome v
      ((acceptStream.reset d s seg).run h).2.board := by
  have hn : ∀ n, ((note n).run h).2.board = h.board := sameBoard_note
  obtain ⟨b, ha⟩ := board_answer none d s (.reset seg.flags seg.seq seg.ack)
    ((note (.streamRefused s)).run h).2
  rw [hn, hb] at ha
  unfold acceptStream.reset
  rw [run_act, run_lift, ha]
  exact .refuse hs hr hy d b hd

theorem traffic_acceptStream {v : Switchboard} {s : Stream} {d : DeviceId} {seg : Segment}
    (hs : v.stream? s = none) (hb : h.board = v.log (.arrived s seg))
    (hr : seg.flags.has .rst = false) (hy : seg.flags.has .syn = true)
    (hd : v.address d = s.here.ip) :
    Traffic ((acceptStream app d s seg).run h).1.isSome v
      ((acceptStream app d s seg).run h).2.board := by
  have hz := traffic_reset hs hb hr hy hd
  unfold acceptStream
  rw [run_get]
  split
  · rename_i a _
    split_ifs with hk
    · exact hz
    · have hw := ha (.accept a s) h
      unfold Within at hw
      dsimp only at hw
      rw [run_bind]
      rw [hb] at hw
      cases hx : (app (.accept a s)).run h with
      | mk r h' =>
        rw [hx] at hw
        cases r with
        | none => exact .accepting hs hw
        | some _ =>
          dsimp only
          rw [run_get]
          cases hc : Control.accept seg.seq h'.config.receiveBuffer with
          | mk k t =>
            obtain ⟨b, hb'⟩ :=
              board_connect s d (h'.acceptors.getD a default).service seg.seq hc
            dsimp only
            rw [run_act, run_lift, hb']
            exact .accept hs hr hy (Bool.eq_false_iff.mpr hk) d b hd hw
  · exact hz

theorem traffic_receiveSegment (d : DeviceId) (b : Bytes) (src : Ip) (h : Host) :
    Traffic ((receiveSegment app d b src).run h).1.isSome h.board
      ((receiveSegment app d b src).run h).2.board := by
  have hn : ∀ n h, ((note n).run h).2.board = h.board := fun n _ => sameBoard_note n
  unfold receiveSegment
  split
  · rw [run_lift, hn]
    exact .refl _
  · rename_i seg _
    rw [run_get]
    dsimp only
    rw [run_act]
    generalize hs' : (⟨⟨(h.device d).ip, seg.dstPort⟩, ⟨src, seg.srcPort⟩⟩ : Stream) = s
    have hd : h.board.address d = s.here.ip := by
      rw [address_board, ← hs']
    have hb := board_log (e := .arrived s seg) rfl h
    generalize ((record (.arrived s seg)).run h).2 = h' at hb ⊢
    rw [← stream?_board]
    split
    · rename_i c hc
      exact traffic_receiveOn ha hc hb
    · rename_i hc
      split_ifs with hr hy
      · change Traffic true _ h'.board
        rw [hb]
        exact .ignore hc seg (.inl hr)
      · exact traffic_acceptStream ha hc hb (Bool.eq_false_iff.mpr hr) hy hd
      · rw [run_lift, hn, hb]
        exact .ignore hc seg (.inr (Bool.eq_false_iff.mpr hy))

end Application

/-! ## Every run -/

theorem covers_traffic : Covers fun e h h' => Traffic e h.board h'.board where
  refl h := .refl h.board
  cut h := .cut h.board
  trans := .trans
  chore {h h'} hc := by
    rw [board_chores (.single hc)]
    exact .refl _
  call {e} h he := by
    change Traffic true h.board ((record e).run h).2.board
    rw [board_log (Event.onBoard_of_isCall he)]
    exact .call _ e he
  receive _ d b src h ha := traffic_receiveSegment ha d b src h
  send := traffic_sendData
  close := traffic_close
  polling {h h'} hp := by
    have hb : h'.board = h.board := (keepsLinkAndBoard_polling hp).board
    rw [hb]
    exact .refl _

/-- **Whatever a host comes to is traffic on its switchboard.** -/
theorem traffic_leads {e : Bool} {h h' : Host} (hl : Leads e h h') : Traffic e h.board h'.board :=
  covers_traffic.leads hl

end Host

end InetHost
