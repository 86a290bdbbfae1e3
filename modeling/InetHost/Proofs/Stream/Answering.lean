import InetHost.Proofs.Exchange.Intake
import InetHost.Proofs.Queue.Books
import InetHost.Proofs.Run.Ends
import InetHost.Proofs.Stream.Life

/-!
# How data is acknowledged

Data that was accepted is acknowledged once: by what the application sends while it reads, or else by
the host when the application has read it. A FIN behind the data is answered in any case.

* `Attempt`, `attempts`: the segments that a connection tried to send;
* `Replies`: what a connection tried to send while the application talked, and what became of it;
* `conclude`: the end of a segment; `run_receiveOn_data`: a segment with data is taken, the
  application reads, and the segment is concluded;
* `Answered`: the attempts while the application reads and those after it;
* **`Visited.answered`**: every segment whose data is accepted is answered so.
-/

namespace InetHost

open Tcp Switchboard

/-! ## Attempts -/

/-- A segment that a connection tried to send. -/
structure Attempt where
  header : Header
  data : Bytes
  /-- Its device took it. -/
  sent : Bool
  deriving DecidableEq, Repr

/-- The segment that a connection tried to send. -/
def Event.attempt (c : ConnId) : Event → Option Attempt
  | .emitted c' _ _ t data b => if c' = some c then some ⟨t, data, b⟩ else none
  | _ => none

/-- The segments that a connection tried to send, one after another. -/
def attempts (c : ConnId) (j : List Event) : List Attempt := inOrder (Event.attempt c) j

/-- A FIN was sent among some attempts. -/
def closes (l : List Attempt) : Bool := l.any fun a => a.sent && a.header.flags.has .fin

section

variable {c : ConnId} {e : Event} {new j : List Event}

theorem attempt_eq_none (he : e.about ≠ some c) : e.attempt c = none := by
  cases e with
  | emitted => exact if_neg he
  | _ => rfl

theorem attempts_append (c : ConnId) (new j : List Event) :
    attempts c (new ++ j) = attempts c j ++ attempts c new := inOrder_both _ new j

theorem attempts_cons_of_none (he : e.attempt c = none) : attempts c (e :: j) = attempts c j := by
  simp [attempts, inOrder, he]

theorem attempts_emitted (c : ConnId) (d : DeviceId) (s : Stream) (t : Header) (data : Bytes)
    (b : Bool) (j : List Event) :
    attempts c (.emitted (some c) d s t data b :: j) = attempts c j ++ [⟨t, data, b⟩] := by
  simp [attempts, inOrder, Event.attempt]

theorem attempts_filter (c : ConnId) (j : List Event) :
    attempts c (j.filter (Event.concerns c)) = attempts c j := by
  unfold attempts inOrder
  rw [filterMap_filter_of fun e he => attempt_eq_none fun hc => ?_]
  rw [concerns_of_about hc] at he
  cases he

theorem attempts_changes (c : ConnId) (k k' : Control) : attempts c (changes c k k') = [] := by
  unfold changes
  split_ifs <;> rfl

theorem attempts_entries (c : ConnId) (s : Stream) (d : DeviceId) (k : Control)
    (r : Control × Outcome) (b : Bool) :
    attempts c (entries c s d k r b) = r.2.reply.toList.map (⟨·, [], b⟩) := by
  unfold entries answers
  rw [attempts_append, attempts_append, attempts_append, attempts_changes]
  have hd : attempts c (r.2.deliver.toList.map (.delivered c)) = [] := by
    cases r.2.deliver <;> rfl
  have he : attempts c (if r.2.ended then [.ended c] else []) = [] := by
    cases r.2.ended <;> rfl
  rw [hd, he, List.append_nil, List.append_nil]
  cases r.2.reply with
  | none => rfl
  | some t => exact attempts_emitted c d s t [] b []

end

/-! ## While the application talks -/

/-- What a connection tried to send, and what became of it. -/
structure Replies (c : ConnId) (v w : Switchboard) (l : List Attempt) : Prop where
  tries : attempts c (w.own c) = attempts c (v.own c) ++ l
  length : w.lines.length = v.lines.length
  expected : (w.control c).expected = (v.control c).expected
  state : (w.control c).state = if closes l then .finWait1 else (v.control c).state
  owes : (w.control c).owesAck = ((v.control c).owesAck && !l.any (·.sent))
  acks : ∀ a ∈ l, a.header.ack = (v.control c).expected

section

variable {u v w : Switchboard} {c c' : ConnId} {l l' : List Attempt}

theorem replies_of_eq (hl : w.lines = v.lines) (ho : w.own c = v.own c) : Replies c v w [] := by
  have hk : w.control c = v.control c := by
    unfold Switchboard.control line
    rw [hl]
  exact ⟨by rw [ho, List.append_nil], by rw [hl], by rw [hk], hk ▸ rfl, by simp [hk],
    List.forall_mem_nil _⟩

theorem Replies.trans (r : Replies c u v l) (r' : Replies c v w l') : Replies c u w (l ++ l') where
  tries := by rw [r'.tries, r.tries, List.append_assoc]
  length := r'.length.trans r.length
  expected := r'.expected.trans r.expected
  state := by
    rw [r'.state, r.state]
    unfold closes
    rw [List.any_append]
    cases l'.any _ <;> cases l.any _ <;> rfl
  owes := by
    rw [r'.owes, r.owes, List.any_append, Bool.not_or, Bool.and_assoc]
  acks a ha := by
    rcases List.mem_append.mp ha with ha | ha
    · exact r.acks a ha
    · rw [r'.acks a ha, r.expected]

theorem replies_advance (hc : c < v.lines.length) {t : Header} {k : Control} (data : Bytes) (b : Bool)
    (ht : t.ack = (v.control c).expected) (he : k.expected = (v.control c).expected)
    (ho : k.owesAck = false)
    (hs : k.state = if t.flags.has .fin then .finWait1 else (v.control c).state) :
    Replies c v (v.advance c t data k b) [⟨t, data, b⟩] where
  tries := by
    rw [own_advance, attempts_append, attempts_emitted]
    cases b with
    | false => exact List.append_nil _
    | true => rw [if_pos rfl, attempts_changes, List.append_nil]
  length := (acts_advance c t data k b v).length
  expected := by
    rw [control_advance v hc]
    split
    · exact he
    · rfl
  state := by
    rw [control_advance v hc]
    unfold closes
    cases b with
    | false => rfl
    | true => simpa using hs
  owes := by
    rw [control_advance v hc]
    cases b with
    | false => simp
    | true => simp [ho]
  acks := List.forall_mem_singleton.mpr ht

theorem replies_send (hc : c < v.lines.length) (data : Bytes) (b : Bool) :
    ∃ l, Replies c v (v.send c data b) l := by
  have hf : (Flags.psh ||| Flags.ack).has .fin = false := by decide
  refine ⟨_, replies_advance hc data b rfl rfl rfl ?_⟩
  change _ = if (Flags.psh ||| Flags.ack).has .fin then _ else _
  rw [hf]
  rfl

theorem replies_shut (hc : c < v.lines.length) {t : Header} (ht : (v.control c).closeHeader? = some t)
    (b : Bool) : ∃ l, Replies c v (v.shut c t b) l := by
  obtain ⟨-, rfl⟩ := Control.closeHeader?_eq_some ht
  have hf : (Flags.fin ||| Flags.psh ||| Flags.ack).has .fin = true := by decide
  refine ⟨_, replies_advance hc [] b rfl rfl rfl ?_⟩
  change _ = if (Flags.fin ||| Flags.psh ||| Flags.ack).has .fin then _ else _
  rw [hf]
  rfl

theorem replies_acts (ha : Acts c' v w) (hc : c ≠ c') : Replies c v w [] where
  tries := by rw [ha.own_eq hc, List.append_nil]
  length := ha.length
  expected := by rw [ha.control_eq hc]
  state := congrArg Control.state (ha.control_eq hc)
  owes := by simp [ha.control_eq hc]
  acks := List.forall_mem_nil _

end

namespace Host

variable {h : Host} {c : ConnId}

/-- From host to host, a connection of the first has said something. -/
def Said (c : ConnId) (h h' : Host) : Prop :=
  c < h.board.lines.length → ∃ l, Replies c h.board h'.board l

/-- **While the application talks a connection keeps account of its replies.** -/
theorem converses_said (c : ConnId) : Converses (Said c) where
  refl h _ := ⟨[], replies_of_eq rfl rfl⟩
  trans h₁ h₂ hc := by
    obtain ⟨l, r⟩ := h₁ hc
    obtain ⟨l', r'⟩ := h₂ (by rwa [r.length])
    exact ⟨_, r.trans r'⟩
  chore {h h'} ch _ := by
    rw [board_chores (.single ch)]
    exact ⟨[], replies_of_eq rfl rfl⟩
  call {e} h he hc := by
    have hn : e.concerns c = false := (Event.about_of_isCall he).2 c
    rw [board_log (Event.onBoard_of_isCall he)]
    exact ⟨[], replies_of_eq rfl (by rw [own_log, hn]; rfl)⟩
  send s data h hc := by
    rcases board_sendData s data h with hb | ⟨c', b, -, -, hb⟩
    · rw [hb]
      exact ⟨[], replies_of_eq rfl rfl⟩
    · rw [hb]
      by_cases he : c = c'
      · rw [← he]
        exact replies_send hc data b
      · exact ⟨[], replies_acts (acts_advance ..) he⟩
  close s h hc := by
    rcases board_close s h with hb | ⟨c', t, b, -, ht, hb⟩
    · rw [hb]
      exact ⟨[], replies_of_eq rfl rfl⟩
    · rw [hb]
      by_cases he : c = c'
      · subst he
        exact replies_shut hc ht b
      · exact ⟨[], replies_acts (acts_advance ..) he⟩

/-! ## A segment with data -/

/-- The end of a segment is taken and answered. -/
def conclude (c : ConnId) (fin : Bool) : Run Unit := do
  settle c (← steer c (·.finish fin))

/-- A connection's control block gives data out, and the application reads it. -/
theorem run_receiveOn_data {g : Segment} {k : Control} {data : Bytes} {fin : Bool}
    (ht : (h.connection c).control.take g = (k, { deliver := some data, fin })) (app : Application) :
    (receiveOn app c g).run h =
      (do app (.read c data); conclude c fin : Run Unit).run
        ((record (.delivered c data)).run ((setControl c k).run h).2).2 := by
  have hs : (steer c (·.take g)).run h =
      ({ deliver := some data, fin }, ((setControl c k).run h).2) := by
    unfold steer
    rw [act_get]
    dsimp only
    rw [ht]
    rfl
  unfold receiveOn
  rw [run_act, hs]
  rfl

theorem run_conclude (c : ConnId) (fin : Bool) (h : Host) :
    ∃ b h', (conclude c fin).run h = (some (), h') ∧ h'.board = h.board.finish c fin b := by
  obtain ⟨b, -, hb⟩ := board_finish c fin h
  exact ⟨b, _, rfl, hb⟩

end Host

/-! ## How it is acknowledged -/

/-- **Data up to `e` is acknowledged** by what the connection tries to send while the application reads,
or after it. The application was called in the state `st`. -/
structure Answered (e : SeqNum) (st : State) (fin : Bool) (during after : List Attempt) : Prop where
  acks : ∀ a ∈ during, a.header.ack = e
  /-- If nothing was sent, one acknowledgement follows. -/
  bare : fin = false → during.any (·.sent) = false →
    ∃ t b, after = [⟨t, [], b⟩] ∧ t.flags = .ack ∧ t.ack = e
  /-- If anything was, nothing does. -/
  covered : fin = false → during.any (·.sent) = true → after = []
  /-- A FIN is answered: with the host's own, unless that was sent. -/
  ended : fin = true → ∃ t b, after = [⟨t, [], b⟩] ∧ t.ack = e + 1 ∧
    t.flags = if st = .established ∧ closes during = false then .fin ||| .ack else .ack

theorem Replies.concluded {v w : Switchboard} {c : ConnId} {l : List Attempt} (r : Replies c v w l)
    (ho : (v.control c).owesAck = true) (hm : (v.control c).state.mayReceive = true) (fin b : Bool) :
    Answered (v.control c).expected (v.control c).state fin l
      (((w.control c).finish fin).2.reply.toList.map (⟨·, [], b⟩)) := by
  have hk := (w.control c).finish_cases fin
  generalize ((w.control c).finish fin).1 = k', ((w.control c).finish fin).2 = o at hk
  have hw := r.owes
  rw [ho, Bool.true_and] at hw
  have hst := r.state
  refine ⟨r.acks, ?_, ?_, ?_⟩
  · rintro rfl hn
    rw [hn] at hw
    cases hk with
    | ack => exact ⟨_, _, rfl, rfl, r.expected⟩
    | nothing hno => cases hno.symm.trans hw
  · rintro rfl hn
    rw [hn] at hw
    cases hk with
    | ack hno => cases hno.symm.trans hw
    | nothing => rfl
  · rintro rfl
    have he : (w.control c).expected + 1 = (v.control c).expected + 1 := by rw [r.expected]
    have hf : ∀ {st' : State}, (w.control c).state = st' →
        ((v.control c).state = .established ∧ closes l = false ↔ st' = .established) := by
      rintro st' rfl
      rw [hst]
      cases closes l <;> simp
    cases hk with
    | passive hs => exact ⟨_, _, rfl, he, (if_pos ((hf hs).mpr rfl)).symm⟩
    | closing hs => exact ⟨_, _, rfl, he, (if_neg (mt (hf hs).mp nofun)).symm⟩
    | ends hs => exact ⟨_, _, rfl, he, (if_neg (mt (hf hs).mp nofun)).symm⟩
    | ignored hs hs₁ hs₂ =>
      rw [hst] at hs hs₁ hs₂
      revert hm hs hs₁ hs₂
      cases closes l <;> cases (v.control c).state <;> simp [State.mayReceive]

namespace Host

variable {h h₁ h₂ h₃ : Host} {c : ConnId}

theorem run_setControl (c : ConnId) (k : Control) (h : Host) : ∃ new,
    ((setControl c k).run h).2 = { h with
      connections := h.connections.modify c ({ · with control := k })
      journal := new ++ h.journal } ∧ ∀ e ∈ new, e = .entered c k.state := by
  unfold setControl
  rw [act_get, act_modify]
  split
  · exact ⟨[], rfl, List.forall_mem_nil _⟩
  · exact ⟨[.entered c k.state], rfl, List.forall_mem_singleton.mpr rfl⟩

theorem talks_setControl (ht : Talks h c) (k : Control) : Talks ((setControl c k).run h).2 c := by
  obtain ⟨new, hj, -⟩ := run_setControl c k h
  have hk : (((setControl c k).run h).2.connection c).code = (h.connection c).code := by
    rw [hj]
    exact getD_modify_of (f := ({ · with control := k })) (g := Connection.code) (fun _ => rfl)
      h.connections c c default
  unfold Talks
  rwa [hk]

theorem attempts_board (c : ConnId) (h : Host) : attempts c (h.board.own c) = attempts c h.journal := by
  rw [own_board, attempts_filter]

/-- The host at which the application is called to read the data of a segment. -/
def reader (h : Host) (c : ConnId) (s : Stream) (g : Segment) (k : Control) (data : Bytes) : Host :=
  ((do record (.arrived s g); setControl c k; record (.delivered c data) : Act Unit).run h).2

section Reader

variable {s : Stream} {g : Segment} {k : Control} {data : Bytes}

theorem board_reader : (h.reader c s g k data).board =
    ((h.board.log (.arrived s g)).setControl c k).log (.delivered c data) := by
  change ((record _).run ((setControl c k).run ((record _).run h).2).2).2.board = _
  rw [board_log rfl, board_setControl, board_log rfl]

theorem length_lines_reader : (h.reader c s g k data).board.lines.length = h.board.lines.length := by
  rw [board_reader]
  exact (acts_setControl c k _).length

theorem control_reader (hl : c < h.board.lines.length) :
    ((h.reader c s g k data).connection c).control = k := by
  rw [← control_board, board_reader]
  exact control_setControl (h.board.log (.arrived s g)) hl k

theorem attempts_reader : attempts c (h.reader c s g k data).journal = attempts c h.journal := by
  have hh : (h.reader c s g k data).board.history = (.delivered c data ::
      (changes c ((h.board.log (.arrived s g)).control c) k ++ [.arrived s g])) ++ h.board.history := by
    rw [board_reader, List.cons_append, List.append_assoc]
    exact congrArg _ (history_setControl ..)
  rw [← attempts_board, ← attempts_board, own_of_history hh, attempts_append, attempts_filter]
  rw [attempts_cons_of_none rfl, attempts_append, attempts_changes]
  exact List.append_nil _

theorem talks_reader (ht : Talks h c) : Talks (h.reader c s g k data) c :=
  talks_setControl (h := ((record (.arrived s g)).run h).2) ht k

end Reader

/-- **The application has its turn in the middle of a segment**: it is called at `h₁` and returns at
`h₂`, and the segment is concluded at `h₃`. -/
structure Turn (app : Application) (x : Application → Run Unit) (c : ConnId) (data : Bytes) (fin : Bool)
    (h h₁ h₂ h₃ : Host) : Prop where
  called : ∀ app', (x app').run h = (do app' (.read c data); conclude c fin : Run Unit).run h₁
  returns : (app (.read c data)).run h₁ = (some (), h₂)
  concludes : (conclude c fin).run h₂ = (some (), h₃)

/-- **Data that is accepted is acknowledged**, and without redundancy. -/
theorem Visited.answered (hv : Visited h) {d : DeviceId} {b : Bytes} {src : Ip} {g : Segment}
    {s : Stream} {data : Bytes} (hg : Segment.decode b = .ok g)
    (hs : s = ⟨⟨(h.device d).ip, g.dstPort⟩, ⟨src, g.srcPort⟩⟩) (hc : h.stream? s = some c)
    (hd : ((h.connection c).control.take g).2.deliver = some data) (ht : Talks h c) (n : Nat) :
    ∃ h₁ h₂ h₃ during after,
      Turn (answerCall (exec (n + 1))) (receiveSegment · d b src) c data (g.flags.has .fin) h h₁ h₂ h₃ ∧
      attempts c h₁.journal = attempts c h.journal ∧
      attempts c h₂.journal = attempts c h.journal ++ during ∧
      attempts c h₃.journal = attempts c h.journal ++ during ++ after ∧
      Answered ((h.connection c).control.expected + UInt32.ofNat g.payload.length)
        (h₁.connection c).control.state (g.flags.has .fin) during after := by
  obtain ⟨hm, buf, -, -, hk⟩ := (h.connection c).control.take_eq_of_deliver hd
  generalize hk' : ({ (h.connection c).control with
    state := (h.connection c).control.acked g
    expected := (h.connection c).control.expected + UInt32.ofNat g.payload.length
    owesAck := true
    buffer := buf.drain.2 } : Control) = k at hk
  have hl : c < h.board.lines.length := (hv.lives.registered s c hc).1
  have hk₁ : ((h.reader c s g k data).connection c).control = k := control_reader hl
  have ht₁ : Talks (h.reader c s g k data) c := talks_reader ht
  obtain ⟨_, h₂, hr, hsaid⟩ := (converses_said c).read ht₁ n data
  obtain ⟨l, r⟩ := hsaid (by rwa [length_lines_reader])
  obtain ⟨b', h₃, hr', hb₃⟩ := run_conclude c (g.flags.has .fin) h₂
  have ha := r.concluded (by rw [control_board, hk₁, ← hk']) (by rw [control_board, hk₁, ← hk']; exact hm)
    (g.flags.has .fin) b'
  rw [control_board, hk₁] at ha
  have ha₂ : attempts c h₂.journal = attempts c h.journal ++ l := by
    rw [← attempts_board, r.tries, attempts_board, attempts_reader]
  have ha₃ : attempts c h₃.journal = attempts c h₂.journal ++
      ((h₂.board.control c).finish (g.flags.has .fin)).2.reply.toList.map (⟨·, [], b'⟩) := by
    rw [← attempts_board, hb₃, own_finish, attempts_append, attempts_entries, attempts_board]
  have hcall : ∀ app, (receiveSegment app d b src).run h =
      (do app (.read c data); conclude c (g.flags.has .fin) : Run Unit).run
        (h.reader c s g k data) := by
    intro app
    rw [run_receiveSegment (Segment.decode_eq_ok.mp hg) hs (.inl (by rw [hc]; rfl)), hc]
    exact run_receiveOn_data (h := ((record (.arrived s g)).run h).2) hk app
  rw [ha₂] at ha₃
  rw [show k.expected = (h.connection c).control.expected + UInt32.ofNat g.payload.length by
    rw [← hk'], ← hk₁] at ha
  exact ⟨_, h₂, h₃, l, _, ⟨hcall, hr, hr'⟩, attempts_reader, ha₂, ha₃, ha⟩

/-- A host whose listener sends back what it reads and closes, with an open connection. -/
def respondent : Host :=
  talked [.store ⟨10, 0, 0, 2⟩ ⟨2, 0, 0, 0, 0, 2⟩,
    .listen echoPort [] [[.send .current .received, .close .current]],
    fromPeer ⟨99, 0, .syn, 1000⟩ []]

/-- The ends of the connection. -/
def respondent.stream : Stream := ⟨⟨talker.ip, echoPort⟩, ⟨⟨10, 0, 0, 2⟩, 4000⟩⟩

/-- Two bytes and a FIN for it. -/
def respondent.segment : Segment :=
  ⟨4000, echoPort, 100, 2, .fin ||| .psh ||| .ack, [104, 105]⟩

/-- What it reads is sent back with the acknowledgement, and the FIN is answered after the host's own. -/
theorem answered_respondent : Visited respondent ∧ respondent.stream? respondent.stream = some 0 ∧
    Talks respondent 0 ∧ ∃ b h₁ h₂ h₃ during after,
      Segment.decode b = .ok respondent.segment ∧
      Turn (answerCall (exec 1)) (receiveSegment · 0 b ⟨10, 0, 0, 2⟩) 0 [104, 105] true
        respondent h₁ h₂ h₃ ∧
      attempts 0 h₁.journal = attempts 0 respondent.journal ∧
      attempts 0 h₂.journal = attempts 0 respondent.journal ++ during ∧
      attempts 0 h₃.journal = attempts 0 respondent.journal ++ during ++ after ∧
      Answered 102 (h₁.connection 0).control.state true during after := by
  have hv : Visited respondent := visited_talked (by decide +kernel)
  have hc : respondent.stream? respondent.stream = some 0 := by decide +kernel
  have ht : Talks respondent 0 := by
    unfold Talks
    decide +kernel
  have hs : respondent.stream =
      ⟨⟨(respondent.device 0).ip, respondent.segment.dstPort⟩,
        ⟨⟨10, 0, 0, 2⟩, respondent.segment.srcPort⟩⟩ := by decide +kernel
  have hd : ((respondent.connection 0).control.take respondent.segment).2.deliver =
      some [104, 105] := by decide +kernel
  have he : (respondent.connection 0).control.expected +
      UInt32.ofNat respondent.segment.payload.length = 102 := by decide +kernel
  have hg : Segment.decode (Tcp.encode ⟨respondent.stream.peer, respondent.stream.here⟩
      ⟨100, 2, .fin ||| .psh ||| .ack, 1000⟩ [104, 105]) = .ok respondent.segment := by rfl
  have ha := hv.answered hg hs hc hd ht 0
  rw [he] at ha
  obtain ⟨h₁, h₂, h₃, during, after, ha⟩ := ha
  exact ⟨hv, hc, ht, _, h₁, h₂, h₃, during, after, hg, ha⟩

end Host

end InetHost
