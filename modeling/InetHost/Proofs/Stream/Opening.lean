import InetHost.Proofs.Exchange.Dispatch
import InetHost.Proofs.Stream.Lifecycle
import InetHost.Proofs.Stream.Rest

/-!
# How a connection is opened

A SYN opens a connection on the device on which it comes. Until the peer acknowledges the host's own SYN
nothing about the connection changes, and every further SYN is answered as the first was.

* `Life.begins`: what a connection tries to send first, and how it is until it is acknowledged;
* `Opening`: a connection whose SYN was not acknowledged yet; `opening_accept`: a SYN opens one;
* `Knock`: a SYN that comes in between the ends of a connection;
* **`Opening.repeats`**, **`Opening.repeats_all`**: each of them is answered with the first answer;
* `run_receiveSegment_late`: in other states a SYN is only reported;
* **`Visited.handshakes`**: all of it.
-/

namespace InetHost

open Tcp Switchboard

/-! ## The control block -/

/-- A control block that has not been acknowledged is as it was before. -/
theorem Tcp.Control.take_eq_of_synReceived {k : Control} {g : Segment}
    (hs : (k.take g).1.state = .synReceived) : (k.take g).1 = k := by
  have ha : k.acked g = .synReceived → ({ k with state := k.acked g } : Control) = k := by
    intro h
    rcases k.acked_eq_or_mem g with he | hm
    · rw [he]
    · exact absurd h (State.ne_synReceived_of_successor _ _ hm)
  have hk := k.take_cases g
  generalize (k.take g).1 = k', (k.take g).2 = o at hk hs ⊢
  cases hk with
  | reset => cases hs
  | syn => rfl
  | ends | empty | dropped | overflow => exact ha hs
  | data hr hy hs' hp hm =>
    have hs' : k.acked g = .synReceived := hs
    rw [hs'] at hm
    cases hm

theorem Tcp.Control.finish_eq_of_synReceived {k : Control} {fin : Bool}
    (hs : (k.finish fin).1.state = .synReceived) : (k.finish fin).1 = { k with owesAck := false } := by
  have hk := k.finish_cases fin
  generalize (k.finish fin).1 = k', (k.finish fin).2 = o at hk hs ⊢
  cases hk with
  | passive | closing | ends => cases hs
  | ignored | ack => rfl
  | nothing ho => rw [← ho]

/-- The answer to a further SYN is the answer to the first. -/
theorem Tcp.Control.repeatSyn_accept (isn : SeqNum) (cap : Nat) :
    (accept isn cap).1.repeatSyn = { reply := some (accept isn cap).2 } := by
  have hn : (1 : SeqNum) + 1 - 1 = 1 := by decide
  unfold repeatSyn
  rw [if_pos (show (accept isn cap).1.state = .synReceived from rfl)]
  unfold accept header window
  dsimp only
  rw [hn]

theorem Tcp.Control.take_accept {isn : SeqNum} {cap : Nat} {g : Segment}
    (hr : g.flags.has .rst = false) (hy : g.flags.has .syn = true) :
    (accept isn cap).1.take g = ((accept isn cap).1, { reply := some (accept isn cap).2 }) := by
  unfold take
  rw [if_neg (by rw [hr]; decide), if_pos hy]
  rw [repeatSyn_accept]

/-! ## One connection -/

section

variable {c : ConnId} {s : Stream} {d : DeviceId} {k : Control} {j : List Event}

/-- **How a connection begins**: it tries to send the answer to its SYN before anything else, and as long
as that is not acknowledged it stays as it is. -/
theorem Life.begins (hl : Life c s d k j) : ∃ isn cap b newer older,
    j = newer ++ .emitted (some c) d s (Control.accept isn cap).2 [] b :: .opened c s isn :: older ∧
      (∀ e ∈ older, e.about ≠ some c) ∧
      (k.state = .synReceived → k = (Control.accept isn cap).1) := by
  induction hl with
  | opened cap b hj => exact ⟨_, cap, b, [], _, rfl, hj, fun _ => rfl⟩
  | arrived hl s' seg ih =>
    obtain ⟨isn, cap, b, newer, older, rfl, ho, hk⟩ := ih
    exact ⟨isn, cap, b, _ :: newer, older, rfl, ho, hk⟩
  | @took k j seg hl b' ih =>
    obtain ⟨isn, cap, b, newer, older, hj, ho, hk⟩ := ih
    refine ⟨isn, cap, b, entries c s d k (k.take seg) b' ++ newer, older, ?_, ho, fun hs => ?_⟩
    · rw [hj, List.append_assoc]
    · have he := Control.take_eq_of_synReceived hs
      rw [he] at hs ⊢
      exact hk hs
  | @finished k j hl fin b' ih =>
    obtain ⟨isn, cap, b, newer, older, hj, ho, hk⟩ := ih
    refine ⟨isn, cap, b, entries c s d k (k.finish fin) b' ++ newer, older, ?_, ho, fun hs => ?_⟩
    · rw [hj, List.append_assoc]
    · have he := Control.finish_eq_of_synReceived hs
      rw [he] at hs ⊢
      rw [hk hs]
      rfl
  | failed hl t data ht ih =>
    obtain ⟨isn, cap, b, newer, older, rfl, ho, hk⟩ := ih
    exact ⟨isn, cap, b, _ :: newer, older, rfl, ho, hk⟩
  | @sent k j hl hm data ih =>
    obtain ⟨isn, cap, b, newer, older, rfl, ho, -⟩ := ih
    refine ⟨isn, cap, b, _ :: newer, older, rfl, ho, fun hs => ?_⟩
    rw [show k.state = .synReceived from hs] at hm
    cases hm
  | closed hl ht ih =>
    obtain ⟨isn, cap, b, newer, older, rfl, ho, -⟩ := ih
    exact ⟨isn, cap, b, _ :: _ :: newer, older, rfl, ho, nofun⟩

end

/-- The segment that a connection tried to send first. -/
def firstEmission (c : ConnId) (j : List Event) : Option Emission :=
  (emissions j).find? (·.conn == some c)

theorem firstEmission_eq {c : ConnId} {d : DeviceId} {s : Stream} {t : Header} {data : Bytes} {b : Bool}
    {newer older : List Event} (ho : ∀ e ∈ older, ∀ x, e.emission = some x → x.conn ≠ some c) :
    firstEmission c (newer ++ .emitted (some c) d s t data b :: older) =
      some ⟨some c, d, s, t, data⟩ := by
  have hn : (emissions older).find? (·.conn == some c) = none := by
    rw [List.find?_eq_none]
    intro x hx
    unfold emissions inOrder at hx
    obtain ⟨e, he, hex⟩ := List.mem_filterMap.mp (List.mem_reverse.mp hx)
    rw [beq_false_of_ne (ho e he x hex)]
    decide
  have he : emissions (.emitted (some c) d s t data b :: older) =
      emissions older ++ [⟨some c, d, s, t, data⟩] :=
    emissions_append [.emitted (some c) d s t data b] older
  unfold firstEmission
  rw [emissions_append, he, List.append_assoc, List.find?_append, hn, List.find?_append]
  simp

namespace Host

variable {h h₁ h' : Host} {c : ConnId} {d : DeviceId} {s : Stream} {b : Bytes} {src : Ip} {g : Segment}
  {isn : SeqNum} {cap : Nat} {app : Application} {l : List Emission}

/-- **How a connection of a host begins.** -/
theorem Visited.begins (hv : Visited h) (hc : c < h.connections.length) : ∃ isn cap,
    .opened c (h.connection c).stream isn ∈ h.journal ∧
      firstEmission c h.journal = some ⟨some c, (h.connection c).device, (h.connection c).stream,
        (Control.accept isn cap).2, []⟩ ∧
      ((h.connection c).control.state = .synReceived →
        (h.connection c).control = (Control.accept isn cap).1) := by
  obtain ⟨isn, cap, b, new, old, hj, ho, hk⟩ := (hv.life hc).begins
  obtain ⟨newer, older, hj', -, hold⟩ := exists_of_filter hj
  refine ⟨isn, cap, ?_, ?_, hk⟩
  · have hm : .opened c (h.connection c).stream isn ∈ older.filter (Event.concerns c) := by
      rw [hold]
      exact List.mem_cons_self
    rw [hj']
    exact List.mem_append_right _ (List.mem_cons_of_mem _ (List.mem_filter.mp hm).1)
  · rw [hj']
    refine firstEmission_eq fun e he x hx hxc => ?_
    cases e with
    | emitted c' d' s' t' data' b' =>
      obtain rfl := Option.some.inj hx
      have ha : (Event.emitted c' d' s' t' data' b').about = some c := hxc
      have hm : .emitted c' d' s' t' data' b' ∈ older.filter (Event.concerns c) :=
        List.mem_filter.mpr ⟨he, concerns_of_about ha⟩
      rw [hold] at hm
      rcases List.mem_cons.mp hm with hm | hm
      · cases hm
      · exact ho _ hm ha
    | _ => cases hx

/-! ## Connections that are being opened -/

/-- **A connection whose SYN was not acknowledged yet**: it is as it was opened, on device `d` and by a SYN
with the number `isn`. -/
structure Opening (c : ConnId) (s : Stream) (d : DeviceId) (isn : SeqNum) (cap : Nat) (h : Host) :
    Prop where
  registered : h.stream? s = some c
  line : (h.connection c).line = ⟨s, d, (Control.accept isn cap).1⟩

/-- The answer to its SYN. -/
def answerTo (c : ConnId) (s : Stream) (d : DeviceId) (isn : SeqNum) (cap : Nat) : Emission :=
  ⟨some c, d, s, (Control.accept isn cap).2, []⟩

theorem Visited.opening (hv : Visited h) (hc : h.stream? s = some c)
    (hs : (h.connection c).control.state = .synReceived) : ∃ isn cap,
    .opened c s isn ∈ h.journal ∧
      firstEmission c h.journal = some (answerTo c s (h.connection c).device isn cap) ∧
      Opening c s (h.connection c).device isn cap h := by
  obtain ⟨hl, he⟩ := hv.registered hc
  obtain ⟨isn, cap, ho, hf, hk⟩ := hv.begins hl
  rw [he] at ho hf
  refine ⟨isn, cap, ho, hf, hc, ?_⟩
  unfold Connection.line
  rw [he, hk hs]

theorem Opening.control (o : Opening c s d isn cap h) :
    (h.connection c).control = (Control.accept isn cap).1 :=
  congrArg Line.control o.line

theorem Opening.posts (o : Opening c s d isn cap h) (p : Posts l h h') : Opening c s d isn cap h' := by
  obtain ⟨ds, ts, qs, new, rfl, -⟩ := p
  exact ⟨o.registered, o.line⟩

theorem posts_answerOn (c : ConnId) (t : Header) (h : Host) :
    Posts [⟨some c, (h.connection c).device, (h.connection c).stream, t, []⟩] h
      ((answerOn c t).run h).2 := by
  unfold answerOn
  rw [act_get]
  exact posts_answer (some c) (h.connection c).device (h.connection c).stream t h

theorem Opening.posts_answerOn (o : Opening c s d isn cap h) :
    Posts [answerTo c s d isn cap] h ((answerOn c (Control.accept isn cap).2).run h).2 := by
  have hd : (h.connection c).device = d := congrArg Line.device o.line
  have hs : (h.connection c).stream = s := congrArg Line.stream o.line
  have hp := Host.posts_answerOn c (Control.accept isn cap).2 h
  rw [hd, hs] at hp
  exact hp

/-- **A SYN opens a connection** on the device on which it comes. -/
theorem opening_accept {a : Nat} (ha : h.acceptor? s.here.port = some a)
    (hk : g.flags.has .ack = false) (hx : (app (.accept a s)).run h = (some (), h₁)) :
    ∃ h', (acceptStream app d s g).run h = (some (), h') ∧
      Opening h₁.connections.length s d g.seq h₁.config.receiveBuffer h' := by
  let k := Control.accept g.seq h₁.config.receiveBuffer
  obtain ⟨b, hb⟩ := board_connect (h := h₁) s d (h₁.acceptors.getD a default).service g.seq
    (k := k.1) (t := k.2) rfl
  have hr : ∃ h', (acceptStream app d s g).run h = (some (), h') ∧
      h'.board = h₁.board.connect s d g.seq b := by
    refine ⟨_, ?_, hb⟩
    unfold acceptStream
    rw [run_get, ha]
    dsimp only
    rw [if_neg (by rw [hk]; decide), run_bind, hx]
    dsimp only
    rw [run_get, run_act, run_lift]
  obtain ⟨h', hr, hb⟩ := hr
  refine ⟨h', hr, ?_, ?_⟩
  · rw [← stream?_board, hb, stream?_connect, if_pos rfl, length_lines_board]
  · rw [← line_board, hb, ← length_lines_board]
    exact line_connect_self s d g.seq b h₁.board

/-! ## Further SYNs -/

/-- A segment that comes in on a device from `src`. -/
structure Knock where
  device : DeviceId
  bytes : Bytes
  src : Ip

/-- It is a SYN between two ends, whatever else it says. -/
def Knock.Asks (x : Knock) (h : Host) (s : Stream) : Prop :=
  ∃ g, Segment.decode x.bytes = .ok g ∧
    s = ⟨⟨(h.device x.device).ip, g.dstPort⟩, ⟨x.src, g.srcPort⟩⟩ ∧
    g.flags.has .rst = false ∧ g.flags.has .syn = true

/-- The host takes it. -/
def Knock.receive (app : Application) (x : Knock) : Run Unit :=
  receiveSegment app x.device x.bytes x.src

theorem Knock.Asks.posts {x : Knock} (hx : x.Asks h s) (p : Posts l h h') : x.Asks h' s := by
  obtain ⟨ds, ts, qs, new, rfl, -, -, hd⟩ := p
  obtain ⟨g, hg, rfl, hf⟩ := hx
  refine ⟨g, hg, ?_, hf⟩
  rw [(hd x.device).2]

theorem settle_reply (c : ConnId) (t : Header) : settle c { reply := some t } = answerOn c t := by
  unfold settle
  rw [if_neg Bool.false_ne_true]
  exact bind_pure_unit

theorem Opening.run_takeIn (o : Opening c s d isn cap h) (hr : g.flags.has .rst = false)
    (hy : g.flags.has .syn = true) : (takeIn c g).run h =
      ({ reply := some (Control.accept isn cap).2 },
        ((answerOn c (Control.accept isn cap).2).run h).2) := by
  have hf : (h.connection c).control.take g =
      ((h.connection c).control, { reply := some (Control.accept isn cap).2 }) := by
    rw [o.control, Control.take_accept hr hy]
  rw [run_takeIn_self hf rfl, settle_reply]
  rfl

theorem Opening.posts_receiveOn (o : Opening c s d isn cap h) (hr : g.flags.has .rst = false)
    (hy : g.flags.has .syn = true) : ∃ h', (∀ app, (receiveOn app c g).run h = (some (), h')) ∧
      Posts [answerTo c s d isn cap] h h' := by
  have p := o.posts_answerOn
  have ht := o.run_takeIn hr hy
  generalize ((answerOn c (Control.accept isn cap).2).run h).2 = h' at p ht
  have ho : (h'.connection c).control.owesAck = false := by
    rw [(o.posts p).control]
    rfl
  refine ⟨h', fun app => ?_, p⟩
  rw [run_receiveOn, ht, run_handOn rfl]
  exact (if_neg Bool.false_ne_true).trans (run_conclude_idle ho)

/-- **A further SYN is answered as the first**, and no more is done about it. -/
theorem Opening.repeats (o : Opening c s d isn cap h) {x : Knock} (hx : x.Asks h s) :
    ∃ h', (∀ app, (x.receive app).run h = (some (), h')) ∧ Posts [answerTo c s d isn cap] h h' := by
  obtain ⟨g, hg, hs, hr, hy⟩ := hx
  have pa : Posts [] h ((record (.arrived s g)).run h).2 := posts_record rfl h
  obtain ⟨h', hrun, p⟩ := (o.posts pa).posts_receiveOn hr hy
  refine ⟨h', fun app => ?_, pa.trans p⟩
  unfold Knock.receive
  rw [run_receiveSegment_registered o.registered (Segment.decode_eq_ok.mp hg) hs]
  exact hrun app

/-- **So are any number of them.** -/
theorem Opening.repeats_all (o : Opening c s d isn cap h) {xs : List Knock}
    (hx : ∀ x ∈ xs, x.Asks h s) : ∃ h',
    (∀ app, (xs.forM (Knock.receive app)).run h = (some (), h')) ∧
      Posts (List.replicate xs.length (answerTo c s d isn cap)) h h' := by
  induction xs generalizing h with
  | nil => exact ⟨h, fun _ => rfl, .refl h⟩
  | cons x xs ih =>
    obtain ⟨h₁, hr₁, p₁⟩ := o.repeats (hx x List.mem_cons_self)
    obtain ⟨h₂, hr₂, p₂⟩ := ih (o.posts p₁) fun y hy => (hx y (List.mem_cons_of_mem x hy)).posts p₁
    refine ⟨h₂, fun app => ?_, p₁.trans p₂⟩
    change (x.receive app >>= fun _ => xs.forM (Knock.receive app)).run h = _
    rw [run_bind, hr₁ app]
    exact hr₂ app

/-- In another state a SYN is only reported, if nothing is owed. -/
theorem run_receiveSegment_late (hc : h.stream? s = some c)
    (ho : (h.connection c).control.owesAck = false)
    (hn : (h.connection c).control.state ≠ .synReceived) (hg : g.Reads b)
    (hs : s = ⟨⟨(h.device d).ip, g.dstPort⟩, ⟨src, g.srcPort⟩⟩) (hr : g.flags.has .rst = false)
    (hy : g.flags.has .syn = true) (app : Application) :
    (receiveSegment app d b src).run h = (some (), { h with
      journal := .noticed (.unexpectedSyn (h.connection c).control.state) :: .arrived s g ::
        h.journal }) := by
  have hf : (h.connection c).control.take g = ((h.connection c).control,
      { notice := some (.unexpectedSyn (h.connection c).control.state) }) := by
    unfold Control.take Control.repeatSyn
    rw [if_neg (by rw [hr]; decide), if_pos hy, if_neg hn]
  rw [run_receiveSegment_registered hc hg hs, run_receiveOn,
    run_takeIn_self (h := ((record (.arrived s g)).run h).2) hf rfl, run_handOn rfl]
  exact (if_neg Bool.false_ne_true).trans (run_conclude_idle ho)

/-! ## Handshakes -/

/-- **How a host opens connections.** -/
structure Handshakes (h : Host) : Prop where
  /-- A SYN for a port with a listener opens a connection on the device on which it comes, … -/
  first : ∀ {app d b src g s a h₁}, Segment.decode b = .ok g →
    s = ⟨⟨(h.device d).ip, g.dstPort⟩, ⟨src, g.srcPort⟩⟩ → h.stream? s = none →
    h.acceptor? g.dstPort = some a → g.flags.has .syn = true → g.flags.has .rst = false →
    g.flags.has .ack = false →
    (app (.accept a s)).run ((record (.arrived s g)).run h).2 = (some (), h₁) →
    ∃ h', (receiveSegment app d b src).run h = (some (), h') ∧
      Opening h₁.connections.length s d g.seq h₁.config.receiveBuffer h'
  /-- … and that device stays the connection's. -/
  stays : ∀ {e h' c}, Leads e h h' → c < h.connections.length →
    (h'.connection c).device = (h.connection c).device
  /-- Until the host's SYN is acknowledged, every further SYN between the two ends is answered through that
  device with the very segment that the connection tried to send first. Nothing else happens. -/
  again : ∀ {s c}, h.stream? s = some c → (h.connection c).control.state = .synReceived → ∃ isn w,
    let x : Emission := ⟨some c, (h.connection c).device, s, ⟨1, isn + 1, .syn ||| .ack, w⟩, []⟩
    .opened c s isn ∈ h.journal ∧ firstEmission c h.journal = some x ∧
      ∀ xs : List Knock, (∀ y ∈ xs, y.Asks h s) → ∃ h',
        (∀ app, (xs.forM (Knock.receive app)).run h = (some (), h')) ∧
          Posts (List.replicate xs.length x) h h'
  /-- In any other state a SYN is only reported, if the host is at rest. -/
  late : ∀ {d b src g s c}, AtRest h → Segment.decode b = .ok g →
    s = ⟨⟨(h.device d).ip, g.dstPort⟩, ⟨src, g.srcPort⟩⟩ → h.stream? s = some c →
    (h.connection c).control.state ≠ .synReceived → g.flags.has .rst = false →
    g.flags.has .syn = true → ∀ app, (receiveSegment app d b src).run h = (some (), { h with
      journal := .noticed (.unexpectedSyn (h.connection c).control.state) :: .arrived s g ::
        h.journal })

/-- **A further SYN is answered as the first was**, until the host's own is acknowledged. -/
theorem Visited.handshakes (hv : Visited h) : Handshakes h where
  first hg hs hc ha hy hr hk hx := by
    rw [run_receiveSegment (Segment.decode_eq_ok.mp hg) hs
      (.inr ⟨hy, by rw [hr]; exact Bool.false_ne_true⟩), hc]
    subst hs
    exact opening_accept (h := ((record _).run h).2) ha hk hx
  stays hl hc := by
    have hd := (traffic_leads hl).grows.device _ (by rwa [length_lines_board])
    rwa [line_board, line_board] at hd
  again hc hs := by
    obtain ⟨isn, cap, ho, hf, o⟩ := hv.opening hc hs
    exact ⟨isn, _, ho, hf, fun xs hx => o.repeats_all hx⟩
  late hr hg hs hc hn hrst hy :=
    run_receiveSegment_late hc (hr.owes_nothing _) hn (Segment.decode_eq_ok.mp hg) hs hrst hy

/-- The SYN of the peer of `respondent` comes twice more, as it came and with other numbers, flags and
data. -/
theorem handshakes_respondent : Visited respondent ∧
    respondent.stream? respondent.stream = some 0 ∧
    (respondent.connection 0).control.state = .synReceived ∧ ∃ isn w x y h',
      let z : Emission := ⟨some 0, 0, respondent.stream, ⟨1, isn + 1, .syn ||| .ack, w⟩, []⟩
      Knock.Asks x respondent respondent.stream ∧ Knock.Asks y respondent respondent.stream ∧
      .opened 0 respondent.stream isn ∈ respondent.journal ∧
      firstEmission 0 respondent.journal = some z ∧
      (∀ app, ([x, y].forM (Knock.receive app)).run respondent = (some (), h')) ∧
      Posts [z, z] respondent h' := by
  have hv : Visited respondent := visited_talked (by decide +kernel)
  have hc : respondent.stream? respondent.stream = some 0 := by decide +kernel
  have hs : (respondent.connection 0).control.state = .synReceived := by decide +kernel
  have hd : (respondent.connection 0).device = 0 := by decide +kernel
  have he : respondent.stream =
      ⟨⟨(respondent.device 0).ip, echoPort⟩, ⟨⟨10, 0, 0, 2⟩, 4000⟩⟩ := by decide +kernel
  have hx : ∀ t data, t.flags.has .rst = false → t.flags.has .syn = true →
      Knock.Asks ⟨0, Tcp.encode ⟨respondent.stream.peer, respondent.stream.here⟩ t data,
        ⟨10, 0, 0, 2⟩⟩ respondent respondent.stream := fun t data hr hy =>
    ⟨_, Segment.decode_eq_ok.mpr
      (Segment.reads_encode ⟨respondent.stream.peer, respondent.stream.here⟩ t data), he, hr, hy⟩
  obtain ⟨isn, w, ho, hf, ha⟩ := hv.handshakes.again hc hs
  rw [hd] at hf ha
  have h₁ := hx ⟨99, 0, .syn, 1000⟩ [] (by decide) (by decide)
  have h₂ := hx ⟨7, 8, .syn ||| .fin ||| .ack, 0⟩ [104] (by decide) (by decide)
  obtain ⟨h', hr, hp⟩ := ha [_, _] (List.forall_mem_cons.mpr ⟨h₁, List.forall_mem_singleton.mpr h₂⟩)
  exact ⟨hv, hc, hs, isn, w, _, _, h', h₁, h₂, ho, hf, hr, hp⟩

end Host

end InetHost
