import InetHost.Proofs.Exchange.Intake
import InetHost.Proofs.Exchange.Utterance
import InetHost.Proofs.Frame.WellFormed
import InetHost.Proofs.Stream.Answering

/-!
# The echo of a stream

A peer opens a connection to the echo service, sends some data and closes. Whatever the pieces in which
it sends the data, it gets the same data back.

* `OnCall`: a connection to the echo service, as it stands between two segments of its peer;
* `OnCall.takesEmpty`, `OnCall.echoes`, `OnCall.ends`, `InTouch.opens`: what a host does about a
  segment of the peer, one lemma for each kind;
* `Brings`, `Hears`: a frame with a segment of the peer, and how a host answers it;
* `replies`: the segments with which a host answers all of them;
* **`echo_replies`**: a host answers with these segments, and forgets the connection.
-/

namespace InetHost.Host

open Tcp

variable {h h₁ h₂ : Host} {d : DeviceId} {s : Stream} {c : ConnId} {mac : Mac} {k k₁ : Control}
  {b : Bytes} {g : Segment} {t : Header} {app : Application} {ts : List (Header × Bytes)}

/-! ## A connection to the echo service -/

/-- **A connection to the echo service**, as it stands between two segments of its peer. -/
structure OnCall (d : DeviceId) (s : Stream) (mac : Mac) (c : ConnId) (k : Control) (h : Host) : Prop
    extends InTouch d s mac h where
  address : (h.device d).ip = s.here.ip
  registered : h.stream? s = some c
  lt : c < h.connections.length
  connection : ∃ reads, h.connection c = ⟨s, d, k, .echo, reads⟩

theorem OnCall.control_eq (o : OnCall d s mac c k h) : (h.connection c).control = k := by
  obtain ⟨reads, hk⟩ := o.connection
  rw [hk]

theorem OnCall.speaks (o : OnCall d s mac c k h) (u : Speaks d s mac ts h h₁)
    (hc : h₁.connections = h.connections) (hs : h₁.streams = h.streams) :
    OnCall d s mac c k h₁ where
  toInTouch := Utters.inTouch u o.toInTouch
  address := (Utters.ip u d).trans o.address
  registered := by
    have hr := o.registered
    unfold stream? at hr ⊢
    rwa [hs]
  lt := hc ▸ o.lt
  connection := by
    have hk := o.connection
    unfold Host.connection at hk ⊢
    rwa [hc]

theorem OnCall.record (o : OnCall d s mac c k h) {e : Event} (he : e.onFrame = false) :
    OnCall d s mac c k ((record e).run h).2 :=
  o.speaks (speaks_record he h) rfl rfl

theorem OnCall.setControl (o : OnCall d s mac c k h) (k' : Control) :
    OnCall d s mac c k' ((setControl c k').run h).2 ∧
      Speaks d s mac [] h ((setControl c k').run h).2 := by
  obtain ⟨new, hj, hn⟩ := run_setControl c k' h
  have hu : Speaks d s mac [] h ((Host.setControl c k').run h).2 := by
    rw [hj]
    refine utters_of_eq rfl rfl rfl ⟨new, rfl, fun e he => ?_⟩
    rw [hn e he]
    rfl
  refine ⟨⟨Utters.inTouch hu o.toInTouch, (Utters.ip hu d).trans o.address, ?_, ?_, ?_⟩, hu⟩
  · rw [hj]
    exact o.registered
  · rw [hj]
    simpa using o.lt
  · obtain ⟨reads, hk⟩ := o.connection
    refine ⟨reads, ?_⟩
    rw [hj]
    change (h.connections.modify c _).getD c default = _
    rw [getD_modify, if_pos ⟨rfl, o.lt⟩]
    change { h.connection c with control := k' } = _
    rw [hk]

/-! ## What it says -/

/-- A segment of the connection is sent in one frame. -/
theorem OnCall.emit (o : OnCall d s mac c k h) (t : Header) {data : Bytes}
    (hl : Ipv4.headerLength + (encode s t data).length ≤ Ipv4.maxLength) :
    ∃ h', (emit c t data).run h = (.ok (), h') ∧ OnCall d s mac c k h' ∧
      Speaks d s mac [(t, data)] h h' := by
  obtain ⟨ds, ts, qs, j, hr, hu⟩ := o.run_sendSegment (some c) t hl
  obtain ⟨reads, hk⟩ := o.connection
  refine ⟨_, ?_, o.speaks hu rfl rfl, hu⟩
  unfold Host.emit
  rw [act_get, hk]
  exact hr

theorem OnCall.answerOn (o : OnCall d s mac c k h) (t : Header) :
    ∃ h', (answerOn c t).run h = ((), h') ∧ OnCall d s mac c k h' ∧
      Speaks d s mac [(t, [])] h h' := by
  have hl : Ipv4.headerLength + (encode s t []).length ≤ Ipv4.maxLength := by
    rw [length_encode]
    decide
  obtain ⟨ds, ts, qs, j, hr, hu⟩ := o.run_sendSegment (some c) t hl
  obtain ⟨reads, hk⟩ := o.connection
  refine ⟨_, ?_, o.speaks hu rfl rfl, hu⟩
  unfold Host.answerOn
  rw [act_get, hk]
  unfold answer
  rw [StateT.run_bind, hr]
  rfl

theorem OnCall.sendData (o : OnCall d s mac c k h) (hm : k.state.maySend = true) {data : Bytes}
    (hl : data.length ≤ h.config.maxSegment) :
    ∃ h', (sendData s data).run h = (.ok (), h') ∧ OnCall d s mac c (k.sent data.length) h' ∧
      Speaks d s mac [(k.dataHeader, data)] h h' := by
  have hs : Ipv4.headerLength + (encode s k.dataHeader data).length ≤ Ipv4.maxLength := by
    have := h.config.mtu.toNat_lt
    unfold Config.maxSegment at hl
    rw [length_encode]
    unfold Ipv4.headerLength Tcp.headerLength Ipv4.maxLength
    omega
  obtain ⟨h₁, hr, o₁, u₁⟩ := o.emit k.dataHeader hs
  obtain ⟨o₂, u₂⟩ := o₁.setControl (k.sent data.length)
  refine ⟨_, ?_, o₂, u₁.trans u₂⟩
  unfold Host.sendData
  rw [act_get, if_neg (Nat.not_lt.mpr hl), o.registered]
  dsimp only
  rw [o.control_eq, if_pos hm, StateT.run_bind, hr]
  rfl

/-- The end of a segment is answered in one frame, if it is. -/
theorem OnCall.conclude (o : OnCall d s mac c k h) {fin ended : Bool} {r : Option Header}
    (hf : k.finish fin = (k₁, { reply := r, ended })) :
    ∃ h', (conclude c fin).run h = (some (), h') ∧ OnCall d s mac c k₁ h' ∧
      Speaks d s mac (r.toList.map (·, [])) h h' := by
  obtain ⟨o₁, u₁⟩ := o.setControl k₁
  have hs : ∃ h', (steer c (·.finish fin)).run h = ({ reply := r, ended }, h') ∧
      OnCall d s mac c k₁ h' ∧ Speaks d s mac [] h h' := by
    unfold steer
    rw [act_get]
    dsimp only
    rw [o.control_eq, hf]
    cases ended with
    | false => exact ⟨_, rfl, o₁, u₁⟩
    | true => exact ⟨_, rfl, o₁.record (e := .ended c) rfl, u₁.trans (speaks_record rfl _)⟩
  obtain ⟨h₂, hr, o₂, u₂⟩ := hs
  unfold Host.conclude
  rw [run_act, hr]
  cases r with
  | none => exact ⟨h₂, rfl, o₂, u₂⟩
  | some t =>
    obtain ⟨h₃, hr', o₃, u₃⟩ := o₂.answerOn t
    have hset : ((settle c { reply := some t, ended }).run h₂).2 =
        ((Host.answerOn c t).run h₂).2 := rfl
    refine ⟨h₃, ?_, o₃, u₂.trans u₃⟩
    rw [run_lift, hset, hr']

/-! ## Segments of the peer -/

theorem OnCall.run_take (o : OnCall d s mac c k h) {out : Outcome} (ht : k.take g = (k₁, out))
    (he : out.ended = false) (hn : out.notice = none) :
    (steer c (·.take g)).run h = (out, ((Host.setControl c k₁).run h).2) := by
  unfold steer
  rw [act_get]
  dsimp only
  rw [o.control_eq, ht]
  dsimp only
  rw [he, hn]
  rfl

theorem OnCall.takesEmpty (o : OnCall d s mac c k h) {k₂ : Control} {r : Option Header} {fin ended : Bool}
    (ht : k.take g = (k₁, { fin })) (hf : k₁.finish fin = (k₂, { reply := r, ended }))
    (app : Application) :
    ∃ h', (receiveOn app c g).run h = (some (), h') ∧ OnCall d s mac c k₂ h' ∧
      Speaks d s mac (r.toList.map (·, [])) h h' := by
  obtain ⟨o₁, u₁⟩ := o.setControl k₁
  obtain ⟨h₂, hr, o₂, u₂⟩ := o₁.conclude hf
  refine ⟨h₂, ?_, o₂, u₁.trans u₂⟩
  unfold Host.receiveOn
  rw [run_act, o.run_take ht rfl rfl]
  exact hr

/-- **Data is sent back** in one frame, which acknowledges it too. -/
theorem OnCall.echoes (o : OnCall d s mac c k h) {data : Bytes}
    (ht : k.take g = (k₁, { deliver := some data })) (hm : k₁.state.maySend = true)
    (hl : data.length ≤ h.config.maxSegment) (inner : Exec) :
    ∃ h', (receiveOn (answerCall inner) c g).run h = (some (), h') ∧
      OnCall d s mac c (k₁.sent data.length) h' ∧ Speaks d s mac [(k₁.dataHeader, data)] h h' := by
  obtain ⟨o₁, u₁⟩ := o.setControl k₁
  have o₂ := o₁.record (e := .delivered c data) rfl
  have u₂ := u₁.trans (speaks_record (e := .delivered c data) rfl _)
  obtain ⟨h₃, hr, o₃, u₃⟩ := o₂.sendData hm (by rwa [Utters.config u₂])
  have hf : (k₁.sent data.length).finish false = (k₁.sent data.length, { reply := none }) := rfl
  obtain ⟨h₄, hr', o₄, u₄⟩ := o₃.conclude hf
  have hcall : (answerCall inner (.read c data)).run ((Host.record (.delivered c data)).run
      ((Host.setControl c k₁).run h).2).2 = (some (), h₃) := by
    obtain ⟨reads, hk⟩ := o₂.connection
    change (runRead inner c data).run _ = _
    unfold runRead
    rw [run_get, hk]
    dsimp only
    unfold echoStream
    rw [run_lift, StateT.run_bind, hr]
    rfl
  refine ⟨h₄, ?_, o₄, (u₂.trans u₃).trans u₄⟩
  rw [run_receiveOn_data (h := h) (by rw [o.control_eq]; exact ht), run_bind, hcall]
  exact hr'

theorem OnCall.run_settle (o : OnCall d s mac c k h) :
    (settle c { teardown := true }).run h = ((), { h with
      streams := h.streams.filter (·.1 ≠ s)
      journal := .removed c s c :: .noticed (.streamClosed s) :: h.journal }) := by
  have o₁ := o.record (e := .noticed (.streamClosed s)) rfl
  obtain ⟨reads, hk⟩ := o.connection
  unfold settle
  rw [StateT.run_bind]
  change ((do
    let s := ((← get).connection c).stream
    note (.streamClosed s)
    removeStream s c : Act Unit).run h) = _
  rw [act_get, hk]
  dsimp only
  rw [StateT.run_bind]
  change (removeStream s c).run ((note (.streamClosed s)).run h).2 = _
  unfold removeStream
  rw [act_get, show ((note (.streamClosed s)).run h).2.stream? s = some c from o₁.registered]
  rfl

/-- **A connection that is over is forgotten**, and nothing is said. -/
theorem OnCall.ends (o : OnCall d s mac c k h) (ht : k.take g = (k₁, { teardown := true }))
    (app : Application) :
    ∃ h', (receiveOn app c g).run h = (some (), h') ∧ h'.stream? s = none ∧ Speaks d s mac [] h h' := by
  obtain ⟨o₁, u₁⟩ := o.setControl k₁
  refine ⟨((settle c { teardown := true }).run ((Host.setControl c k₁).run h).2).2, ?_, ?_, u₁.trans ?_⟩
  · unfold Host.receiveOn
    rw [run_act, o.run_take ht rfl rfl]
    dsimp only
    rw [run_act]
    rfl
  · rw [o₁.run_settle]
    exact (Switchboard.lookup_filter_ne _ s s).trans (if_pos rfl)
  · rw [o₁.run_settle]
    exact utters_of_eq rfl rfl rfl
      ⟨[.removed c s c, .noticed (.streamClosed s)], rfl, by simp [Event.onFrame]⟩

/-- A port has the echo service. -/
def Echoes (h : Host) (port : UInt16) : Prop :=
  ∃ a, h.acceptor? port = some a ∧ (h.acceptors.getD a default).service = .echo

/-- Once the echo service was started its port has it. -/
theorem echoes_serveEcho (hr : (serveEcho.run h).1 = .ok ()) : (serveEcho.run h).2.Echoes echoPort := by
  unfold serveEcho listen at hr ⊢
  rw [StateT.run_bind, act_get] at hr ⊢
  cases hp : h.acceptor? echoPort with
  | some a =>
    rw [hp] at hr
    cases hr
  | none =>
    refine ⟨h.acceptors.length, ?_, ?_⟩
    · unfold acceptor? at hp
      change (h.acceptors ++ [Acceptor.mk echoPort .echo 0]).findIdx? _ = _
      rw [List.findIdx?_append, hp]
      simp
    · change ((h.acceptors ++ [Acceptor.mk echoPort .echo 0]).getD _ _).service = _
      simp

/-- A host with one more connection to the echo service. -/
def withEcho (h : Host) (d : DeviceId) (s : Stream) (k : Control) (new : List Event) : Host :=
  { h with
    connections := h.connections ++ [⟨s, d, k, .echo, 0⟩]
    streams := h.streams.filter (·.1 ≠ s) ++ [(s, h.connections.length)]
    journal := new ++ h.journal }

theorem run_openStream_echo (s : Stream) (d : DeviceId) (isn : SeqNum) (k : Control) (h : Host) :
    ∃ new, (openStream s d .echo isn k).run h = (h.connections.length, h.withEcho d s k new) ∧
      ∀ e ∈ new, e.onFrame = false := by
  unfold openStream
  rw [act_get, act_modify]
  cases h.stream? s with
  | none => exact ⟨[.opened h.connections.length s isn], rfl, by simp [Event.onFrame]⟩
  | some old =>
    exact ⟨[.opened h.connections.length s isn, .replaced old s], rfl, by simp [Event.onFrame]⟩

theorem InTouch.withEcho (i : InTouch d s mac h) (ha : (h.device d).ip = s.here.ip) (k : Control)
    {new : List Event} (hn : ∀ e ∈ new, e.onFrame = false) :
    OnCall d s mac h.connections.length k (h.withEcho d s k new) ∧
      Speaks d s mac [] h (h.withEcho d s k new) := by
  have u : Speaks d s mac [] h (h.withEcho d s k new) := utters_of_eq rfl rfl rfl ⟨new, rfl, hn⟩
  refine ⟨⟨Utters.inTouch u i, ha, ?_, by simp [Host.withEcho], 0, ?_⟩, u⟩
  · change (h.streams.filter (·.1 ≠ s) ++ [(s, h.connections.length)]).lookup s = _
    rw [List.lookup_append, Switchboard.lookup_filter_ne, if_pos rfl]
    simp
  · change (h.connections ++ [_]).getD h.connections.length default = _
    rw [List.getD_append_right _ _ _ _ (Nat.le_refl _), Nat.sub_self]
    rfl

/-- A SYN for the echo service has a connection opened, and answered. -/
theorem run_acceptStream_echo (he : h.Echoes s.here.port) (hk : g.flags.has .ack = false)
    (hacc : Control.accept g.seq h.config.receiveBuffer = (k, t)) (inner : Exec) :
    (acceptStream (answerCall inner) d s g).run h =
      (do let c ← openStream s d .echo g.seq k; answerOn c t : Run Unit).run h := by
  obtain ⟨a, hp, he⟩ := he
  have happ : (answerCall inner (.accept a s)).run h = (some (), h) := by
    change (runAccept inner a s).run h = _
    unfold runAccept
    rw [run_get]
    dsimp only
    rw [he]
    rfl
  unfold Host.acceptStream
  rw [run_get, hp]
  dsimp only
  rw [if_neg (by rw [hk]; decide), run_bind, happ]
  dsimp only
  rw [run_get, he, hacc]

/-- **A connection is opened**, and its first segment answered in one frame. -/
theorem InTouch.opens (i : InTouch d s mac h) (ha : (h.device d).ip = s.here.ip)
    (he : h.Echoes s.here.port) (hk : g.flags.has .ack = false) (inner : Exec) :
    let r := Control.accept g.seq h.config.receiveBuffer
    ∃ h', (acceptStream (answerCall inner) d s g).run h = (some (), h') ∧
      OnCall d s mac h.connections.length r.1 h' ∧ Speaks d s mac [(r.2, [])] h h' := by
  generalize hacc : Control.accept g.seq h.config.receiveBuffer = r
  obtain ⟨k, t⟩ := r
  obtain ⟨new, hr, hn⟩ := run_openStream_echo s d g.seq k h
  obtain ⟨o₁, u₁⟩ := i.withEcho ha k hn
  obtain ⟨h₂, hr', o₂, u₂⟩ := o₁.answerOn t
  refine ⟨h₂, ?_, o₂, u₁.trans u₂⟩
  rw [run_acceptStream_echo he hk hacc, run_act, hr, run_lift, hr']

/-! ## Frames of the peer -/

/-- **A frame brings a segment** from the peer. -/
structure Brings (s : Stream) (b : Bytes) (g : Segment) : Prop where
  reads : ∃ (f : Ethernet.Frame) (p : Ipv4.Packet), f.Reads b ∧ f.type = 0x0800 ∧
    p.Reads f.payload ∧ p.protocol = 6 ∧ p.src = s.peer.ip ∧ g.Reads p.payload
  srcPort : g.srcPort = s.peer.port
  dstPort : g.dstPort = s.here.port

theorem Brings.carries (hb : Brings s b g) (ha : (h.device d).ip = s.here.ip) (hw : h.Wanted s g) :
    Carries h d b (.segment s g) := by
  obtain ⟨f, p, hf, ht, hp, hq, hi, hg⟩ := hb.reads
  have hs : s = ⟨⟨(h.device d).ip, g.dstPort⟩, ⟨p.src, g.srcPort⟩⟩ := by
    rw [ha, hi, hb.srcPort, hb.dstPort]
  rw [hs] at hw ⊢
  exact .segment hf ht hp hq hg hw

/-- **What a host sends brings the segment to its peer.** -/
theorem brings_segmentFrame {p : Host} {e : DeviceId} (hi : (p.device e).ip = s.peer.ip) (mac : Mac)
    (t : Header) {data : Bytes}
    (hl : Ipv4.headerLength + (encode ⟨s.peer, s.here⟩ t data).length ≤ Ipv4.maxLength) :
    Brings s (p.segmentFrame e ⟨s.peer, s.here⟩ mac t data)
      ⟨s.peer.port, s.here.port, t.seq, t.ack, t.flags, data⟩ := by
  have hf := Ethernet.Frame.decode?_eq_some.mp (Ethernet.Frame.decode_encode
    ⟨mac, (p.device e).mac, Ethernet.ipv4Type,
      Ipv4.header p.config.ttl Ipv4.tcp (Ipv4.headerLength + (encode ⟨s.peer, s.here⟩ t data).length)
        (p.device e).ip s.here.ip ++ encode ⟨s.peer, s.here⟩ t data⟩)
  exact ⟨⟨_, _, hf, rfl, Ipv4.Packet.reads_header _ _ _ _ hl, rfl, hi,
    Segment.reads_encode ⟨s.peer, s.here⟩ t data⟩, rfl, rfl⟩

/-- The host as it turns to a segment that has come in. -/
def entered (h : Host) (d : DeviceId) (s : Stream) (g : Segment) : Host :=
  ((do register d; record (.arrived s g) : Act Unit).run { h with lent := d :: h.lent }).2

theorem entered_eq (h : Host) (d : DeviceId) (s : Stream) (g : Segment) : ∃ os j,
    h.entered d s g = { h with lent := d :: h.lent, owners := os, journal := j } := by
  obtain ⟨os, j, hr⟩ := run_register d { h with lent := d :: h.lent }
  refine ⟨os, .arrived s g :: j, ?_⟩
  change ((record (.arrived s g)).run ((register d).run _).2).2 = _
  rw [hr]
  rfl

theorem speaks_lent (l : List DeviceId) (h : Host) : Speaks d s mac [] h { h with lent := l } :=
  utters_of_eq rfl rfl rfl ⟨[], rfl, List.forall_mem_nil _⟩

theorem speaks_entered (d : DeviceId) (s : Stream) (mac : Mac) (g : Segment) (h : Host) :
    Speaks d s mac [] h (h.entered d s g) := by
  obtain ⟨os, j, hr⟩ := run_register d { h with lent := d :: h.lent }
  have hj := (KeepsQueues.keepsFrames (keepsQueues_register (h := { h with lent := d :: h.lent }) d)).journal
  have hu : Speaks d s mac [] { h with lent := d :: h.lent }
      ((register d).run { h with lent := d :: h.lent }).2 := by
    rw [hr] at hj ⊢
    exact utters_of_eq rfl rfl rfl hj
  exact ((speaks_lent _ h).trans hu).trans (speaks_record (e := .arrived s g) rfl _)

/-- **A frame comes in**, and some segments are all that is said about it. -/
structure Hears (n : Nat) (d : DeviceId) (s : Stream) (mac : Mac) (b : Bytes)
    (ts : List (Header × Bytes)) (h h' : Host) : Prop where
  runs : (exec (n + 1) {} (.receive d (.bytes b))).run h = (some .done, h')
  speaks : Speaks d s mac ts h h'

variable {n : Nat}

theorem Brings.hears (hb : Brings s b g) (ha : (h.device d).ip = s.here.ip) (hw : h.Wanted s g)
    (hr : (match h.stream? s with
      | some c => receiveOn (answerCall (exec n)) c g
      | none => acceptStream (answerCall (exec n)) d s g : Run Unit).run (h.entered d s g) =
        (some (), h₁))
    (hs : Speaks d s mac ts (h.entered d s g) h₁) :
    Hears n d s mac b ts h { h₁ with lent := h₁.lent.tail } := by
  refine ⟨?_, ?_⟩
  · have hc := (hb.carries (h := { h with lent := d :: h.lent }) ha hw).run_receiveFrame
      (answerCall (exec n))
    have hh : (handle (answerCall (exec n)) d (.segment s g)).run { h with lent := d :: h.lent } =
        (some (), h₁) := by
      obtain ⟨os, j, he⟩ := run_register d { h with lent := d :: h.lent }
      have hn : h.entered d s g = ((record (.arrived s g)).run
          ((register d).run { h with lent := d :: h.lent }).2).2 := rfl
      rw [hn] at hr
      rw [← hr]
      unfold handle
      rw [run_act, run_act, run_get, he]
      rfl
    change (do lend d (receiveFrame (answerCall (exec n)) d b); return Reply.done : Run Reply).run h = _
    rw [run_bind, run_lend (hc.trans hh)]
    rfl
  · have u := ((speaks_entered d s mac g h).trans hs).trans (speaks_lent h₁.lent.tail h₁)
    rwa [List.nil_append, List.append_nil] at u

theorem OnCall.hears (o : OnCall d s mac c k h) (hb : Brings s b g) {P : Host → Prop}
    (hp : ∀ {h₁}, P h₁ → P { h₁ with lent := h₁.lent.tail })
    (hr : ∀ {h₁}, Speaks d s mac [] h h₁ → OnCall d s mac c k h₁ → ∃ h₂,
      (receiveOn (answerCall (exec n)) c g).run h₁ = (some (), h₂) ∧ P h₂ ∧ Speaks d s mac ts h₁ h₂) :
    ∃ h', Hears n d s mac b ts h h' ∧ P h' := by
  have u := speaks_entered d s mac g h
  have o₁ : OnCall d s mac c k (h.entered d s g) := by
    obtain ⟨os, j, he⟩ := entered_eq h d s g
    exact o.speaks u (by rw [he]) (by rw [he])
  obtain ⟨h₂, hr, hq, hs⟩ := hr u o₁
  refine ⟨_, hb.hears o.address (.inl ?_) ?_ hs, hp hq⟩
  · rw [o.registered]
    rfl
  · rw [o.registered]
    exact hr

/-! ## The control block -/

/-- The control block of a connection after `n` bytes, all of which were sent back. -/
def underway (isn : SeqNum) (cap n : Nat) : Control :=
  ⟨.established, 2 + UInt32.ofNat n, isn + 1 + UInt32.ofNat n, false, .empty cap⟩

/-- The same with `l` more bytes that were taken and not yet sent back. -/
def pending (isn : SeqNum) (cap n l : Nat) : Control :=
  ⟨.established, 2 + UInt32.ofNat n, isn + 1 + UInt32.ofNat (n + l), true, .empty cap⟩

/-- The window that a connection with an empty buffer states. -/
def windowOf (cap : Nat) : UInt16 := UInt16.ofNat (min cap 65535)

variable {isn : SeqNum} {cap m : Nat} {x : Bytes}

theorem take_acknowledgement (hf : g.flags = .ack) (hp : g.payload = []) :
    (Control.accept isn cap).1.take g = (underway isn cap 0, { fin := false }) := by
  have hu : underway isn cap 0 = ⟨.established, 2, isn + 1, false, .empty cap⟩ := by
    unfold underway
    rw [show UInt32.ofNat 0 = 0 from rfl, UInt32.add_zero, UInt32.add_zero]
  unfold Control.take
  rw [hf, hp, hu]
  rfl

theorem take_data (hf : g.flags = .ack ∨ g.flags = .psh ||| .ack) (hp : g.payload = x) (hx : x ≠ [])
    (hl : x.length ≤ cap) :
    (underway isn cap m).take g = (pending isn cap m x.length, { deliver := some x }) := by
  have hb : (underway isn cap m).buffer.extend? x = some ⟨cap, x, hl⟩ := by
    unfold BoundedBuffer.extend?
    have hc : (underway isn cap m).buffer.content.length + x.length ≤
        (underway isn cap m).buffer.capacity := by
      change 0 + x.length ≤ cap
      omega
    rw [dif_pos hc]
    rfl
  have he : isn + 1 + UInt32.ofNat m + UInt32.ofNat x.length = isn + 1 + UInt32.ofNat (m + x.length) := by
    rw [UInt32.ofNat_add, UInt32.add_assoc]
  have hd : (underway isn cap m).takeData g.seq x false =
      (pending isn cap m x.length, { deliver := some x }) := by
    unfold Control.takeData pending
    rw [if_neg (by simpa using hx),
      if_pos (show (underway isn cap m).state.mayReceive = true from rfl), hb, ← he]
    rfl
  unfold Control.take
  rw [hp]
  rcases hf with hf | hf
  all_goals
    rw [hf]
    exact hd

theorem sent_pending (isn : SeqNum) (cap m l : Nat) :
    (pending isn cap m l).sent l = underway isn cap (m + l) := by
  have he : 2 + UInt32.ofNat m + UInt32.ofNat l = 2 + UInt32.ofNat (m + l) := by
    rw [UInt32.ofNat_add, UInt32.add_assoc]
  unfold underway
  rw [← he]
  rfl

theorem take_fin (hf : g.flags = .fin ||| .ack) (hp : g.payload = []) :
    (underway isn cap m).take g = (underway isn cap m, { fin := true }) := by
  unfold Control.take
  rw [hf, hp]
  rfl

theorem finish_underway : (underway isn cap m).finish true =
    (⟨.lastAck, 2 + UInt32.ofNat m + 1, isn + 1 + UInt32.ofNat m + 1, false, .empty cap⟩,
      { reply := some ⟨2 + UInt32.ofNat m, isn + 2 + UInt32.ofNat m, .fin ||| .ack, windowOf cap⟩
        ended := true }) := by
  have he : isn + 2 + UInt32.ofNat m = isn + 1 + UInt32.ofNat m + 1 := by grind
  rw [he]
  rfl

theorem take_last {k : Control} (hs : k.state = .lastAck) (hf : g.flags = .ack) :
    k.take g = ({ k with state := .closed }, { teardown := true }) := by
  have ha : k.acknowledged g.ack = .closed := by
    unfold Control.acknowledged
    rw [hs]
  unfold Control.take
  rw [hf, ha, hs]
  rfl

/-! ## The whole stream -/

/-- **The segments that send some pieces of data back**, `m` bytes after the stream's start. -/
def echoed (isn : SeqNum) (w : UInt16) : Nat → List Bytes → List (Header × Bytes)
  | _, [] => []
  | m, x :: xs =>
    (⟨2 + UInt32.ofNat m, isn + 1 + UInt32.ofNat (m + x.length), .psh ||| .ack, w⟩, x) ::
      echoed isn w (m + x.length) xs

/-- **The segments that answer a peer** from its SYN to its FIN. -/
def replies (isn : SeqNum) (w : UInt16) (xs : List Bytes) : List (Header × Bytes) :=
  let total := UInt32.ofNat xs.flatten.length
  (⟨1, isn + 1, .syn ||| .ack, w⟩, []) :: echoed isn w 0 xs ++
    [(⟨2 + total, isn + 2 + total, .fin ||| .ack, w⟩, [])]

theorem flatMap_echoed (isn : SeqNum) (w : UInt16) (m : Nat) (xs : List Bytes) :
    (echoed isn w m xs).flatMap (·.2) = xs.flatten := by
  induction xs generalizing m with
  | nil => rfl
  | cons x xs ih => rw [echoed, List.flatMap_cons, ih, List.flatten_cons]

/-- The data of the replies is the data of the peer, whatever the pieces. -/
theorem flatMap_replies (isn : SeqNum) (w : UInt16) (xs : List Bytes) :
    (replies isn w xs).flatMap (·.2) = xs.flatten := by
  unfold replies
  rw [List.flatMap_append, List.flatMap_cons, flatMap_echoed]
  simp

/-- What is received, frame by frame. -/
def receipts (d : DeviceId) (bs : List Bytes) : List Op := bs.map fun b => .receive d (.bytes b)

theorem Hears.after? {bs : List Bytes} (hh : Hears n d s mac b ts h h₁) :
    after? (n + 1) (receipts d (b :: bs)) h = after? (n + 1) (receipts d bs) h₁ := by
  unfold receipts
  rw [List.map_cons, Host.after?, hh.runs]

/-- A frame brings a piece of data. -/
def BringsData (s : Stream) (x b : Bytes) : Prop :=
  ∃ g, Brings s b g ∧ (g.flags = .ack ∨ g.flags = .psh ||| .ack) ∧ g.payload = x

/-- **A connection is opened**, and it is said that it is. -/
theorem InTouch.hearsOpening (n : Nat) (i : InTouch d s mac h) (ha : (h.device d).ip = s.here.ip)
    (he : h.Echoes s.here.port) (hn : h.stream? s = none)
    (hb : ∃ g, Brings s b g ∧ g.flags = .syn ∧ g.seq = isn) :
    ∃ h', Hears n d s mac b
        [(⟨1, isn + 1, .syn ||| .ack, windowOf h.config.receiveBuffer⟩, [])] h h' ∧
      OnCall d s mac h.connections.length (Control.accept isn h.config.receiveBuffer).1 h' := by
  obtain ⟨g, hb, hf, rfl⟩ := hb
  have hy : g.flags.has .syn ∧ ¬ g.flags.has .rst := by rw [hf]; decide
  have u := speaks_entered d s mac g h
  obtain ⟨os, j, hh⟩ := entered_eq h d s g
  have h₁ := (Utters.inTouch u i).opens (g := g) ((Utters.ip u d).trans ha)
    (by rw [hh]; exact he) (by rw [hf]; decide) (exec n)
  rw [Utters.config u, show (h.entered d s g).connections = h.connections by rw [hh]] at h₁
  obtain ⟨h₂, hr, o₂, u₂⟩ := h₁
  refine ⟨_, hb.hears ha (.inr hy) ?_ u₂, o₂.speaks (speaks_lent _ _) rfl rfl⟩
  rw [hn]
  exact hr

theorem OnCall.hearsAcknowledgement (n : Nat) (o : OnCall d s mac c (Control.accept isn cap).1 h)
    (hb : ∃ g, Brings s b g ∧ g.flags = .ack ∧ g.payload = []) :
    ∃ h', Hears n d s mac b [] h h' ∧ OnCall d s mac c (underway isn cap 0) h' := by
  obtain ⟨g, hb, hf, hp⟩ := hb
  exact o.hears hb (fun o => o.speaks (speaks_lent _ _) rfl rfl) fun _ o₁ =>
    o₁.takesEmpty (take_acknowledgement hf hp)
      (show (underway isn cap 0).finish false = (underway isn cap 0, { reply := none }) from rfl) _

theorem OnCall.hearsFin (n : Nat) (o : OnCall d s mac c (underway isn cap m) h)
    (hb : ∃ g, Brings s b g ∧ g.flags = .fin ||| .ack ∧ g.payload = []) :
    ∃ h', Hears n d s mac b
        [(⟨2 + UInt32.ofNat m, isn + 2 + UInt32.ofNat m, .fin ||| .ack, windowOf cap⟩, [])] h h' ∧
      OnCall d s mac c ((underway isn cap m).finish true).1 h' := by
  obtain ⟨g, hb, hf, hp⟩ := hb
  rw [finish_underway]
  exact o.hears hb (fun o => o.speaks (speaks_lent _ _) rfl rfl) fun _ o₁ =>
    o₁.takesEmpty (take_fin hf hp) finish_underway _

theorem OnCall.hearsLast (n : Nat) (o : OnCall d s mac c k h) (hs : k.state = .lastAck)
    (hb : ∃ g, Brings s b g ∧ g.flags = .ack) :
    ∃ h', Hears n d s mac b [] h h' ∧ h'.stream? s = none := by
  obtain ⟨g, hb, hf⟩ := hb
  exact o.hears hb (P := (·.stream? s = none)) id fun _ o₁ => o₁.ends (take_last hs hf) _

theorem OnCall.hearsData (o : OnCall d s mac c (underway isn cap m) h) (hb : BringsData s x b)
    (hx : x ≠ []) (hl : x.length ≤ min cap h.config.maxSegment) :
    ∃ h', Hears n d s mac b
        [(⟨2 + UInt32.ofNat m, isn + 1 + UInt32.ofNat (m + x.length), .psh ||| .ack, windowOf cap⟩, x)]
        h h' ∧ OnCall d s mac c (underway isn cap (m + x.length)) h' := by
  obtain ⟨g, hb, hf, hp⟩ := hb
  obtain ⟨hl₁, hl₂⟩ := Nat.le_min.mp hl
  refine o.hears hb (fun o => o.speaks (speaks_lent _ _) rfl rfl) fun u o₁ => ?_
  obtain ⟨h₂, hr, o₂, u₂⟩ := o₁.echoes (take_data hf hp hx hl₁) rfl (by rwa [Utters.config u]) (exec n)
  rw [sent_pending] at o₂
  exact ⟨h₂, hr, o₂, u₂⟩

/-- **All data is sent back**, piece by piece. -/
theorem OnCall.hearsAll (n : Nat) {xs bs : List Bytes} (o : OnCall d s mac c (underway isn cap m) h)
    (hb : List.Forall₂ (BringsData s) xs bs)
    (hx : ∀ x ∈ xs, x ≠ [] ∧ x.length ≤ min cap h.config.maxSegment) :
    ∃ h', (∀ bs', after? (n + 1) (receipts d (bs ++ bs')) h = after? (n + 1) (receipts d bs') h') ∧
      OnCall d s mac c (underway isn cap (m + xs.flatten.length)) h' ∧
      Speaks d s mac (echoed isn (windowOf cap) m xs) h h' := by
  induction hb generalizing m h with
  | nil => exact ⟨h, fun _ => rfl, by simpa using o, speaks_lent h.lent h⟩
  | @cons x b xs bs hxb _ ih =>
    obtain ⟨hx₁, hx₂⟩ := List.forall_mem_cons.mp hx
    obtain ⟨h₁, hh, o₁⟩ := o.hearsData (n := n) hxb hx₁.1 hx₁.2
    have hc : h₁.config = h.config := Utters.config hh.speaks
    obtain ⟨h₂, ha, o₂, u₂⟩ := ih o₁ (by rwa [hc])
    refine ⟨h₂, fun bs' => ?_, ?_, hh.speaks.trans u₂⟩
    · rw [List.cons_append, hh.after?, ha]
    · rwa [List.flatten_cons, List.length_append, ← Nat.add_assoc]

/-- **The peer's side of a stream**: frames that open it, bring its data and close it. -/
structure Visit (s : Stream) (isn : SeqNum) (xs : List Bytes) (syn ack : Bytes) (bs : List Bytes)
    (fin last : Bytes) : Prop where
  syn : ∃ g, Brings s syn g ∧ g.flags = .syn ∧ g.seq = isn
  ack : ∃ g, Brings s ack g ∧ g.flags = .ack ∧ g.payload = []
  data : List.Forall₂ (BringsData s) xs bs
  fin : ∃ g, Brings s fin g ∧ g.flags = .fin ||| .ack ∧ g.payload = []
  last : ∃ g, Brings s last g ∧ g.flags = .ack

/-- **The echo service is the identity on streams.** A peer that opens a connection, sends data in any
pieces and closes is answered with exactly `replies`, and the connection is gone then. -/
theorem echo_replies (n : Nat) (i : InTouch d s mac h) (ha : (h.device d).ip = s.here.ip)
    (he : h.Echoes s.here.port) (hn : h.stream? s = none) {xs bs : List Bytes} {syn ack fin last : Bytes}
    (hv : Visit s isn xs syn ack bs fin last)
    (hx : ∀ x ∈ xs, x ≠ [] ∧ x.length ≤ min h.config.receiveBuffer h.config.maxSegment) :
    let ts := replies isn (windowOf h.config.receiveBuffer) xs
    ∃ h', after? (n + 1) (receipts d (syn :: ack :: bs ++ [fin, last])) h = some h' ∧
      Utters d (ts.map fun t => h.segmentFrame d s mac t.1 t.2) h h' ∧
      h'.stream? s = none ∧ ts.flatMap (·.2) = xs.flatten := by
  obtain ⟨h₁, hh₁, o₁⟩ := i.hearsOpening n ha he hn hv.syn
  obtain ⟨h₂, hh₂, o₂⟩ := o₁.hearsAcknowledgement n hv.ack
  have u₂ := hh₁.speaks.trans hh₂.speaks
  obtain ⟨h₃, ha₃, o₃, u₃⟩ := o₂.hearsAll n hv.data (by rwa [Utters.config u₂])
  obtain ⟨h₄, hh₄, o₄⟩ := o₃.hearsFin n hv.fin
  obtain ⟨h₅, hh₅, hn₅⟩ := o₄.hearsLast n rfl hv.last
  refine ⟨h₅, ?_, ?_, hn₅, flatMap_replies ..⟩
  · rw [List.cons_append, hh₁.after?, List.cons_append, hh₂.after?, ha₃, hh₄.after?, hh₅.after?]
    rfl
  · have u := ((u₂.trans u₃).trans hh₄.speaks).trans hh₅.speaks
    rw [Nat.zero_add, List.append_nil, List.append_nil] at u
    exact u

/-- The talker with the echo service, when it knows where 10.0.0.2 is. -/
def echoer : Host := talked [.store ⟨10, 0, 0, 2⟩ ⟨2, 0, 0, 0, 0, 2⟩, .serveEcho]

/-- The host of 10.0.0.2. -/
def visitor : Host := attach { config := {} } { mac := ⟨2, 0, 0, 0, 0, 2⟩, ip := ⟨10, 0, 0, 2⟩ }

/-- The ends of a connection between the two, seen from the talker. -/
def visitor.stream : Stream := ⟨⟨talker.ip, echoPort⟩, ⟨⟨10, 0, 0, 2⟩, 4000⟩⟩

/-- A frame with a segment of the visitor. -/
def visitor.frame (t : Header) (data : Bytes) : Bytes :=
  visitor.segmentFrame 0 ⟨visitor.stream.peer, visitor.stream.here⟩ talker.mac t data

theorem echo_replies_visitor : ∃ h', after? 1 (receipts 0 [visitor.frame ⟨99, 0, .syn, 1000⟩ [],
      visitor.frame ⟨100, 2, .ack, 1000⟩ [],
      visitor.frame ⟨100, 2, .psh ||| .ack, 1000⟩ [104, 105], visitor.frame ⟨102, 4, .ack, 1000⟩ [33],
      visitor.frame ⟨103, 5, .fin ||| .ack, 1000⟩ [], visitor.frame ⟨104, 6, .ack, 1000⟩ []])
        echoer = some h' ∧
    Utters 0 ((replies 99 (windowOf 4096) [[104, 105], [33]]).map fun t =>
      echoer.segmentFrame 0 visitor.stream ⟨2, 0, 0, 0, 0, 2⟩ t.1 t.2) echoer h' ∧
    h'.stream? visitor.stream = none ∧
    (replies 99 (windowOf 4096) [[104, 105], [33]]).flatMap (·.2) = [104, 105, 33] := by
  have hi : InTouch 0 visitor.stream ⟨2, 0, 0, 0, 0, 2⟩ echoer := by
    refine ⟨by decide +kernel, ?_⟩
    unfold Healthy
    decide +kernel
  have hs : echoer = (serveEcho.run (talked [.store ⟨10, 0, 0, 2⟩ ⟨2, 0, 0, 0, 0, 2⟩])).2 := rfl
  have he : echoer.Echoes echoPort := hs ▸ echoes_serveEcho rfl
  have hb : ∀ t {data : Bytes}, data.length ≤ 2 → Brings visitor.stream (visitor.frame t data)
      ⟨4000, echoPort, t.seq, t.ack, t.flags, data⟩ := by
    intro t data hl
    refine brings_segmentFrame rfl _ t ?_
    rw [length_encode]
    unfold Ipv4.headerLength Tcp.headerLength Ipv4.maxLength
    omega
  have hv : Visit visitor.stream 99 [[104, 105], [33]] (visitor.frame ⟨99, 0, .syn, 1000⟩ [])
      (visitor.frame ⟨100, 2, .ack, 1000⟩ [])
      [visitor.frame ⟨100, 2, .psh ||| .ack, 1000⟩ [104, 105], visitor.frame ⟨102, 4, .ack, 1000⟩ [33]]
      (visitor.frame ⟨103, 5, .fin ||| .ack, 1000⟩ []) (visitor.frame ⟨104, 6, .ack, 1000⟩ []) :=
    ⟨⟨_, hb _ (by decide), rfl, rfl⟩, ⟨_, hb _ (by decide), rfl, rfl⟩,
      .cons ⟨_, hb _ (by decide), .inr rfl, rfl⟩ (.cons ⟨_, hb _ (by decide), .inl rfl, rfl⟩ .nil),
      ⟨_, hb _ (by decide), rfl, rfl⟩, ⟨_, hb _ (by decide), rfl⟩⟩
  have hc : echoer.config = {} := by decide +kernel
  have hx : ∀ x ∈ ([[104, 105], [33]] : List Bytes), x ≠ [] ∧
      x.length ≤ min echoer.config.receiveBuffer echoer.config.maxSegment := by
    rw [hc]
    decide
  have h := echo_replies 0 hi (by decide +kernel) he (by decide +kernel) hv hx
  rw [hc] at h
  exact h

end InetHost.Host
