import InetHost.Proofs.Exchange.Dispatch
import InetHost.Proofs.Stream.Answering
import InetHost.Proofs.Stream.Lifecycle

/-!
# What application code asks of a connection

Data or a FIN is sent on a connection, or nothing happens to it. What comes of a request is decided by the
configuration, the connection, the link address of the peer and the device, in this order. A request that
fails can be made again, and it is the same request then.

* `Request`, `Errand`: what is asked, and the segment that it comes to; **`Request.run_act`**: a request
  fails at once, needs nothing, or runs its errand;
* `verdict`: what comes of sending data;
* `Errand.spares`, **`Request.spares`**: who fails has tried to send one segment at most, and that is all;
* `SameConnections h h'`, `Tries h h'`: two hosts with the same connections; some failures on the way from
  one to another. **`Tries.sameConnections`**: failures do not part them;
* `SameConnections.errand`, **`Request.delivers`**: where a request succeeds in the end, it sends what it
  would have sent in the beginning;
* **`Visited.requests`**: all of it.
-/

namespace InetHost

open Tcp

namespace Host

variable {h h₁ h₂ h' : Host} {s : Stream} {data : Bytes} {e : NetError}

/-! ## Requests -/

/-- What application code asks of a connection. -/
inductive Request where
  | send (s : Stream) (data : Bytes)
  | close (s : Stream)
  deriving DecidableEq

/-- A segment to be sent on a connection, and the connection's control block when it went out. -/
structure Errand where
  conn : ConnId
  header : Header
  data : Bytes
  after : Control
  deriving DecidableEq

namespace Request

/-- The ends of the connection. -/
def stream : Request → Stream
  | .send s _ | .close s => s

/-- What the host does about it. -/
def act : Request → Act (Except NetError Unit)
  | .send s data => sendData s data
  | .close s => Host.close s

/-- What a request comes to: a failure, nothing, or a segment. -/
def errand (h : Host) : Request → Except NetError (Option Errand)
  | .send s data =>
    if h.config.maxSegment < data.length then
      .error (.segmentTooLong data.length h.config.maxSegment)
    else
      match h.stream? s with
      | none => .error .noConnection
      | some c =>
        let k := (h.connection c).control
        if k.state.maySend then .ok (some ⟨c, k.dataHeader, data, k.sent data.length⟩)
        else .error (.notSendable s k.state)
  | .close s =>
    match h.stream? s with
    | none => .ok none
    | some c =>
      let k := (h.connection c).control
      .ok (k.closeHeader?.map fun t => ⟨c, t, [], k.closed⟩)

end Request

/-- The segment is sent, and the connection goes on if it went out. -/
def Errand.act (x : Errand) : Act (Except NetError Unit) := do
  let r ← emit x.conn x.header x.data
  if r.toBool then setControl x.conn x.after
  return r

/-- **A request fails at once, needs nothing or runs its errand.** -/
theorem Request.run_act (q : Request) (h : Host) : q.act.run h =
    match q.errand h with
    | .error e => (.error e, h)
    | .ok none => (.ok (), h)
    | .ok (some x) => x.act.run h := by
  cases q with
  | send s data =>
    unfold Request.act Request.errand sendData
    rw [act_get]
    dsimp only
    by_cases hl : h.config.maxSegment < data.length
    · rw [if_pos hl, if_pos hl]
      rfl
    · rw [if_neg hl, if_neg hl]
      cases hc : h.stream? s with
      | none => rfl
      | some c =>
        dsimp only
        by_cases hm : (h.connection c).control.state.maySend = true
        · rw [if_pos hm, if_pos hm]
          rfl
        · rw [if_neg hm, if_neg hm]
          rfl
  | close s =>
    unfold Request.act Request.errand Host.close
    rw [act_get]
    dsimp only
    cases hc : h.stream? s with
    | none => rfl
    | some c =>
      dsimp only
      cases (h.connection c).control.closeHeader? with
      | none => rfl
      | some t => rfl

/-! ## Errands -/

/-- An errand of the connection between the ends `s`, with no more data than fits in a packet. -/
structure Errand.Fits (x : Errand) (h : Host) (s : Stream) : Prop where
  ends : (h.connection x.conn).stream = s
  short : x.data.length ≤ 65495

namespace Errand

variable {x : Errand}

theorem Fits.length_le (f : x.Fits h s) :
    Ipv4.headerLength + (encode s x.header x.data).length ≤ Ipv4.maxLength := by
  have hs := f.short
  rw [length_encode]
  unfold Ipv4.headerLength Ipv4.maxLength Tcp.headerLength
  omega

theorem Fits.run_emit (f : x.Fits h s) : (emit x.conn x.header x.data).run h =
    (sendSegment (some x.conn) (h.connection x.conn).device s x.header x.data).run h := by
  unfold emit
  rw [act_get]
  dsimp only
  rw [f.ends]

/-- **What comes of an errand.** -/
theorem run_act (x : Errand) (h : Host) : x.act.run h =
    let r := (emit x.conn x.header x.data).run h
    (r.1, if r.1.toBool then ((setControl x.conn x.after).run r.2).2 else r.2) := by
  unfold act
  rw [StateT.run_bind]
  generalize (emit x.conn x.header x.data).run h = r
  obtain ⟨r, h'⟩ := r
  cases r with
  | ok => rfl
  | error => rfl

theorem run_act_sent {x : Errand} (hr : (x.act.run h).1 = .ok ()) :
    ((emit x.conn x.header x.data).run h).1 = .ok () ∧ (x.act.run h).2 =
      ((setControl x.conn x.after).run ((emit x.conn x.header x.data).run h).2).2 := by
  rw [run_act] at hr ⊢
  dsimp only at hr ⊢
  rw [hr]
  exact ⟨rfl, rfl⟩

theorem Fits.result_act (f : x.Fits h s) :
    (x.act.run h).1 = h.passage (h.connection x.conn).device s := by
  rw [run_act]
  dsimp only
  rw [f.run_emit]
  exact result_sendSegment f.length_le

/-- **An errand that fails** has tried to send its segment, and that is all. -/
theorem spares (he : (x.act.run h).1 = .error e) : Posts
    [⟨some x.conn, (h.connection x.conn).device, (h.connection x.conn).stream, x.header, x.data⟩] h
    (x.act.run h).2 := by
  have hp : Posts
      [⟨some x.conn, (h.connection x.conn).device, (h.connection x.conn).stream, x.header, x.data⟩] h
      ((emit x.conn x.header x.data).run h).2 := by
    unfold emit
    rw [act_get]
    exact posts_sendSegment ..
  rw [run_act] at he ⊢
  dsimp only at he ⊢
  rw [he]
  exact hp

end Errand

namespace Request

variable {q : Request} {x : Errand}

theorem stream?_of_errand (hq : q.errand h = .ok (some x)) :
    h.stream? q.stream = some x.conn ∧ x.data.length ≤ h.config.maxSegment := by
  cases q with
  | send s data =>
    unfold errand at hq
    dsimp only at hq
    split_ifs at hq with hl
    cases hc : h.stream? s with
    | none =>
      rw [hc] at hq
      cases hq
    | some c =>
      rw [hc] at hq
      dsimp only at hq
      split_ifs at hq
      obtain rfl := Option.some.inj (Except.ok.inj hq)
      exact ⟨hc, Nat.not_lt.mp hl⟩
  | close s =>
    unfold errand at hq
    dsimp only at hq
    cases hc : h.stream? s with
    | none =>
      rw [hc] at hq
      cases hq
    | some c =>
      rw [hc] at hq
      obtain ⟨t, -, rfl⟩ := Option.map_eq_some_iff.mp (Except.ok.inj hq)
      exact ⟨hc, Nat.zero_le _⟩

theorem fits (hv : Visited h) (hq : q.errand h = .ok (some x)) : x.Fits h q.stream := by
  obtain ⟨hc, hl⟩ := stream?_of_errand hq
  refine ⟨(hv.registered hc).2, ?_⟩
  have hm : h.config.mtu.toNat < 65536 := h.config.mtu.toNat_lt
  unfold Config.maxSegment at hl
  omega

/-- **A request that fails** has tried to send one segment at most, and that is all. -/
theorem spares (he : q.act.run h = (.error e, h')) : ∃ l, l.length ≤ 1 ∧ Posts l h h' := by
  have hr := q.run_act h
  rw [he] at hr
  cases hq : q.errand h with
  | error e' =>
    rw [hq] at hr
    obtain rfl : h' = h := congrArg Prod.snd hr
    exact ⟨[], Nat.zero_le 1, .refl h'⟩
  | ok o =>
    rw [hq] at hr
    cases o with
    | none => cases congrArg Prod.fst hr
    | some x =>
      have hx : (x.act.run h).1 = .error e := (congrArg Prod.fst hr).symm
      have hh : h' = (x.act.run h).2 := congrArg Prod.snd hr
      rw [hh]
      exact ⟨[_], Nat.le_refl 1, Errand.spares hx⟩

end Request

/-! ## Attempts -/

/-- **Two hosts have the same connections**, configuration and devices, whatever they know of the link and
whatever their hardware does. -/
structure SameConnections (h h' : Host) : Prop where
  config : h'.config = h.config
  connections : h'.connections = h.connections
  streams : h'.streams = h.streams
  mac : ∀ d, (h'.device d).mac = (h.device d).mac
  ip : ∀ d, (h'.device d).ip = (h.device d).ip

namespace SameConnections

theorem refl (h : Host) : SameConnections h h := ⟨rfl, rfl, rfl, fun _ => rfl, fun _ => rfl⟩

theorem trans (a : SameConnections h h₁) (a' : SameConnections h₁ h') : SameConnections h h' where
  config := a'.config.trans a.config
  connections := a'.connections.trans a.connections
  streams := a'.streams.trans a.streams
  mac d := (a'.mac d).trans (a.mac d)
  ip d := (a'.ip d).trans (a.ip d)

theorem connection (a : SameConnections h h') (c : ConnId) : h'.connection c = h.connection c := by
  unfold Host.connection
  rw [a.connections]

theorem segmentFrame (a : SameConnections h h') (d : DeviceId) (s : Stream) (mac : Mac) (t : Header)
    (data : Bytes) : h'.segmentFrame d s mac t data = h.segmentFrame d s mac t data := by
  unfold Host.segmentFrame packetFrame
  rw [a.config, a.mac, a.ip]

theorem errand (a : SameConnections h h') (q : Request) : q.errand h' = q.errand h := by
  have hs : ∀ s, h'.stream? s = h.stream? s := fun s => by
    unfold Host.stream?
    rw [a.streams]
  cases q with
  | send s data => simp only [Request.errand, a.config, hs, a.connection]
  | close s => simp only [Request.errand, hs, a.connection]

end SameConnections

theorem Posts.sameConnections {l : List Emission} (p : Posts l h h') : SameConnections h h' := by
  obtain ⟨ds, ts, qs, new, rfl, -, -, hd⟩ := p
  exact ⟨rfl, rfl, rfl, fun d => (hd d).1, fun d => (hd d).2⟩

/-- **Attempts that fail**, on whatever connections and with whatever data. Meanwhile the host may hear of
link addresses, and the hardware may fail or take frames. -/
inductive Tries : Host → Host → Prop
  | refl (h : Host) : Tries h h
  | failed {h h₁ h₂ : Host} {e : NetError} (q : Request) (t : Tries h h₁)
    (hq : q.act.run h₁ = (.error e, h₂)) : Tries h h₂
  | meanwhile {h h₁ h₂ : Host} (t : Tries h h₁) (a : SameConnections h₁ h₂) : Tries h h₂

theorem sameConnections_outcomes (d : DeviceId) (l : List (Option Refusal)) (h : Host) :
    SameConnections h { h with devices := h.devices.modify d ({ · with outcomes := l }) } := by
  have hd : ∀ e, let v := ({ h with
      devices := h.devices.modify d ({ · with outcomes := l }) } : Host).device e
      v.mac = (h.device e).mac ∧ v.ip = (h.device e).ip := by
    intro e
    unfold device
    rw [getD_modify]
    split_ifs <;> exact ⟨rfl, rfl⟩
  exact ⟨rfl, rfl, rfl, fun e => (hd e).1, fun e => (hd e).2⟩

/-- **Failures leave a host its connections.** -/
theorem Tries.sameConnections (t : Tries h h') : SameConnections h h' := by
  induction t with
  | refl => exact .refl _
  | failed q t hq ih =>
    obtain ⟨l, -, p⟩ := Request.spares hq
    exact ih.trans p.sameConnections
  | meanwhile t a ih => exact ih.trans a

/-! ## Success -/

theorem utters_setControl (d : DeviceId) (c : ConnId) (k : Control) (h : Host) :
    Utters d [] h ((setControl c k).run h).2 := by
  obtain ⟨new, hj, hn⟩ := run_setControl c k h
  rw [hj]
  refine utters_of_eq rfl rfl rfl ⟨new, rfl, fun e he => ?_⟩
  rw [hn e he]
  rfl

/-- **What an errand comes to in the end**: one frame goes to the peer, and the connection goes on. -/
structure Delivers (x : Errand) (s : Stream) (h h₁ h₂ : Host) : Prop where
  sent : ∃ mac, h₁.arp.get? s.peer.ip = some mac ∧
    let d := (h.connection x.conn).device
    Utters d [h.segmentFrame d s mac x.header x.data] h₁ h₂
  next : h₂.connections = h.connections.modify x.conn ({ · with control := x.after })

/-- **An errand that succeeds sends the same on hosts with the same connections.** -/
theorem Errand.Fits.delivers {x : Errand} (f : x.Fits h s) (a : SameConnections h h₁)
    (hr : x.act.run h₁ = (.ok (), h₂)) : Delivers x s h h₁ h₂ := by
  have f₁ : x.Fits h₁ s := ⟨by rw [a.connection, f.ends], f.short⟩
  obtain ⟨hr₁, hh⟩ := Errand.run_act_sent (congrArg Prod.fst hr)
  have hh₂ : h₂ = (x.act.run h₁).2 := (congrArg Prod.snd hr).symm
  rw [hh₂, hh]
  rw [f₁.run_emit] at hr₁ ⊢
  obtain ⟨mac, hm, hu⟩ := utters_sendSegment f₁.length_le hr₁
  have hp := posts_sendSegment (some x.conn) (h₁.connection x.conn).device s x.header x.data h₁
  generalize ((sendSegment (some x.conn) (h₁.connection x.conn).device s x.header x.data).run h₁).2 =
    h₂ at hu hp
  refine ⟨⟨mac, hm, ?_⟩, ?_⟩
  · have hu' := hu.trans (utters_setControl _ x.conn x.after h₂)
    rwa [a.connection, a.segmentFrame] at hu'
  · obtain ⟨new, hs, -⟩ := run_setControl x.conn x.after h₂
    rw [hs, ← (a.trans hp.sameConnections).connections]

/-- **Where a request succeeds in the end**, it comes to what it would have come to in the beginning. -/
theorem Request.delivers {q : Request} (hv : Visited h) (t : Tries h h₁)
    (hr : q.act.run h₁ = (.ok (), h₂)) : q.errand h = .ok none ∧ h₂ = h₁ ∨
      ∃ x, q.errand h = .ok (some x) ∧ Delivers x q.stream h h₁ h₂ := by
  have hq := q.run_act h₁
  rw [hr, t.sameConnections.errand] at hq
  cases he : q.errand h with
  | error e =>
    rw [he] at hq
    cases congrArg Prod.fst hq
  | ok o =>
    rw [he] at hq
    cases o with
    | none => exact .inl ⟨rfl, congrArg Prod.snd hq⟩
    | some x => exact .inr ⟨x, rfl, (Request.fits hv he).delivers t.sameConnections hq.symm⟩

/-! ## Verdicts -/

/-- **What comes of sending data**: the first fault counts. -/
def verdict (h : Host) (s : Stream) (data : Bytes) : Except NetError Unit :=
  if h.config.maxSegment < data.length then .error (.segmentTooLong data.length h.config.maxSegment)
  else
    match h.stream? s with
    | none => .error .noConnection
    | some c =>
      if (h.connection c).control.state = .established then h.passage (h.connection c).device s
      else .error (.notSendable s (h.connection c).control.state)

/-- The application may send where a connection is established, and nowhere else. -/
theorem Visited.maySend_iff {c : ConnId} (hv : Visited h) (hc : h.stream? s = some c) :
    (h.connection c).control.state.maySend = true ↔ (h.connection c).control.state = .established := by
  have hs := hv.lifecycle.found s (h.connection c).control.state
    (Option.map_eq_some_iff.mpr ⟨c, hc, rfl⟩)
  revert hs
  cases (h.connection c).control.state <;> simp [State.maySend]

theorem Visited.result_sendData (hv : Visited h) (s : Stream) (data : Bytes) :
    ((sendData s data).run h).1 = h.verdict s data := by
  have hr : (sendData s data).run h = _ := (Request.send s data).run_act h
  have hf := @Request.fits h (.send s data)
  rw [hr]
  unfold verdict
  unfold Request.errand at hf ⊢
  dsimp only at hf ⊢
  by_cases hl : h.config.maxSegment < data.length
  · rw [if_pos hl, if_pos hl]
  · rw [if_neg hl] at hf ⊢
    rw [if_neg hl]
    cases hc : h.stream? s with
    | none => rfl
    | some c =>
      rw [hc] at hf
      dsimp only at hf ⊢
      by_cases hm : (h.connection c).control.state.maySend = true
      · rw [if_pos hm, if_pos ((hv.maySend_iff hc).mp hm)]
        rw [if_pos hm] at hf
        exact (hf hv rfl).result_act
      · rw [if_neg hm, if_neg fun he => hm ((hv.maySend_iff hc).mpr he)]

/-- A connection that is not open needs no FIN. -/
theorem run_close_idle (hn : ∀ st, h.stateOf s = some st → st ≠ .synReceived ∧ st ≠ .established) :
    (close s).run h = (.ok (), h) := by
  have hr : (close s).run h = _ := (Request.close s).run_act h
  rw [hr]
  unfold Request.errand
  dsimp only
  cases hc : h.stream? s with
  | none => rfl
  | some c =>
    obtain ⟨h₁, h₂⟩ := hn _ (Option.map_eq_some_iff.mpr ⟨c, hc, rfl⟩)
    have hk : (h.connection c).control.closeHeader? = none := by
      unfold Control.closeHeader?
      revert h₁ h₂
      cases (h.connection c).control.state <;> simp [State.mayClose]
    dsimp only
    rw [hk]
    rfl

theorem kind_verdict (h : Host) (s : Stream) (data : Bytes) :
    (h.verdict s data).mapError NetError.kind =
      if h.config.mtu.toNat - 40 < data.length then .error .invalidInput
      else
        match h.stream? s with
        | none => .error .notConnected
        | some c =>
          if (h.connection c).control.state ≠ .established then .error .notConnected
          else if h.arp.get? s.peer.ip = none then .error .notFound
          else (h.device (h.connection c).device).face.result.mapError NetError.kind := by
  unfold verdict passage Config.maxSegment
  by_cases hl : h.config.mtu.toNat - 40 < data.length
  · rw [if_pos hl, if_pos hl]
    rfl
  · rw [if_neg hl, if_neg hl]
    cases h.stream? s with
    | none => rfl
    | some c =>
      dsimp only
      by_cases hs : (h.connection c).control.state = .established
      · rw [if_pos hs, if_neg (not_not_intro hs)]
        cases h.arp.get? s.peer.ip with
        | none => rfl
        | some mac => rfl
      · rw [if_neg hs, if_pos hs]
        rfl

/-! ## Requests of hosts -/

/-- **What a host makes of requests.** -/
structure Requests (h : Host) : Prop where
  /-- Sending fails with the first fault that there is: the data is longer than a segment may be, the
  connection is not established, the peer's link address is not known, or the device refuses the frame. -/
  outcome : ∀ s data, ((sendData s data).run h).1 = h.verdict s data
  sorts : ∀ s data, ((sendData s data).run h).1.mapError NetError.kind =
    if h.config.mtu.toNat - 40 < data.length then .error .invalidInput
    else
      match h.stream? s with
      | none => .error .notConnected
      | some c =>
        if (h.connection c).control.state ≠ .established then .error .notConnected
        else if h.arp.get? s.peer.ip = none then .error .notFound
        else (h.device (h.connection c).device).face.result.mapError NetError.kind
  /-- Nothing is done about closing a connection that is not open. -/
  idle : ∀ {s}, (∀ st, h.stateOf s = some st → st ≠ .synReceived ∧ st ≠ .established) →
    (close s).run h = (.ok (), h)
  /-- A request that fails has tried to send one segment at most, and that is all. -/
  spared : ∀ {q : Request} {e h'}, q.act.run h = (.error e, h') → ∃ l, l.length ≤ 1 ∧ Posts l h h'
  /-- A request that succeeds after some failures comes to what it would have come to before them. -/
  retried : ∀ {q : Request} {h₁ h₂}, Tries h h₁ → q.act.run h₁ = (.ok (), h₂) →
    q.errand h = .ok none ∧ h₂ = h₁ ∨
      ∃ x, q.errand h = .ok (some x) ∧ Delivers x q.stream h h₁ h₂
  /-- It sends the same and leaves the same connections as one that succeeds without failures, if the
  peer has the same link address. -/
  same : ∀ {q : Request} {h₁ h₂ u₁ u₂}, Tries h h₁ → SameConnections h u₁ →
    h₁.arp.get? q.stream.peer.ip = u₁.arp.get? q.stream.peer.ip →
    q.act.run h₁ = (.ok (), h₂) → q.act.run u₁ = (.ok (), u₂) →
    h₂.connections = u₂.connections ∧ ∃ d fs, Utters d fs h₁ h₂ ∧ Utters d fs u₁ u₂

/-- Hosts that have come to the same errand, and know the same link address, send the same. -/
theorem Delivers.same {x : Errand} {u₁ u₂ : Host} (r : Delivers x s h h₁ h₂)
    (r' : Delivers x s h u₁ u₂) (ha : h₁.arp.get? s.peer.ip = u₁.arp.get? s.peer.ip) :
    h₂.connections = u₂.connections ∧ ∃ d fs, Utters d fs h₁ h₂ ∧ Utters d fs u₁ u₂ := by
  obtain ⟨mac, hm, hu⟩ := r.sent
  obtain ⟨mac', hm', hu'⟩ := r'.sent
  obtain rfl : mac = mac' := by
    rw [ha, hm'] at hm
    exact (Option.some.inj hm).symm
  exact ⟨r.next.trans r'.next.symm, _, _, hu, hu'⟩

/-- **Requests fail by the first fault and may be made again**, as if they had not failed. -/
theorem Visited.requests (hv : Visited h) : Requests h where
  outcome := hv.result_sendData
  sorts s data := by rw [hv.result_sendData, kind_verdict]
  idle := run_close_idle
  spared := Request.spares
  retried := Request.delivers hv
  same {q h₁ h₂ u₁ u₂} t a ha hr hr' := by
    have hd := Request.delivers hv t hr
    have hd' := Request.delivers hv (.meanwhile (.refl h) a) hr'
    rcases hd with ⟨hn, rfl⟩ | ⟨x, hx, hd⟩
    · rcases hd' with ⟨-, rfl⟩ | ⟨x, hx, -⟩
      · have hc := t.sameConnections.connections.trans a.connections.symm
        exact ⟨hc, 0, [], .refl 0 _, .refl 0 _⟩
      · cases hn.symm.trans hx
    · rcases hd' with ⟨hn, rfl⟩ | ⟨x', hx', hd'⟩
      · cases hn.symm.trans hx
      · obtain rfl : x = x' := Option.some.inj (Except.ok.inj (hx.symm.trans hx'))
        exact hd.same hd' ha

/-- A host with an established connection, whose device fails. -/
def obstructed : Host := talked
  [.store ⟨10, 0, 0, 2⟩ ⟨2, 0, 0, 0, 0, 2⟩, .serveEcho, fromPeer ⟨99, 0, .syn, 1000⟩ [],
    fromPeer ⟨100, 2, .ack, 1000⟩ [], .setFailure 0 (some { kind := .wouldBlock })]

theorem visited_obstructed : Visited obstructed := visited_talked (by decide +kernel)

/-- Its application wants to send two bytes. -/
def obstructed.request : Request := .send respondent.stream [104, 105]

/-- The host when a request was made of it, and a device works again. -/
def regained (h : Host) (q : Request) (d : DeviceId) : Host :=
  let h' := (q.act.run h).2
  { h' with devices := h'.devices.modify d ({ · with outcomes := [] }) }

theorem run_act_eq {q : Request} {r : Except NetError Unit} (hr : (q.act.run h).1 = r) :
    q.act.run h = (r, (q.act.run h).2) := Prod.ext hr rfl

theorem tries_regained {q : Request} (he : (q.act.run h).1 = .error e) (d : DeviceId) :
    Tries h (h.regained q d) :=
  .meanwhile (.failed q (.refl h) (run_act_eq he)) (sameConnections_outcomes d [] _)

theorem obstructed_fails :
    (obstructed.request.act.run obstructed).1 = .error (.refused { kind := .wouldBlock }) ∧
    (obstructed.request.act.run (obstructed.regained obstructed.request 0)).1 = .ok () ∧
    obstructed.request.errand obstructed ≠ .ok none := by
  decide +kernel

/-- When the device works again, the same bytes are sent as if it had never failed. -/
theorem requests_obstructed : Visited obstructed ∧
    let h₁ := obstructed.regained obstructed.request 0
    (obstructed.request.act.run obstructed).1 = .error (.refused { kind := .wouldBlock }) ∧
    Tries obstructed h₁ ∧ ∃ x h₂, obstructed.request.errand obstructed = .ok (some x) ∧
      obstructed.request.act.run h₁ = (.ok (), h₂) ∧
      Delivers x obstructed.request.stream obstructed h₁ h₂ := by
  obtain ⟨he, ho, hn⟩ := obstructed_fails
  have t := tries_regained he 0
  have hs := run_act_eq ho
  have r := Visited.requests visited_obstructed
  obtain ⟨x, hx, hd⟩ := (r.retried t hs).resolve_left fun hr => hn hr.1
  exact ⟨visited_obstructed, he, t, x, _, hx, hs, hd⟩

end Host

end InetHost
