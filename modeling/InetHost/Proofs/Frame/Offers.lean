import InetHost.Proofs.Frame.Proper
import InetHost.Proofs.Stream.Life

/-!
# Frames that are offered

Whatever a host is used for, the frames that it offers to its devices are well-formed. Chores are one
part of it; here are the acts on connections, whose segments go out between the address of a device and
that of a peer, and from both parts every run.

* `Offers`: what a host keeps to with its frames;
* `Proper.settle`, `Proper.receiveOn`, …: one lemma for each act on connections;
* **`Visited.offers`**: every host keeps to it.
-/

namespace InetHost.Host

open Tcp Switchboard

variable {α β : Type} {h : Host} {c : ConnId}

/-- **One step after another.** The second starts at a host that is proper too. -/
theorem KeepsProper.bind {x : Act α} {f : α → Act β} (hx : Does KeepsProper h x)
    (hf : ∀ a h', KeepsProper h h' → Does KeepsProper h' (f a)) : Does KeepsProper h (x >>= f) :=
  KeepsProper.trans hx (hf _ _ hx)

theorem KeepsProper.next {x : Act α} {f : α → Run β} (hx : Does KeepsProper h x)
    (hf : ∀ a h', KeepsProper h h' → Within (fun _ => KeepsProper) h' (f a)) :
    Within (fun _ => KeepsProper) h (liftM x >>= f) :=
  KeepsProper.trans hx (hf _ _ hx)

theorem KeepsProper.then {x : Run α} {f : α → Run β} (hx : Within (fun _ => KeepsProper) h x)
    (hf : ∀ a h', KeepsProper h h' → Within (fun _ => KeepsProper) h' (f a)) :
    Within (fun _ => KeepsProper) h (x >>= f) := by
  unfold Within at hx hf ⊢
  rw [run_bind]
  cases hr : x.run h with
  | mk r h' =>
    rw [hr] at hx
    cases r with
    | none => exact hx
    | some a => exact hx.trans (hf a h' hx)

/-! ## Sending segments -/

theorem Proper.note (hp : Proper h) (n : Notice) : Does KeepsProper h (note n) := hp.record rfl

theorem Proper.located (hp : Proper h) (hc : c < h.connections.length) :
    (h.device (h.connection c).device).ip = (h.connection c).stream.here.ip := by
  have hl := hp.placed.located c (by rwa [length_lines_board])
  rwa [address_board, line_board] at hl

theorem Proper.registered (hp : Proper h) {s : Stream} (hs : h.stream? s = some c) :
    c < h.connections.length := by
  have hl := hp.placed.registered s c hs
  rwa [length_lines_board] at hl

theorem Proper.sendSegment (hp : Proper h) {d : DeviceId} {s : Stream}
    (hd : (h.device d).ip = s.here.ip) (o : Option ConnId) (t : Header) (data : Bytes) :
    Does KeepsProper h (sendSegment o d s t data) := by
  have hs : Does KeepsProper h
      (sendPacket (.withRoom headroom (Tcp.encode s t data)) Ipv4.tcp s.peer.ip d) := by
    refine hp.chores (X := Sends) id (chores_sendPacket fun mac hr => .inr ?_)
    refine wellFormed_packetFrame hr ?_
    rw [hd]
    exact message_segment s t data
  exact KeepsProper.bind hs fun r h' g => KeepsProper.bind (g.proper.record rfl) fun _ _ g => g.proper.refl

theorem Proper.answer (hp : Proper h) {d : DeviceId} {s : Stream}
    (hd : (h.device d).ip = s.here.ip) (o : Option ConnId) (t : Header) :
    Does KeepsProper h (answer o d s t) := by
  refine KeepsProper.bind (hp.sendSegment hd o t []) fun r h' g => ?_
  split
  · exact g.proper.refl
  · exact g.proper.note _

theorem Proper.answerOn (hp : Proper h) (hc : c < h.connections.length) (t : Header) :
    Does KeepsProper h (answerOn c t) := by
  refine Does.get ?_
  exact hp.answer (hp.located hc) (some c) t

/-! ## Acts on connections -/

theorem keepsLink_setControl (c : ConnId) (k : Control) (h : Host) : Does KeepsLink h (setControl c k) := by
  refine Does.get (Does.bind (x := modify _) ?_ ?_)
  · exact keepsLink_of_eq rfl rfl rfl rfl rfl
  · split
    · exact Does.pure _
    · exact keepsLink_record rfl

theorem Proper.setControl (hp : Proper h) (c : ConnId) (k : Control) :
    Does KeepsProper h (setControl c k) := by
  refine hp.acts (c := c) (keepsLink_setControl c k h) ?_
  rw [board_setControl]
  exact acts_setControl ..

theorem keepsLink_removeStream (s : Stream) (c : ConnId) (h : Host) :
    Does KeepsLink h (removeStream s c) := by
  refine Does.get ?_
  split
  · exact Does.pure _
  · refine Does.bind (x := modify _) ?_ (keepsLink_record rfl)
    exact keepsLink_of_eq rfl rfl rfl rfl rfl

theorem Proper.removeStream (hp : Proper h) (s : Stream) (c : ConnId) :
    Does KeepsProper h (removeStream s c) := by
  refine hp.acts (c := c) (keepsLink_removeStream s c h) ?_
  rw [board_removeStream]
  exact acts_remove ..

theorem Proper.report (hp : Proper h) (o : Option Notice) : Does KeepsProper h (o.forM Host.note) := by
  cases o with
  | none => exact hp.refl
  | some n => exact hp.note n

theorem Proper.steer (hp : Proper h) (c : ConnId) (f : Control → Control × Outcome) :
    Does KeepsProper h (steer c f) := by
  refine Does.get ?_
  dsimp only
  refine KeepsProper.bind (hp.setControl c _) fun _ h' g => ?_
  split
  · refine KeepsProper.bind (g.proper.record rfl) fun _ _ g => ?_
    refine KeepsProper.bind (g.proper.report _) fun _ _ g => g.proper.refl
  · refine KeepsProper.bind (g.proper.report _) fun _ _ g => g.proper.refl

theorem Proper.settle (hp : Proper h) (hc : c < h.connections.length) (o : Outcome) :
    Does KeepsProper h (settle c o) := by
  have hr : Does KeepsProper h (o.reply.forM (Host.answerOn c)) := by
    cases o.reply with
    | none => exact hp.refl
    | some t => exact hp.answerOn hc t
  refine KeepsProper.bind hr fun _ h' g => ?_
  split
  · refine Does.get (KeepsProper.bind (g.proper.note _) fun _ _ g => ?_)
    exact g.proper.removeStream _ c
  · exact g.proper.refl

theorem keepsLink_openStream (s : Stream) (d : DeviceId) (service : StreamService) (isn : SeqNum)
    (k : Control) (h : Host) : Does KeepsLink h (openStream s d service isn k) := by
  refine Does.get (Does.bind (x := modify _) ?_ (Does.bind ?_ ?_))
  · exact keepsLink_of_eq rfl rfl rfl rfl rfl
  · cases h.stream? s with
    | none => exact Does.pure _
    | some old => exact keepsLink_record rfl
  · exact Does.bind (keepsLink_record rfl) (Does.pure _)

theorem Proper.openStream (hp : Proper h) {s : Stream} {d : DeviceId}
    (hd : (h.device d).ip = s.here.ip) (service : StreamService) (isn : SeqNum) (k : Control) :
    Does KeepsProper h (openStream s d service isn k) := by
  have hb := board_openStream s d service isn k h
  refine hp.of_keepsLink (keepsLink_openStream ..) ?_ ?_
  · rw [← length_lines_board, ← length_lines_board, hb, lines_place]
    simp
  · rw [hb]
    exact hp.placed.place (by rwa [address_board]) isn k

theorem Proper.connect (hp : Proper h) {s : Stream} {d : DeviceId}
    (hd : (h.device d).ip = s.here.ip) (service : StreamService) (isn : SeqNum) (k : Control)
    (t : Header) : Within (fun _ => KeepsProper) h (do
      Host.answerOn (← Host.openStream s d service isn k) t : Run Unit) := by
  have hb := board_openStream s d service isn k h
  have hg := hp.openStream hd service isn k
  have hl : h.connections.length <
      ((Host.openStream s d service isn k).run h).2.connections.length := by
    rw [← length_lines_board, ← length_lines_board, hb, lines_place]
    simp
  have hc : ((Host.openStream s d service isn k).run h).1 = h.connections.length := rfl
  rw [← hc] at hl
  have ha := KeepsProper.trans hg (hg.proper.answerOn hl t)
  rw [Within, run_act, run_lift]
  exact ha

theorem Proper.advance (hp : Proper h) (hc : c < h.connections.length) (t : Header) (data : Bytes)
    (k : Control) :
    Does KeepsProper h (do
      let r ← emit c t data
      if r.toBool then Host.setControl c k
      return r : Act (Except NetError Unit)) := by
  have he : Does KeepsProper h (emit c t data) := by
    refine Does.get ?_
    exact hp.sendSegment (hp.located hc) (some c) t data
  refine KeepsProper.bind he fun r h' g => ?_
  split
  · exact KeepsProper.bind (g.proper.setControl c k) fun _ _ g => g.proper.refl
  · exact g.proper.refl

theorem Proper.sendData (hp : Proper h) (s : Stream) (data : Bytes) :
    Does KeepsProper h (sendData s data) := by
  refine Does.get ?_
  split
  · exact hp.refl
  · split
    · exact hp.refl
    · rename_i c hs
      dsimp only
      split
      · exact hp.advance (hp.registered hs) _ data _
      · exact hp.refl

theorem Proper.close (hp : Proper h) (s : Stream) : Does KeepsProper h (close s) := by
  refine Does.get ?_
  split
  · exact hp.refl
  · rename_i c hs
    dsimp only
    split
    · exact hp.refl
    · exact hp.advance (hp.registered hs) _ [] _

/-! ## Segments that come in -/

section Application

variable {app : Application} (ha : ∀ k h, Proper h → Within (fun _ => KeepsProper) h (app k))

include ha

theorem Proper.receiveOn (hp : Proper h) (hc : c < h.connections.length) (seg : Segment) :
    Within (fun _ => KeepsProper) h (receiveOn app c seg) := by
  refine KeepsProper.next (hp.steer c _) fun o h₁ g₁ => ?_
  refine KeepsProper.next (g₁.proper.settle (Nat.lt_of_lt_of_le hc g₁.length) o) fun _ h₂ g₂ => ?_
  have hc₂ := Nat.lt_of_lt_of_le hc (g₁.trans g₂).length
  have hf : ∀ h₃, KeepsProper h₂ h₃ → Within (fun _ => KeepsProper) h₃ (do
      Host.settle c (← Host.steer c (·.finish o.fin)) : Run Unit) := fun h₃ g₃ =>
    KeepsProper.next (g₃.proper.steer c _) fun o' h₄ g₄ =>
      g₄.proper.settle (Nat.lt_of_lt_of_le hc₂ (g₃.trans g₄).length) o'
  split
  · exact g₂.proper.refl
  · split
    · exact hf h₂ g₂.proper.refl
    · refine KeepsProper.next (g₂.proper.record rfl) fun _ h₃ g₃ => ?_
      exact KeepsProper.then (ha _ h₃ g₃.proper) fun _ h₄ g₄ => hf h₄ (g₃.trans g₄)

omit ha in
theorem Proper.reset (hp : Proper h) {d : DeviceId} {s : Stream} (hd : (h.device d).ip = s.here.ip)
    (seg : Segment) : Within (fun _ => KeepsProper) h (acceptStream.reset d s seg) := by
  refine KeepsProper.next (hp.note _) fun _ h₁ g => ?_
  exact Within.lift (g.proper.answer ((g.ip d).trans hd) none (.reset seg.flags seg.seq seg.ack))

theorem Proper.acceptStream (hp : Proper h) {d : DeviceId} {s : Stream}
    (hd : (h.device d).ip = s.here.ip) (seg : Segment) :
    Within (fun _ => KeepsProper) h (acceptStream app d s seg) := by
  refine Within.get ?_
  split
  · split
    · exact hp.reset hd seg
    · refine KeepsProper.then (ha _ h hp) fun _ h₁ g₁ => Within.get ?_
      dsimp only
      cases Control.accept seg.seq h₁.config.receiveBuffer with
      | mk k t => exact g₁.proper.connect ((g₁.ip d).trans hd) _ _ k t
  · exact hp.reset hd seg

theorem Proper.receiveSegment (hp : Proper h) (d : DeviceId) (b : Bytes) (src : Ip) :
    Within (fun _ => KeepsProper) h (receiveSegment app d b src) := by
  unfold Host.receiveSegment
  split
  · exact hp.note _
  · rename_i seg _
    refine Within.get ?_
    dsimp only
    generalize hs : (⟨⟨(h.device d).ip, seg.dstPort⟩, ⟨src, seg.srcPort⟩⟩ : Stream) = s
    have hd : (h.device d).ip = s.here.ip := by rw [← hs]
    refine KeepsProper.next (hp.record rfl) fun _ h₁ g₁ => ?_
    split
    · rename_i c hc
      exact g₁.proper.receiveOn ha (Nat.lt_of_lt_of_le (hp.registered hc) g₁.length) seg
    · split_ifs
      · exact g₁.proper.refl
      · exact g₁.proper.acceptStream ha ((g₁.ip d).trans hd) seg
      · exact g₁.proper.note _

end Application

/-! ## Every run -/

theorem covers_keepsProper : Covers fun _ h h' => Proper h → KeepsProper h h' where
  refl _ hp := hp.refl
  cut _ hp := hp.refl
  trans h₁₂ h₂₃ hp := (h₁₂ hp).trans (h₂₃ (h₁₂ hp).proper)
  chore hc hp := hp.chore False.elim hc
  call _ he hp := hp.record (Event.onLink_of_isCall he)
  receive _ d b src _ ha hp := hp.receiveSegment (fun k h hp => ha k h hp) d b src
  send s data _ hp := hp.sendData s data
  close s _ hp := hp.close s
  polling hc hp := hp.of_keepsLinkAndBoard (keepsLinkAndBoard_polling hc)

theorem proper_start {s : Setup} (hs : start s = .ok h) : Proper h := by
  have hf := fresh_start hs
  obtain ⟨hl, hs, -⟩ := board_start hs
  refine ⟨⟨fun s c hc => ?_, fun c hc => ?_⟩, ?_, fun e he => ?_, ?_⟩
  · unfold Switchboard.stream? at hc
    rw [hs] at hc
    cases hc
  · rw [hl] at hc
    cases hc
  · funext ip
    unfold Arp.Table.get?
    rw [hf.arp, hf.journal]
    rfl
  · rw [hf.owners] at he
    cases he
  · rw [hf.journal]
    exact .nil

/-- **What a host keeps to with its frames.** -/
structure Offers (h : Host) : Prop where
  /-- The table holds the link addresses that were stored last. -/
  table : ∀ ip, h.arp.get? ip = resolved h.journal ip
  /-- A frame that a device was asked to send is well-formed, unless it is the application's own. -/
  frames : ∀ {newer older d f r}, h.journal = newer ++ .offered d f r :: older →
    older.head? = some (.crafting d) ∨
      WellFormed h.config.ttl (h.device d).mac (h.device d).ip (resolved older) f

theorem Visited.proper (hv : Visited h) : Proper h := by
  obtain ⟨s, h₀, e, hs, hl⟩ := hv
  exact (covers_keepsProper.leads hl (proper_start hs)).proper

/-- **Every frame that a host makes is well-formed**, at all times. -/
theorem Visited.offers (hv : Visited h) : Offers h where
  table ip := congrFun hv.proper.table ip
  frames hj := hv.proper.frames.at hj

theorem offers_conversation :
    (conversation.journal.filter Event.onLink).length = 4 ∧ Offers conversation :=
  ⟨by decide +kernel, visited_conversation.offers⟩

end InetHost.Host
