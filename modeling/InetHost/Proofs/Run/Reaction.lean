import InetHost.Proofs.Frame.Grammar
import InetHost.Proofs.Run.Deed
import InetHost.Proofs.Run.Ends

/-!
# What a host does of itself

A host that receives something answers it: it sends frames of a few kinds, changes its connections and
calls the application. It adds no listener, puts no job on a queue but the tasks of its devices, and sends
no frame of the application's making.

* `OwnFrame`: the frames that a host sends of itself. `E` stands for the messages that it may be asked to echo;
* `Reaction`, `Reactions`: what it does of itself, in small steps;
* `reactions_sendPacket`, `reactions_settle`, …: one lemma for each act;
* `Judges E J`: the judgement `J` on runs can be put together from such steps;
* **`Judges.receiveFrame`**: what holds of calls of the application holds of receiving a frame;
* **`Judges.answerCall`**: what holds of the operations of its code holds of a call.
-/

namespace InetHost.Host

open Tcp

variable {α β : Type} {E : Bytes → Prop} {h h' : Host} {d : DeviceId} {c : ConnId}

/-! ## Steps -/

/-- The frames that a host sends of itself. -/
inductive OwnFrame (E : Bytes → Prop) (h : Host) (d : DeviceId) : Bytes → Prop
  | arp (dst : Mac) (op : UInt16) (mac : Mac) (ip : Ip) : OwnFrame E h d (h.arpFrame d dst op mac ip)
  | echo (dst : Ip) (mac : Mac) (b : Bytes) (hl : Icmp.headerLength ≤ b.length) (hb : E b) :
    OwnFrame E h d (h.packetFrame d Ipv4.icmp dst mac (Icmp.echoReply b))
  | datagram (f : Flow) (mac : Mac) (data : Bytes) (hd : data.length ≤ h.config.maxDatagram) :
    OwnFrame E h d (h.packetFrame d Ipv4.udp f.dst.ip mac (Udp.encode f data))
  | segment (s : Stream) (mac : Mac) (t : Header) (data : Bytes)
    (hd : data.length ≤ h.config.maxSegment) :
    OwnFrame E h d (h.packetFrame d Ipv4.tcp s.peer.ip mac (encode s t data))

/-- Something that a host does of itself. -/
inductive Reaction (E : Bytes → Prop) (h : Host) : Host → Prop
  | remark (e : Event) (he : e.isRemark = true) : Reaction E h ((record e).run h).2
  | enter (e : Event) (he : e.onBoard = true) : Reaction E h ((record e).run h).2
  | offer (d : DeviceId) (f : Bytes) (hf : OwnFrame E h d f) : Reaction E h ((offer d f).run h).2
  | register (d : DeviceId) : Reaction E h ((register d).run h).2
  | store (ip : Ip) (mac : Mac) : Reaction E h ((store ip mac).run h).2
  | control (c : ConnId) (k : Control) :
    Reaction E h { h with connections := h.connections.modify c ({ · with control := k }) }
  /-- A connection is opened for a listener. -/
  | join (k : Connection) (ss : List (Stream × ConnId))
    (hk : ∃ a, k.service = (h.acceptors.getD a default).service) :
    Reaction E h { h with connections := h.connections ++ [k], streams := ss }
  | leave (ss : List (Stream × ConnId)) : Reaction E h { h with streams := ss }
  | lend (l : List DeviceId) : Reaction E h { h with lent := l }
  | countAccept (a n : Nat) :
    Reaction E h { h with acceptors := h.acceptors.modify a ({ · with calls := n }) }
  | countRead (c : ConnId) (n : Nat) :
    Reaction E h { h with connections := h.connections.modify c ({ · with reads := n }) }
  | countNotify (u n : Nat) :
    Reaction E h { h with subscribers := h.subscribers.modify u ({ · with calls := n }) }

/-- Such steps, one after another. -/
abbrev Reactions (E : Bytes → Prop) : Host → Host → Prop := Relation.ReflTransGen (Reaction E)

theorem Reaction.does {x : Act α} (hx : Reaction E h (x.run h).2) : Does (Reactions E) h x :=
  Relation.ReflTransGen.single hx

theorem reactions_note (n : Notice) (hn : (Event.noticed n).isRemark = true := by rfl) :
    Does (Reactions E) h (note n) :=
  Reaction.does (.remark (.noticed n) hn)

theorem reactions_report (r : Except NetError Unit) (n : NetError → Notice)
    (hn : ∀ e, (Event.noticed (n e)).isRemark = true := by exact fun _ => rfl) :
    Does (Reactions E) h (match r with | .ok _ => pure () | .error e => note (n e) : Act Unit) :=
  does_report r fun e => reactions_note (n e) (hn e)

theorem reactions_enter {e : Event} (he : e.onBoard = true) : Does (Reactions E) h (record e) :=
  Reaction.does (.enter e he)

/-! ### Frames -/

theorem reactions_tell (d : DeviceId) (mac : Mac) (ip : Ip) : Does (Reactions E) h (tell d mac ip) :=
  does_tell (Reaction.does (.offer d _ (.arp _ _ _ _)))

theorem reactions_advertise (d : DeviceId) : Does (Reactions E) h (advertise d) :=
  Does.get (reactions_tell d .zero _)

theorem reactions_announce (d : DeviceId) : Does (Reactions E) h (announce d) :=
  Does.bind (Reaction.does (.register d)) (reactions_advertise d)

theorem reactions_lookup (d : DeviceId) (ip : Ip) : Does (Reactions E) h (lookup d ip) :=
  does_lookup (does_askFor (Reaction.does (.offer d _ (.arp _ _ _ _)))) fun _ _ => reactions_note _

theorem reactions_receiveArp (d : DeviceId) (b : Bytes) : Does (Reactions E) h (receiveArp d b) := by
  unfold receiveArp
  split
  · exact reactions_note _
  · rename_i p _
    refine Does.get ?_
    split_ifs
    · exact Does.bind (reactions_tell d _ _) (reactions_report _ (.arpReplyFailed p.senderIp))
    · exact Reaction.does (.store p.senderIp p.senderMac)
    · exact reactions_note _
    · exact Does.pure _

theorem reactions_sendPacket {room : Nat} {m : Bytes} {protocol : UInt8} {dst : Ip}
    (hm : ∀ mac, OwnFrame E h d (h.packetFrame d protocol dst mac m)) :
    Does (Reactions E) h (sendPacket (.withRoom room m) protocol dst d) :=
  does_sendPacket (reactions_lookup d dst) fun mac _ => Reaction.does (.offer d _ (hm mac))

theorem reactions_receiveIcmp {b : Bytes} (hb : E b) (d : DeviceId) (src : Ip) :
    Does (Reactions E) h (receiveIcmp d b src) := by
  unfold receiveIcmp
  split
  · exact reactions_note _
  · rename_i m hm
    obtain ⟨hl, rfl⟩ := Icmp.Message.decode?_eq_some.mp hm
    split_ifs
    · exact Does.bind (reactions_sendPacket fun mac => .echo src mac b hl hb)
        (reactions_report _ (.echoFailed src))
    · exact reactions_note _

theorem reactions_sendDatagram (f : Flow) (data : Bytes) :
    Does (Reactions E) h (sendDatagram f data) := by
  refine Does.get ?_
  split
  · exact Does.pure _
  · split
    · exact Does.pure _
    · rename_i hl
      exact reactions_sendPacket fun mac => .datagram f mac data (Nat.not_lt.mp hl)

/-! ### Segments -/

theorem reactions_sendSegment (o : Option ConnId) (d : DeviceId) (s : Stream) (t : Header)
    {data : Bytes} (hd : data.length ≤ h.config.maxSegment) :
    Does (Reactions E) h (sendSegment o d s t data) := by
  refine Does.bind (reactions_sendPacket fun mac => .segment s mac t data hd) ?_
  exact Does.bind (reactions_enter rfl) (Does.pure _)

theorem reactions_answer (o : Option ConnId) (d : DeviceId) (s : Stream) (t : Header) :
    Does (Reactions E) h (answer o d s t) :=
  Does.bind (reactions_sendSegment o d s t (Nat.zero_le _)) (reactions_report _ (.replyFailed s t.flags))

theorem reactions_answerOn (c : ConnId) (t : Header) : Does (Reactions E) h (answerOn c t) :=
  Does.get (reactions_answer _ _ _ t)

theorem reactions_emit (c : ConnId) (t : Header) {data : Bytes}
    (hd : data.length ≤ h.config.maxSegment) : Does (Reactions E) h (emit c t data) :=
  Does.get (reactions_sendSegment _ _ _ t hd)

/-! ### Connections -/

theorem reactions_setControl (c : ConnId) (k : Control) (h : Host) :
    Does (Reactions E) h (setControl c k) := by
  refine Does.get (Does.bind (x := modify _) (Reaction.does (.control c k)) ?_)
  split
  · exact Does.pure _
  · exact reactions_enter rfl

theorem reactions_removeStream (s : Stream) (c : ConnId) (h : Host) :
    Does (Reactions E) h (removeStream s c) := by
  refine Does.get ?_
  split
  · exact Does.pure _
  · exact Does.bind (x := modify _) (Reaction.does (.leave _)) (reactions_enter rfl)

theorem reactions_openStream (s : Stream) (d : DeviceId) (a : Nat) (isn : SeqNum) (k : Control) :
    Does (Reactions E) h (openStream s d (h.acceptors.getD a default).service isn k) := by
  refine Does.get (Does.bind (x := modify _) (Reaction.does (.join _ _ ⟨a, rfl⟩)) (Does.bind ?_ ?_))
  · cases h.stream? s with
    | none => exact Does.pure ()
    | some old => exact reactions_enter rfl
  · exact Does.bind (reactions_enter rfl) (Does.pure _)

theorem reactions_steer (c : ConnId) {f : Control → Control × Outcome} (hf : ∀ k, Plain (f k).2) :
    Does (Reactions E) h (steer c f) :=
  does_steer (reactions_setControl c _ h) (fun _ => reactions_enter rfl)
    fun n hn _ => reactions_note n (hf _ n hn)

theorem reactions_settle (c : ConnId) (o : Outcome) : Does (Reactions E) h (settle c o) :=
  does_settle (fun t _ => reactions_answerOn c t) (fun _ _ => reactions_note _)
    fun s h => reactions_removeStream s c h

theorem reactions_sendData (s : Stream) (data : Bytes) : Does (Reactions E) h (sendData s data) :=
  does_sendData (fun c t hd => reactions_emit c t hd) reactions_setControl s

theorem reactions_close (s : Stream) : Does (Reactions E) h (close s) :=
  does_close (fun c t => reactions_emit c t (Nat.zero_le _)) reactions_setControl s

/-! ## Runs -/

/-- The application code for a call; none for a service of the host's own. -/
def codeFor (h : Host) : Call → List Op
  | .accept a _ =>
    let l := h.acceptors.getD a default
    match l.service with
    | .echo | .page => []
    | .script accept _ => Script.entry accept l.calls
  | .read c _ => (h.connection c).code
  | .notify u _ _ =>
    let l := h.subscribers.getD u default
    match l.service with
    | .echo => []
    | .script _ notify => Script.entry notify l.calls

/-- **A judgement on runs** that may be put together, and that holds of what the host does of itself. -/
structure Judges (E : Bytes → Prop) (J : {α : Type} → Host → Run α → Prop) : Prop where
  act : ∀ {α : Type} {h : Host} {x : Act α}, Does (Reactions E) h x → J h (liftM x : Run α)
  bind : ∀ {α β : Type} {h : Host} {x : Run α} {f : α → Run β}, J h x →
    (∀ a h', x.run h = (some a, h') → J h' (f a)) → J h (x >>= f)

namespace Judges

variable {J : {α : Type} → Host → Run α → Prop} (hJ : Judges E J)

include hJ

theorem pure (a : α) : J h (pure a : Run α) := hJ.act (x := Pure.pure a) (Does.pure a)

theorem step {x : Act α} {f : α → Run β} (hx : Does (Reactions E) h x) (hf : ∀ a h', J h' (f a)) :
    J h (liftM x >>= f) :=
  hJ.bind (hJ.act hx) fun a h' _ => hf a h'

theorem get {f : Host → Run β} (hf : J h (f h)) : J h (get >>= f) := by
  refine hJ.bind (hJ.act (x := MonadState.get) (Does.pure h)) fun a h' hr => ?_
  cases hr
  exact hf

theorem change {g : Host → Host} {f : PUnit → Run β} (hg : Reaction E h (g h))
    (hf : J (g h) (f ⟨⟩)) : J h (modify g >>= f) := by
  refine hJ.bind (hJ.act (x := modify g) (Reaction.does hg)) fun a h' hr => ?_
  obtain rfl : g h = h' := congrArg Prod.snd hr
  exact hf

theorem lend {x : Run Unit} (hx : ∀ h, J h x) : J h (lend d x) := by
  refine hJ.change (.lend (d :: h.lent)) (hJ.bind (hx _) fun _ h' _ => ?_)
  exact hJ.change (.lend h'.lent.tail) (hJ.pure _)

theorem forM {l : List α} {f : α → Run Unit} (hf : ∀ a ∈ l, ∀ h, J h (f a)) : J h (l.forM f) := by
  induction l generalizing h with
  | nil => exact hJ.pure ()
  | cons a l ih =>
    refine hJ.bind (hf a List.mem_cons_self h) fun _ h' _ => ?_
    exact ih fun b hb => hf b (List.mem_cons_of_mem a hb)

/-! ### Receiving -/

section Application

variable {app : Application} (ha : ∀ k h, J h (app k))

include ha

theorem receiveOn (c : ConnId) (seg : Segment) : J h (receiveOn app c seg) := by
  have hf : ∀ (o : Outcome) h, J h (do settle c (← steer c (·.finish o.fin)) : Run Unit) := by
    intro o h
    refine hJ.step (reactions_steer c fun k => plain_finish k _) fun o' h' => ?_
    exact hJ.act (reactions_settle c o')
  refine hJ.step (reactions_steer c fun k => plain_take k seg) fun o h₁ => ?_
  refine hJ.step (reactions_settle c o) fun _ h₂ => ?_
  split
  · exact hJ.pure _
  · split
    · exact hf o h₂
    · refine hJ.step (reactions_enter rfl) fun _ h₃ => ?_
      exact hJ.bind (ha _ h₃) fun _ h₄ _ => hf o h₄

theorem acceptStream (d : DeviceId) (s : Stream) (seg : Segment) : J h (acceptStream app d s seg) := by
  have hr : ∀ h, J h (acceptStream.reset d s seg) := fun h =>
    hJ.step (reactions_note _) fun _ _ => hJ.act (reactions_answer none d s _)
  refine hJ.get ?_
  split
  · split
    · exact hr h
    · refine hJ.bind (ha _ h) fun _ h₁ _ => hJ.get ?_
      refine hJ.step (reactions_openStream s d _ seg.seq _) fun c h₂ => ?_
      exact hJ.act (reactions_answerOn c _)
  · exact hr h

theorem receiveSegment (d : DeviceId) (b : Bytes) (src : Ip) : J h (receiveSegment app d b src) := by
  unfold Host.receiveSegment
  split
  · exact hJ.act (reactions_note _)
  · refine hJ.get (hJ.step (reactions_enter rfl) fun _ h₁ => ?_)
    split
    · exact hJ.receiveOn ha _ _
    · split_ifs
      · exact hJ.pure _
      · exact hJ.acceptStream ha d _ _
      · exact hJ.act (reactions_note _)

theorem receiveDatagram (d : DeviceId) (b : Bytes) (src : Ip) : J h (receiveDatagram app d b src) := by
  unfold Host.receiveDatagram
  split
  · exact hJ.act (reactions_note _)
  · refine hJ.get ?_
    split
    · exact hJ.act (reactions_note _)
    · exact hJ.forM fun u _ h => ha _ h

theorem receivePacket {b : Bytes} (hb : ∀ p : Ipv4.Packet, p.Reads b → p.protocol = 1 → E p.payload)
    (d : DeviceId) : J h (receivePacket app d b) := by
  refine hJ.step (Reaction.does (.register d)) fun _ h₁ => ?_
  split
  · exact hJ.act (reactions_note _)
  · rename_i p hp
    have hp := Ipv4.Packet.decode_eq_ok.mp hp
    split_ifs with hi
    · exact hJ.act (reactions_receiveIcmp (hb p hp hi) d _)
    · exact hJ.act (reactions_note _)
    · exact hJ.receiveSegment ha d _ _
    · exact hJ.receiveDatagram ha d _ _
    · exact hJ.act (reactions_note _)

theorem receiveFrame {b : Bytes} (hb : ∀ (f : Ethernet.Frame) (p : Ipv4.Packet), f.Reads b →
    f.type = 0x0800 → p.Reads f.payload → p.protocol = 1 → E p.payload) (d : DeviceId) :
    J h (receiveFrame app d b) := by
  unfold Host.receiveFrame
  split
  · exact hJ.act (reactions_note _)
  · rename_i f hf
    have hf := Ethernet.Frame.decode?_eq_some.mp hf
    split_ifs with ht
    · exact hJ.receivePacket ha (fun p => hb f p hf ht) d
    · exact hJ.act (reactions_receiveArp d _)
    · exact hJ.act (reactions_note _)
    · exact hJ.act (reactions_note _)

end Application

/-! ### Application code -/

section Inner

variable {inner : Exec} {ops : List Op}

theorem runScript (hi : ∀ op ∈ ops, ∀ x h, J h (inner x op)) (x : Context) :
    J h (runScript inner x ops) := by
  refine hJ.forM fun op ho h => ?_
  exact hJ.bind (hi op ho x h) fun _ _ _ => hJ.act (reactions_enter rfl)

/-- **A call runs the application's code for it**, or one of the host's own services. -/
theorem answerCall {k : Call} (hi : ∀ op ∈ h.codeFor k, ∀ x h, J h (inner x op)) :
    J h (answerCall inner k) := by
  have hs {x : Act (Except NetError Unit)} {n : NetError → Notice} (hx : Does (Reactions E) h x)
      (hn : ∀ e, (Event.noticed (n e)).isRemark = true := by exact fun _ => rfl) :
      J h (liftM (x >>= fun r => match r with | .ok _ => Pure.pure () | .error e => note (n e)) :
        Run Unit) :=
    hJ.act (Does.bind hx (reactions_report _ n hn))
  cases k with
  | accept a s =>
    refine hJ.get ?_
    dsimp only
    split
    · exact hJ.pure _
    · exact hJ.pure _
    · rename_i accept read hc
      simp only [codeFor, hc] at hi
      refine hJ.change (.countAccept a _) (hJ.step (reactions_enter rfl) fun _ _ => ?_)
      exact hJ.runScript hi _
  | read c data =>
    refine hJ.get ?_
    dsimp only
    split
    · exact hs (reactions_sendData _ data)
    · exact hs (reactions_sendData _ page)
    · rename_i accept read hc
      simp only [codeFor, Connection.code, hc] at hi
      refine hJ.change (.countRead c _) (hJ.step (reactions_enter rfl) fun _ _ => ?_)
      exact hJ.lend fun _ => hJ.runScript hi _
  | notify u f data =>
    refine hJ.get ?_
    dsimp only
    split
    · exact hs (reactions_sendDatagram _ data)
    · rename_i id notify hc
      simp only [codeFor, hc] at hi
      refine hJ.change (.countNotify u _) (hJ.step (reactions_enter rfl) fun _ _ => ?_)
      exact hJ.runScript hi _

end Inner

end Judges

end InetHost.Host
