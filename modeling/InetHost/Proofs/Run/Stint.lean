import InetHost.Proofs.Exchange.Intake
import InetHost.Proofs.Exchange.Learning
import InetHost.Proofs.Run.Deed

/-!
# Stints

Everything that a host does, but for presenting devices, is done in stints. In one stint it sends a segment,
or it does something plain, which presents no device and sends no segment.

* `Plainly`, `Stint`, `Stints`; `stints_sendPacket`, `stints_settle`, …: one lemma for each act;
* `Op.presents`, `presenting`: the device that an operation presents, and the host when it has;
* `Tracks S`: the relation `S` holds of stints, and of frames that were deferred and present their device;
* **`Tracks.perform`**: what holds of the operations inside an operation holds of it, once it has presented
  its device;
* **`preserved_leads`**: what stints and presentations preserve is preserved by every run.
-/

namespace InetHost

/-- An event that is told neither of a presentation nor of a segment that was to be sent. -/
def Event.isPlain : Event → Bool
  | .presented _ | .emitted _ _ _ _ _ _ | .noticed (.registered _) => false
  | _ => true

/-- The bytes are a frame whose content is said to be a packet. -/
def Ethernet.isPacket (b : Bytes) : Bool :=
  match Frame.decode? b with
  | some f => f.type == ipv4Type
  | none => false

theorem Ethernet.isPacket_iff {b : Bytes} :
    isPacket b = true ↔ ∃ f : Frame, f.Reads b ∧ f.type = ipv4Type := by
  unfold isPacket
  simp only [← Frame.decode?_eq_some]
  cases Frame.decode? b with
  | none => simp
  | some f => simp

/-- The device that an operation presents as the owner of its address. A packet presents the device on which
it comes in, whatever it is. -/
def Op.presents (x : Context) : Op → Option DeviceId
  | .register d | .announce d | .receivePacket d _ => some d
  | .receive d b => if Ethernet.isPacket (b.resolve x) then some d else none
  | _ => none

namespace Host

open Tcp

variable {α β : Type} {h h₀ h₁ h' : Host} {d : DeviceId} {b : Bytes} {c : ConnId}

/-! ## Plain steps -/

/-- **No device was presented and no segment was sent.** -/
structure Plainly (h h' : Host) : Prop where
  owners : h'.owners = h.owners
  ip : ∀ d, (h'.device d).ip = (h.device d).ip
  journal : ∃ new, h'.journal = new ++ h.journal ∧ ∀ e ∈ new, e.isPlain = true

theorem Plainly.refl (h : Host) : Plainly h h := ⟨rfl, fun _ => rfl, [], rfl, List.forall_mem_nil _⟩

theorem Plainly.trans (p : Plainly h h₁) (p' : Plainly h₁ h') : Plainly h h' where
  owners := p'.owners.trans p.owners
  ip d := (p'.ip d).trans (p.ip d)
  journal := extends_trans p.journal p'.journal

instance : Std.Refl Plainly := ⟨Plainly.refl⟩

instance : IsTrans Host Plainly := ⟨fun _ _ _ => Plainly.trans⟩

theorem plainly_of_eq (ho : h'.owners = h.owners) (hd : h'.devices = h.devices)
    (hj : h'.journal = h.journal) : Plainly h h' :=
  ⟨ho, fun d => congrArg (fun l : List Device => (l.getD d default).ip) hd, [], hj,
    List.forall_mem_nil _⟩

theorem plainly_record {e : Event} (he : e.isPlain = true) (h : Host) :
    Plainly h ((record e).run h).2 :=
  ⟨rfl, fun _ => rfl, [e], rfl, List.forall_mem_singleton.mpr he⟩

theorem plainly_devices {f : Device → Device} (hf : ∀ v, (f v).mac = v.mac ∧ (f v).ip = v.ip) :
    Plainly h { h with devices := h.devices.modify d f } :=
  ⟨rfl, (keepsLinkAndBoard_devices hf).ip, [], rfl, List.forall_mem_nil _⟩

theorem plainly_put (q : QueueId) (j : Job) (h : Host) : Plainly h ((put q j).run h).2 :=
  ⟨rfl, fun _ => rfl, [.put q j], rfl, List.forall_mem_singleton.mpr rfl⟩

theorem plainly_handling (hh : Handling h h') : Plainly h h' := by
  cases hh with
  | record e he =>
    refine plainly_record ?_ h
    cases e with
    | presented | emitted => cases he
    | noticed n => cases n <;> first | rfl | cases he
    | _ => rfl
  | put q j => exact plainly_put q j h
  | flag => exact plainly_of_eq rfl rfl rfl
  | staged | hardware => exact plainly_devices fun _ => ⟨rfl, rfl⟩

theorem plainly_taken (h : Host) (q : QueueId) (j : Job) (rest : List Job) :
    Plainly h (h.taken q j rest) :=
  ⟨rfl, fun _ => rfl, [.started q j], rfl, List.forall_mem_singleton.mpr rfl⟩

theorem plainly_offer (d : DeviceId) (f : Bytes) : Plainly h ((offer d f).run h).2 :=
  of_handlings plainly_handling (handlings_offer d f)

theorem plainly_lookup (d : DeviceId) (ip : Ip) : Plainly h ((lookup d ip).run h).2 :=
  does_lookup (does_askFor (plainly_offer d _)) fun _ h => plainly_record rfl h

/-- A packet is sent plainly, and a segment is one that is entered in the journal after that. -/
theorem plainly_sendPacket {room : Nat} {m : Bytes} {protocol : UInt8} {dst : Ip} :
    Plainly h ((sendPacket (.withRoom room m) protocol dst d).run h).2 :=
  does_sendPacket (plainly_lookup d dst) fun _ _ => plainly_offer d _

/-! ## Stints -/

/-- Something that a host does. -/
inductive Stint (h : Host) : Host → Prop
  | plain {h' : Host} (hp : Plainly h h') : Stint h h'
  | segment (c : Option ConnId) (d : DeviceId) (s : Stream) (t : Header) (data : Bytes) :
    Stint h ((sendSegment c d s t data).run h).2

/-- Such stints, one after another. -/
abbrev Stints : Host → Host → Prop := Relation.ReflTransGen Stint

theorem Plainly.stints (hp : Plainly h h') : Stints h h' := Relation.ReflTransGen.single (.plain hp)

theorem stints_of_eq {x : Act α} (ho : (x.run h).2.owners = h.owners)
    (hd : (x.run h).2.devices = h.devices) (hj : (x.run h).2.journal = h.journal) : Does Stints h x :=
  (plainly_of_eq ho hd hj).stints

theorem stints_handlings {x : Act α} (hx : Does Handlings h x) : Does Stints h x :=
  (of_handlings plainly_handling hx).stints

theorem stints_record {e : Event} (he : e.isPlain = true) : Does Stints h (record e) :=
  (plainly_record he h).stints

theorem stints_note (n : Notice) (hn : (Event.noticed n).isPlain = true := by rfl) :
    Does Stints h (note n) :=
  stints_record hn

theorem stints_report (r : Except NetError Unit) (n : NetError → Notice)
    (hn : ∀ e, (Event.noticed (n e)).isPlain = true := by exact fun _ => rfl) :
    Does Stints h (match r with | .ok _ => pure () | .error e => note (n e) : Act Unit) :=
  does_report r fun e => stints_note (n e) (hn e)

theorem stints_put (q : QueueId) (j : Job) : Does Stints h (put q j) := (plainly_put q j h).stints

/-! ### Frames -/

theorem stints_offer (d : DeviceId) (f : Bytes) : Does Stints h (offer d f) :=
  (plainly_offer d f).stints

theorem stints_tell (d : DeviceId) (mac : Mac) (ip : Ip) : Does Stints h (tell d mac ip) :=
  does_tell (stints_offer d _)

theorem stints_advertise (d : DeviceId) : Does Stints h (advertise d) := Does.get (stints_tell d .zero _)

theorem stints_lookup (d : DeviceId) (ip : Ip) : Does Stints h (lookup d ip) :=
  (plainly_lookup d ip).stints

theorem stints_store (ip : Ip) (mac : Mac) : Does Stints h (store ip mac) := by
  refine Does.get ?_
  split
  · exact Does.bind (x := modify _) (stints_of_eq rfl rfl rfl)
      (Does.bind (stints_record rfl) (Does.pure _))
  · exact Does.bind (stints_record rfl) (Does.bind (stints_note _) (Does.pure _))

theorem stints_receiveArp (d : DeviceId) (b : Bytes) : Does Stints h (receiveArp d b) := by
  unfold receiveArp
  split
  · exact stints_note _
  · rename_i p _
    refine Does.get ?_
    split_ifs
    · exact Does.bind (stints_tell d _ _) (stints_report _ (.arpReplyFailed p.senderIp))
    · exact stints_store p.senderIp p.senderMac
    · exact stints_note _
    · exact Does.pure _

theorem stints_sendPacket {room : Nat} {m : Bytes} {protocol : UInt8} {dst : Ip} :
    Does Stints h (sendPacket (.withRoom room m) protocol dst d) :=
  plainly_sendPacket.stints

theorem stints_receiveIcmp (d : DeviceId) (b : Bytes) (src : Ip) :
    Does Stints h (receiveIcmp d b src) := by
  unfold receiveIcmp
  split
  · exact stints_note _
  · split_ifs
    · exact Does.bind stints_sendPacket (stints_report _ (.echoFailed src))
    · exact stints_note _

theorem stints_sendDatagram (f : Flow) (data : Bytes) : Does Stints h (sendDatagram f data) := by
  refine Does.get ?_
  split
  · exact Does.pure _
  · split
    · exact Does.pure _
    · exact stints_sendPacket

/-! ### Segments -/

theorem stints_sendSegment (c : Option ConnId) (d : DeviceId) (s : Stream) (t : Header) (data : Bytes)
    (h : Host) : Does Stints h (sendSegment c d s t data) :=
  Relation.ReflTransGen.single (.segment c d s t data)

theorem stints_answer (c : Option ConnId) (d : DeviceId) (s : Stream) (t : Header) (h : Host) :
    Does Stints h (answer c d s t) :=
  Does.bind (stints_sendSegment c d s t [] h) (stints_report _ (.replyFailed s t.flags))

theorem stints_answerOn (c : ConnId) (t : Header) (h : Host) : Does Stints h (answerOn c t) :=
  Does.get (stints_answer _ _ _ t h)

theorem stints_emit (c : ConnId) (t : Header) (data : Bytes) (h : Host) :
    Does Stints h (emit c t data) :=
  Does.get (stints_sendSegment _ _ _ t data h)

/-! ### Connections -/

theorem stints_setControl (c : ConnId) (k : Control) (h : Host) : Does Stints h (setControl c k) := by
  refine Does.get (Does.bind (x := modify _) (stints_of_eq rfl rfl rfl) ?_)
  split
  · exact Does.pure _
  · exact stints_record rfl

theorem stints_removeStream (s : Stream) (c : ConnId) (h : Host) :
    Does Stints h (removeStream s c) := by
  refine Does.get ?_
  split
  · exact Does.pure _
  · exact Does.bind (x := modify _) (stints_of_eq rfl rfl rfl) (stints_record rfl)

theorem stints_openStream (s : Stream) (d : DeviceId) (service : StreamService) (isn : SeqNum)
    (k : Control) (h : Host) : Does Stints h (openStream s d service isn k) := by
  refine Does.get (Does.bind (x := modify _) (stints_of_eq rfl rfl rfl) (Does.bind ?_ ?_))
  · cases h.stream? s with
    | none => exact Does.pure ()
    | some old => exact stints_record rfl
  · exact Does.bind (stints_record rfl) (Does.pure _)

/-- What a control block reports of a segment is told of no device, … -/
theorem isPlain_take {k : Control} {g : Segment} {n : Notice} (hn : (k.take g).2.notice = some n) :
    (Event.noticed n).isPlain = true := by
  have ht := k.take_cases g
  generalize (k.take g).1 = k', (k.take g).2 = o at ht hn
  cases ht with
  | syn =>
    unfold Control.repeatSyn at hn
    split_ifs at hn
    cases hn
    rfl
  | dropped | overflow =>
    cases hn
    rfl
  | _ => cases hn

/-- … nor what it reports of the end of a segment. -/
theorem isPlain_finish {k : Control} {fin : Bool} {n : Notice}
    (hn : (k.finish fin).2.notice = some n) : (Event.noticed n).isPlain = true := by
  have hf := k.finish_cases fin
  generalize (k.finish fin).1 = k', (k.finish fin).2 = o at hf hn
  cases hf with
  | ignored =>
    cases hn
    rfl
  | _ => cases hn

theorem stints_steer (c : ConnId) {f : Control → Control × Outcome}
    (hf : ∀ {k n}, (f k).2.notice = some n → (Event.noticed n).isPlain = true) (h : Host) :
    Does Stints h (steer c f) :=
  does_steer (stints_setControl c _ h) (fun _ => stints_record rfl) fun n hn _ => stints_note n (hf hn)

theorem stints_settle (c : ConnId) (o : Outcome) (h : Host) : Does Stints h (settle c o) :=
  does_settle (fun t _ => stints_answerOn c t h) (fun _ _ => stints_note _)
    fun s h => stints_removeStream s c h

theorem stints_sendData (s : Stream) (data : Bytes) (h : Host) : Does Stints h (sendData s data) :=
  does_sendData (fun c t _ => stints_emit c t data h) stints_setControl s

theorem stints_close (s : Stream) (h : Host) : Does Stints h (close s) :=
  does_close (fun c t => stints_emit c t [] h) stints_setControl s

/-! ### Services -/

theorem stints_listen (port : UInt16) (service : StreamService) : Does Stints h (listen port service) := by
  refine Does.get ?_
  split
  · exact Does.pure _
  · exact Does.bind (x := modify _) (stints_of_eq rfl rfl rfl) (Does.pure _)

theorem stints_subscribe (port : UInt16) (service : DatagramService) :
    Does Stints h (subscribe port service) :=
  stints_of_eq rfl rfl rfl

theorem stints_serveEcho : Does Stints h serveEcho := by
  refine Does.bind (stints_listen echoPort .echo) ?_
  split
  · exact Does.bind (stints_note _) (Does.pure _)
  · exact Does.bind (stints_subscribe echoPort .echo) (Does.pure _)

theorem stints_servePage : Does Stints h servePage := by
  refine Does.bind (stints_listen pagePort .page) ?_
  split
  · exact Does.pure _
  · exact Does.bind (stints_note _) (Does.pure _)

/-! ## Presentations -/

/-- The host when a device was presented, if one is to be. -/
def presenting (h : Host) : Option DeviceId → Host
  | some d => ((register d).run h).2
  | none => h

/-- Who holds a device in the meantime does not matter when one is presented. -/
theorem register_lent (d : DeviceId) (h : Host) (l : List DeviceId) :
    ((register d).run { h with lent := l }).2 = { ((register d).run h).2 with lent := l } := by
  unfold register
  rw [StateT.run_bind, StateT.run_bind]
  change ((if (h.owner? (h.device d).ip).isNone then _ else _ : Act Unit).run _).2 =
    { ((if (h.owner? (h.device d).ip).isNone then _ else _ : Act Unit).run _).2 with lent := l }
  cases h.owner? (h.device d).ip <;> rfl

/-! ## Runs -/

/-- Code run at `h` leads to a host that `S` relates to an earlier one. -/
def Since (S : Bool → Host → Host → Prop) (h₀ h : Host) (x : Run α) : Prop :=
  S (x.run h).1.isSome h₀ (x.run h).2

/-- **A relation that holds of stints**, and of frames that were deferred and present their device. -/
structure Tracks (S : Bool → Host → Host → Prop) : Prop extends Composes S where
  stint : ∀ {h h'}, Stint h h' → S true h h'
  deferred : ∀ {h q d b}, h.journal.head? = some (.started q (.frame d b)) →
    Ethernet.isPacket b = true → S true h ((register d).run h).2

namespace Tracks

variable {S : Bool → Host → Host → Prop} (hS : Tracks S)

include hS

theorem stints (ht : Stints h h') : S true h h' := by
  induction ht with
  | refl => exact hS.refl h
  | tail _ ht ih => exact hS.trans ih (hS.stint ht)

theorem plainly (hp : Plainly h h') : S true h h' := hS.stint (.plain hp)

theorem pure (a : α) (h : Host) : Within S h (pure a) := Within.pure hS.toComposes a

theorem act {x : Act α} (hx : Does Stints h x) : Within S h (liftM x : Run α) := hS.stints hx

theorem step {x : Act α} {f : α → Run β} (hx : Does Stints h x) (hf : ∀ a h', Within S h' (f a)) :
    Within S h (liftM x >>= f) :=
  Within.act hS.toComposes (hS.stints hx) (hf _ _)

theorem bind {x : Run α} {f : α → Run β} (hx : Within S h x) (hf : ∀ a h', Within S h' (f a)) :
    Within S h (x >>= f) :=
  Within.bind hS.toComposes hx fun a h' _ => hf a h'

theorem change {g : Host → Host} {f : PUnit → Run β} (hg : Plainly h (g h))
    (hf : ∀ h', Within S h' (f ⟨⟩)) : Within S h (modify g >>= f) :=
  Within.change hS.toComposes (hS.plainly hg) (hf _)

theorem since {x : Run α} (h₁ : S true h₀ h) (hx : Within S h x) : Since S h₀ h x := hS.trans h₁ hx

theorem after {x : Run α} {f : α → Run β} (hx : Since S h₀ h x) (hf : ∀ a h', Within S h' (f a)) :
    Since S h₀ h (x >>= f) := by
  unfold Since at hx ⊢
  rw [run_bind]
  generalize x.run h = r at hx ⊢
  obtain ⟨r, h'⟩ := r
  cases r with
  | none => exact hx
  | some a => exact hS.trans hx (hf a h')

theorem lend {x : Run Unit} (hx : Since S h₀ { h with lent := d :: h.lent } x) :
    Since S h₀ h (lend d x) := by
  have hl : Since S h₀ { h with lent := d :: h.lent }
      (x >>= fun _ => modify fun h => { h with lent := h.lent.tail }) := by
    refine hS.after hx fun _ h' => ?_
    exact hS.change (plainly_of_eq rfl rfl rfl) fun _ => hS.pure _ _
  exact hl

/-! ### Receiving -/

section Application

variable {app : Application} (ha : ∀ k h, Within S h (app k))

include ha

theorem receiveOn (c : ConnId) (g : Segment) (h : Host) : Within S h (receiveOn app c g) := by
  have hf : ∀ (o : Outcome) h, Within S h (do settle c (← steer c (·.finish o.fin)) : Run Unit) :=
    fun o h => hS.step (stints_steer c isPlain_finish h) fun o' h' => hS.act (stints_settle c o' h')
  refine hS.step (stints_steer c isPlain_take h) fun o h₁ => hS.step (stints_settle c o h₁) fun _ h₂ => ?_
  split
  · exact hS.pure _ _
  · split
    · exact hf o h₂
    · exact hS.step (stints_record rfl) fun _ h₃ => hS.bind (ha _ h₃) fun _ h₄ => hf o h₄

theorem acceptStream (d : DeviceId) (s : Stream) (g : Segment) (h : Host) :
    Within S h (acceptStream app d s g) := by
  have hr : ∀ h, Within S h (acceptStream.reset d s g) := fun h =>
    hS.step (stints_note _) fun _ h' => hS.act (stints_answer none d s _ h')
  refine Within.get ?_
  split
  · split
    · exact hr h
    · refine hS.bind (ha _ h) fun _ h₁ => Within.get ?_
      exact hS.step (stints_openStream s d _ g.seq _ h₁) fun c h₂ => hS.act (stints_answerOn c _ h₂)
  · exact hr h

theorem receiveSegment (d : DeviceId) (b : Bytes) (src : Ip) (h : Host) :
    Within S h (receiveSegment app d b src) := by
  unfold Host.receiveSegment
  split
  · exact hS.act (stints_note _)
  · refine Within.get (hS.step (stints_record rfl) fun _ h₁ => ?_)
    split
    · exact hS.receiveOn ha _ _ h₁
    · split_ifs
      · exact hS.pure _ _
      · exact hS.acceptStream ha d _ _ h₁
      · exact hS.act (stints_note _)

theorem receiveDatagram (d : DeviceId) (b : Bytes) (src : Ip) (h : Host) :
    Within S h (receiveDatagram app d b src) := by
  unfold Host.receiveDatagram
  split
  · exact hS.act (stints_note _)
  · refine Within.get ?_
    split
    · exact hS.act (stints_note _)
    · exact Within.forM hS.toComposes fun u _ h => ha _ h

theorem receivePacket (hr : S true h₀ ((register d).run h).2) (b : Bytes) :
    Since S h₀ h (receivePacket app d b) := by
  refine hS.after (x := liftM (register d)) hr fun _ h₁ => ?_
  split
  · exact hS.act (stints_note _)
  · split_ifs
    · exact hS.act (stints_receiveIcmp d _ _)
    · exact hS.act (stints_note _)
    · exact hS.receiveSegment ha d _ _ h₁
    · exact hS.receiveDatagram ha d _ _ h₁
    · exact hS.act (stints_note _)

theorem receiveFrame (h₁ : Ethernet.isPacket b = false → S true h₀ h)
    (hr : Ethernet.isPacket b = true → S true h₀ ((register d).run h).2) :
    Since S h₀ h (receiveFrame app d b) := by
  cases hp : Ethernet.isPacket b with
  | true =>
    obtain ⟨f, hf, ht⟩ := Ethernet.isPacket_iff.mp hp
    unfold Since
    rw [run_receiveFrame_ipv4Type hf ht]
    exact hS.receivePacket ha (hr hp) f.payload
  | false =>
    refine hS.since (h₁ hp) ?_
    unfold Host.receiveFrame
    split
    · exact hS.act (stints_note _)
    · rename_i f hf
      have hf := Ethernet.Frame.decode?_eq_some.mp hf
      split_ifs with ht
      · cases hp.symm.trans (Ethernet.isPacket_iff.mpr ⟨f, hf, ht⟩)
      · exact hS.act (stints_receiveArp d _)
      · exact hS.act (stints_note _)
      · exact hS.act (stints_note _)

end Application

/-! ### Application code -/

section Inner

variable {inner : Exec} (hi : ∀ x op h, Within S h (inner x op))

include hi

theorem runScript (x : Context) (ops : List Op) (h : Host) : Within S h (runScript inner x ops) :=
  Within.forM hS.toComposes fun op _ h => hS.bind (hi x op h) fun _ _ => hS.act (stints_record rfl)

theorem answerCall (k : Call) (h : Host) : Within S h (answerCall inner k) := by
  cases k with
  | accept a s =>
    refine Within.get ?_
    dsimp only
    split
    · exact hS.pure _ _
    · exact hS.pure _ _
    · exact hS.change (plainly_of_eq rfl rfl rfl) fun _ =>
        hS.step (stints_record rfl) fun _ h₁ => hS.runScript hi _ _ h₁
  | read c data =>
    refine Within.get ?_
    dsimp only
    split
    · exact hS.act (Does.bind (stints_sendData _ _ _) (stints_report _ (.streamEchoFailed _)))
    · exact hS.act (Does.bind (stints_sendData _ _ _) (stints_report _ (.pageFailed _)))
    · refine hS.change (plainly_of_eq rfl rfl rfl) fun _ => hS.step (stints_record rfl) fun _ h₁ => ?_
      exact hS.lend (hS.since (hS.plainly (plainly_of_eq rfl rfl rfl)) (hS.runScript hi _ _ _))
  | notify u f data =>
    refine Within.get ?_
    dsimp only
    split
    · exact hS.act (Does.bind (stints_sendDatagram _ _) (stints_report _ (.datagramEchoFailed _)))
    · exact hS.change (plainly_of_eq rfl rfl rfl) fun _ =>
        hS.step (stints_record rfl) fun _ h₁ => hS.runScript hi _ _ h₁

/-! ### Deferred work -/

theorem runTask (t : TaskId) (h : Host) : Within S h (runTask inner t) := by
  refine hS.step (x := dequeued t) (stints_of_eq rfl rfl rfl) fun _ h₁ => Within.get ?_
  dsimp only
  split
  · refine Within.get ?_
    split
    · exact hS.act (stints_handlings (handlings_transmitNext _))
    · exact hS.act (stints_record rfl)
  · exact hS.step (x := modifyTask t _) (stints_of_eq rfl rfl rfl) fun _ _ =>
      hS.step (stints_record rfl) fun _ h₃ => hS.runScript hi _ _ h₃

theorem runJob {q : QueueId} {j : Job} (hj : h.journal.head? = some (.started q j)) :
    Within S h (runJob inner j) := by
  have hl : ∀ d, Plainly h { h with lent := d :: h.lent } := fun d => plainly_of_eq rfl rfl rfl
  cases j with
  | frame d b =>
    refine hS.lend (hS.receiveFrame (hS.answerCall hi) (fun _ => hS.plainly (hl d)) fun hp => ?_)
    exact hS.trans (hS.plainly (hl d)) (hS.deferred hj hp)
  | once id ops => exact hS.step (stints_record rfl) fun _ h₁ => hS.runScript hi _ _ h₁
  | task t => exact hS.runTask hi t h

theorem drain (q : QueueId) (fuel n : Nat) (h : Host) : Within S h (drain inner q fuel n) := by
  induction fuel generalizing n h with
  | zero => exact Within.failure hS.toComposes
  | succ fuel ih =>
    unfold Within
    cases hq : h.queue q with
    | nil =>
      rw [run_drain_empty hq]
      exact hS.plainly (plainly_record rfl h)
    | cons j rest =>
      rw [run_drain_next (run_next hq)]
      refine hS.trans (hS.plainly (plainly_taken h q j rest)) ?_
      exact hS.bind (hS.runJob hi rfl) fun _ h₁ => ih (n + 1) h₁

/-! ### Operations -/

theorem perform {x : Context} {op : Op} (h₁ : S true h₀ (h.presenting (op.presents x))) (fuel : Nat) :
    Since S h₀ h (perform inner fuel x op) := by
  have hl : ∀ d, Plainly h { h with lent := d :: h.lent } := fun d => plainly_of_eq rfl rfl rfl
  have hr : ∀ d, S true h₀ ((register d).run h).2 →
      S true h₀ ((register d).run { h with lent := d :: h.lent }).2 := fun d hr => by
    rw [register_lent]
    exact hS.trans hr (hS.plainly (plainly_of_eq rfl rfl rfl))
  have hc := hS.answerCall hi
  have hd : ∀ (d : DeviceId) (y : Run Unit), Since S h₀ { h with lent := d :: h.lent } y →
      Since S h₀ h (Host.lend d y >>= fun _ => Pure.pure Reply.done) := fun d y hy =>
    hS.after (hS.lend hy) fun _ _ => hS.pure _ _
  have hn : ∀ d, S true h₀ h → S true h₀ { h with lent := d :: h.lent } := fun d h₁ =>
    hS.trans h₁ (hS.plainly (hl d))
  have hy : ∀ {α : Type} {y : Act α} (f : α → Reply), S true h₀ h → Does Stints h y →
      Since S h₀ h (liftM y >>= fun a => Pure.pure (f a) : Run Reply) := fun f h₁ hy =>
    hS.since h₁ (hS.step hy fun _ _ => hS.pure _ _)
  have hp : ∀ {α : Type} (a : α), S true h₀ h → Since S h₀ h (Pure.pure a : Run α) := fun a h₁ =>
    hS.since h₁ (hS.pure a h)
  cases op with
  | receive d b =>
    refine hd d _ (hS.receiveFrame hc (fun hp => hn d ?_) fun hp => hr d ?_)
    · rwa [Op.presents, if_neg (by rw [hp]; decide)] at h₁
    · rwa [Op.presents, if_pos hp] at h₁
  | register d => exact hS.after (x := liftM (Host.register d)) h₁ fun _ _ => hS.pure _ _
  | announce d =>
    have ha : S true h₀ ((advertise d).run ((Host.register d).run h).2).2 :=
      hS.trans h₁ (hS.stints (stints_advertise d))
    exact hS.after (x := liftM (announce d)) ha fun _ _ => hS.pure _ _
  | receivePacket d b => exact hd d _ (hS.receivePacket hc (hr d h₁) _)
  | poll q => exact hS.since h₁ (Within.map hS.toComposes _ (hS.drain hi q fuel 0 h))
  | defer d b => exact hy _ h₁ (stints_put 0 _)
  | advertise d => exact hy _ h₁ (stints_advertise d)
  | lookup d ip => exact hy _ h₁ (stints_lookup d ip)
  | store ip mac => exact hy _ h₁ (stints_store ip mac)
  | receiveArp d b => exact hy _ h₁ (stints_receiveArp d _)
  | receiveIcmp d b src => exact hy _ h₁ (stints_receiveIcmp d _ src)
  | receiveSegment d b src =>
    exact hd d _ (hS.since (hn d h₁) (hS.receiveSegment hc d _ src _))
  | receiveDatagram d b src =>
    exact hd d _ (hS.since (hn d h₁) (hS.receiveDatagram hc d _ src _))
  | sendPacket d protocol dst room b =>
    refine hS.since h₁ (hS.step (stints_record rfl) fun _ _ => hS.step stints_sendPacket fun _ _ => ?_)
    exact hS.step (stints_record rfl) fun _ _ => hS.pure _ _
  | sendFrame d type dst room b =>
    refine hS.since h₁ (hS.step (stints_record rfl) fun _ _ => ?_)
    refine hS.step (does_sendFrame (stints_offer d _)) fun _ _ => ?_
    exact hS.step (stints_record rfl) fun _ _ => hS.pure _ _
  | listen port accept read => exact hy _ h₁ (stints_listen port _)
  | send t b =>
    unfold Host.perform
    dsimp only
    split
    · exact hy _ h₁ (stints_sendData _ _ h)
    · exact hp _ h₁
  | close t =>
    unfold Host.perform
    dsimp only
    split
    · exact hy _ h₁ (stints_close _ h)
    · exact hp _ h₁
  | subscribe port id notify => exact hy _ h₁ (stints_subscribe port _)
  | sendDatagram f b =>
    unfold Host.perform
    dsimp only
    split
    · exact hy _ h₁ (stints_sendDatagram _ _)
    · exact hp _ h₁
  | serveEcho => exact hy _ h₁ stints_serveEcho
  | servePage => exact hy _ h₁ stints_servePage
  | setFailure d r =>
    exact hS.since h₁ (hS.change (plainly_devices fun _ => ⟨rfl, rfl⟩) fun _ => hS.pure _ _)
  | release d =>
    exact hS.since h₁ (hS.change (plainly_devices fun _ => ⟨rfl, rfl⟩) fun _ => hS.pure _ _)
  | spawn q id ops => exact hy _ h₁ (stints_put q _)
  | define id runs => exact hy (y := defineTask id runs) _ h₁ (stints_of_eq rfl rfl rfl)
  | enqueue id q =>
    refine hS.since h₁ (Within.get ?_)
    dsimp only
    split
    · exact hS.step (stints_handlings (handlings_enqueue q _)) fun _ _ => Within.get (hS.pure _ _)
    · exact Within.get (hS.pure _ h)
  | pending | ownerOf | stateOf | summary | settings | deviceState | taskState =>
    exact hS.since h₁ (Within.get (hS.pure _ h))

end Inner

end Tracks

/-- **What stints and presentations preserve is preserved by every run.** -/
theorem preserved_leads {P : Host → Prop} (ht : ∀ {h h'}, Stint h h' → P h → P h')
    (hr : ∀ d h, P h → P ((register d).run h).2) {e : Bool} (hl : Leads e h h') : P h → P h' := by
  have hS : Tracks fun _ h h' => P h → P h' :=
    { refl := fun _ => id, cut := fun _ => id, trans := fun h₁₂ h₂₃ => h₂₃ ∘ h₁₂, stint := ht,
      deferred := fun _ _ => hr _ _ }
  induction hl with
  | refl h | cut h => exact id
  | trans _ _ h₁₂ h₂₃ => exact h₂₃ ∘ h₁₂
  | hardware d l h => exact hS.plainly (plainly_devices fun _ => ⟨rfl, rfl⟩)
  | perform inner fuel x op h _ ih =>
    refine hS.perform ih ?_ fuel
    cases op.presents x with
    | none => exact id
    | some d => exact hr d h

end Host

end InetHost
