import InetHost.Proofs.Run.Leads
import InetHost.Proofs.Stream.Switchboard
import InetHost.Proofs.Tcp.Control

/-!
# Deeds

The acts on connections do three things: they send frames and report errors, as chores do, they change
the connections, and they enter events of them. So all that a host does when it is asked for something
is made of `Deed`s, one after another.

* `does_steer`, `does_settle`, `does_sendData`, `does_close`: what the acts on a connection are made of;
* `Deed`, `Deeds`;
* `deeds_sendData`, `deeds_close`, …: one lemma for each act on connections;
* **`serves_of_deed`**: a relation that holds of deeds holds of all that is done where no queue is
  polled.
-/

namespace InetHost.Host

open Tcp

variable {α β : Type} {h h' : Host}

/-! ## Acts on a connection -/

section Acts

variable {R : Host → Host → Prop} [Std.Refl R] [IsTrans Host R] {c : ConnId}

/-- A step of a control block changes it, and enters an end and a notice. -/
theorem does_steer {f : Control → Control × Outcome}
    (hk : Does R h (setControl c (f (h.connection c).control).1))
    (he : ∀ h, Does R h (record (.ended c)))
    (hn : ∀ n, (f (h.connection c).control).2.notice = some n → ∀ h, Does R h (note n)) :
    Does R h (steer c f) := by
  have ho : ∀ h₁, Does R h₁ ((f (h.connection c).control).2.notice.forM note) := by
    intro h₁
    cases hx : (f (h.connection c).control).2.notice with
    | none => exact Does.pure ()
    | some n => exact hn n hx h₁
  refine Does.get (Does.bind hk ?_)
  split
  · exact Does.bind (he _) (Does.bind (ho _) (Does.pure _))
  · exact Does.bind (ho _) (Does.pure _)

/-- What a step asks for is an answer and a removal. -/
theorem does_settle {o : Outcome} (hr : ∀ t, o.reply = some t → Does R h (answerOn c t))
    (hs : ∀ s h, Does R h (note (.streamClosed s))) (hm : ∀ s h, Does R h (removeStream s c)) :
    Does R h (settle c o) := by
  refine Does.bind ?_ ?_
  · cases hx : o.reply with
    | none => exact Does.pure ()
    | some t =>
      change Does R h (answerOn c t)
      exact hr t hx
  · split
    · exact Does.get (Does.bind (hs _ _) (hm _ _))
    · exact Does.pure _

/-- A segment of the host's own, which changes the control block if it is sent. -/
theorem does_advance {t : Header} {data : Bytes} (he : Does R h (emit c t data))
    (hk : ∀ k h, Does R h (setControl c k)) (k : Control) : Does R h (do
      let r ← emit c t data
      if r.toBool then setControl c k
      return r : Act (Except NetError Unit)) := by
  refine Does.bind he ?_
  split
  · exact Does.bind (hk k _) (Does.pure _)
  · exact Does.pure _

/-- Data that is sent is not too long. -/
theorem does_sendData {data : Bytes}
    (he : ∀ c t, data.length ≤ h.config.maxSegment → Does R h (emit c t data))
    (hk : ∀ c k h, Does R h (setControl c k)) (s : Stream) : Does R h (sendData s data) := by
  refine Does.get ?_
  split
  · exact Does.pure _
  · rename_i hl
    split
    · exact Does.pure _
    · dsimp only
      split
      · exact does_advance (he _ _ (Nat.not_lt.mp hl)) (hk _) _
      · exact Does.pure _

theorem does_close (he : ∀ c t, Does R h (emit c t [])) (hk : ∀ c k h, Does R h (setControl c k))
    (s : Stream) : Does R h (close s) := by
  refine Does.get ?_
  split
  · exact Does.pure _
  · dsimp only
    split
    · exact Does.pure _
    · exact does_advance (he _ _) (hk _) _

end Acts

/-! ## Deeds -/

/-- Something that a host does where no queue is polled. -/
inductive Deed (h : Host) : Host → Prop
  | chore {X : Host → DeviceId → Bytes → Prop} {h' : Host} (hc : Chore X h h') : Deed h h'
  | enter (e : Event) (he : e.onBoard = true) : Deed h ((record e).run h).2
  | connections (ks : List Connection) (ss : List (Stream × ConnId)) :
    Deed h { h with connections := ks, streams := ss }

/-- Deeds, one after another. -/
abbrev Deeds : Host → Host → Prop := Relation.ReflTransGen Deed

theorem Deed.does {x : Act α} (hx : Deed h (x.run h).2) : Does Deeds h x :=
  Relation.ReflTransGen.single hx

theorem deeds_of_chores {X : Host → DeviceId → Bytes → Prop} {x : Act α}
    (hx : Does (Chores X) h x) : Does Deeds h x :=
  Relation.ReflTransGen.mono (fun _ _ hc => Deed.chore hc) _ _ hx

theorem deeds_note (n : Notice) (hn : (Event.noticed n).isRemark = true := by rfl) :
    Does Deeds h (note n) :=
  deeds_of_chores (X := fun _ _ _ => False) (chores_note n hn)

/-! ### Sending segments -/

theorem deeds_sendSegment (c : Option ConnId) (d : DeviceId) (s : Stream) (t : Header)
    (data : Bytes) (h : Host) : Does Deeds h (sendSegment c d s t data) := by
  have hs : Does (Chores fun _ _ _ => True) h
      (sendPacket (.withRoom headroom (encode s t data)) Ipv4.tcp s.peer.ip d) :=
    chores_sendPacket fun _ _ => .inr trivial
  refine Does.bind (deeds_of_chores hs) (Does.bind ?_ (Does.pure _))
  exact Deed.does (.enter _ rfl)

theorem deeds_answer (c : Option ConnId) (d : DeviceId) (s : Stream) (t : Header) (h : Host) :
    Does Deeds h (answer c d s t) := by
  refine Does.bind (deeds_sendSegment c d s t [] h) ?_
  exact deeds_of_chores (X := fun _ _ _ => False) (chores_report _ (.replyFailed s t.flags))

theorem deeds_emit (c : ConnId) (t : Header) (data : Bytes) (h : Host) :
    Does Deeds h (emit c t data) :=
  Does.get (deeds_sendSegment _ _ _ t data h)

theorem deeds_answerOn (c : ConnId) (t : Header) (h : Host) : Does Deeds h (answerOn c t) :=
  Does.get (deeds_answer _ _ _ t h)

/-! ### The connections -/

theorem deeds_setControl (c : ConnId) (k : Control) (h : Host) : Does Deeds h (setControl c k) := by
  refine Does.get (Does.bind (x := modify _) (Deed.does (.connections _ h.streams)) ?_)
  split
  · exact Does.pure _
  · exact Deed.does (.enter _ rfl)

theorem deeds_removeStream (s : Stream) (c : ConnId) (h : Host) :
    Does Deeds h (removeStream s c) := by
  refine Does.get ?_
  split
  · exact Does.pure _
  · refine Does.bind (x := modify _) (Deed.does (.connections h.connections _)) ?_
    exact Deed.does (.enter _ rfl)

theorem deeds_openStream (s : Stream) (d : DeviceId) (service : StreamService) (isn : SeqNum)
    (k : Control) (h : Host) : Does Deeds h (openStream s d service isn k) := by
  refine Does.get (Does.bind (x := modify _) (Deed.does (.connections _ _)) (Does.bind ?_ ?_))
  · cases h.stream? s with
    | none => exact Does.pure ()
    | some old => exact Deed.does (.enter _ rfl)
  · exact Does.bind (Deed.does (.enter _ rfl)) (Does.pure _)

/-! ### Receiving, sending and closing -/

/-- A control block reports nothing but remarks. -/
def Plain (o : Outcome) : Prop := ∀ n, o.notice = some n → (Event.noticed n).isRemark = true

theorem plain_take (k : Control) (seg : Segment) : Plain (k.take seg).2 := by
  have ht := k.take_cases seg
  generalize (k.take seg).1 = k', (k.take seg).2 = o at ht
  intro n hn
  cases ht with
  | syn =>
    unfold Control.repeatSyn at hn
    split_ifs at hn
    cases hn
    rfl
  | dropped | overflow =>
    cases hn
    rfl
  | _ => cases hn

theorem plain_finish (k : Control) (fin : Bool) : Plain (k.finish fin).2 := by
  have hf := k.finish_cases fin
  generalize (k.finish fin).1 = k', (k.finish fin).2 = o at hf
  intro n hn
  cases hf with
  | ignored =>
    cases hn
    rfl
  | _ => cases hn

theorem deeds_steer (c : ConnId) {f : Control → Control × Outcome} (hf : ∀ k, Plain (f k).2)
    (h : Host) : Does Deeds h (steer c f) :=
  does_steer (deeds_setControl c _ h) (fun _ => Deed.does (.enter _ rfl))
    fun n hn _ => deeds_note n (hf _ n hn)

theorem deeds_settle (c : ConnId) (o : Outcome) (h : Host) : Does Deeds h (settle c o) :=
  does_settle (fun t _ => deeds_answerOn c t h) (fun _ _ => deeds_note _)
    fun s h => deeds_removeStream s c h

theorem deeds_sendData (s : Stream) (data : Bytes) (h : Host) : Does Deeds h (sendData s data) :=
  does_sendData (fun c t _ => deeds_emit c t data h) deeds_setControl s

theorem deeds_close (s : Stream) (h : Host) : Does Deeds h (close s) :=
  does_close (fun c t => deeds_emit c t [] h) deeds_setControl s

/-! ## Relations that hold of deeds -/

section Relations

variable {S : Bool → Host → Host → Prop} (hS : Composes S) (hd : ∀ {h h'}, Deed h h' → S true h h')

include hS hd

theorem composes_deeds (hh : Deeds h h') : S true h h' := by
  induction hh with
  | refl => exact hS.refl h
  | tail _ hd' ih => exact hS.trans ih (hd hd')

theorem deeds_next {x : Act α} {f : α → Run β} (hx : Does Deeds h x)
    (hf : ∀ a h', Within S h' (f a)) : Within S h (liftM x >>= f) :=
  Within.act hS (composes_deeds hS hd hx) (hf _ _)

section Application

variable {app : Application} (ha : ∀ k h, Within S h (app k))

include ha

theorem within_receiveOn (c : ConnId) (seg : Segment) (h : Host) :
    Within S h (receiveOn app c seg) := by
  have hf : ∀ (o : Outcome) h, Within S h (do
      settle c (← steer c (·.finish o.fin)) : Run Unit) := by
    intro o h
    refine deeds_next hS hd (deeds_steer c (fun k => plain_finish k _) h) fun o' h' => ?_
    exact Within.lift (composes_deeds hS hd (deeds_settle c o' h'))
  refine deeds_next hS hd (deeds_steer c (fun k => plain_take k seg) h) fun o h₁ => ?_
  refine deeds_next hS hd (deeds_settle c o h₁) fun _ h₂ => ?_
  split
  · exact Within.pure hS _
  · split
    · exact hf o h₂
    · refine deeds_next hS hd (Deed.does (.enter _ rfl)) fun _ h₃ => ?_
      exact Within.bind hS (ha _ h₃) fun _ h₄ _ => hf o h₄

theorem within_acceptStream (d : DeviceId) (s : Stream) (seg : Segment) (h : Host) :
    Within S h (acceptStream app d s seg) := by
  have hr : ∀ h, Within S h (acceptStream.reset d s seg) := by
    intro h
    refine deeds_next hS hd (deeds_note _) fun _ h' => ?_
    exact Within.lift (composes_deeds hS hd (deeds_answer none d s _ h'))
  refine Within.get ?_
  split
  · split
    · exact hr h
    · refine Within.bind hS (ha _ h) fun _ h₁ _ => Within.get ?_
      refine deeds_next hS hd (deeds_openStream s d _ seg.seq _ h₁) fun c h₂ => ?_
      exact Within.lift (composes_deeds hS hd (deeds_answerOn c _ h₂))
  · exact hr h

theorem within_receiveSegment (d : DeviceId) (b : Bytes) (src : Ip) (h : Host) :
    Within S h (receiveSegment app d b src) := by
  unfold receiveSegment
  split
  · exact Within.lift (composes_deeds hS hd (deeds_note _))
  · refine Within.get (deeds_next hS hd (Deed.does (.enter _ rfl)) fun _ h₁ => ?_)
    split
    · exact within_receiveOn hS hd ha _ _ h₁
    · split_ifs
      · exact Within.pure hS _
      · exact within_acceptStream hS hd ha d _ _ h₁
      · exact Within.lift (composes_deeds hS hd (deeds_note _))

end Application

/-- **What holds of deeds** holds of all that is done where no queue is polled. -/
theorem serves_of_deed : Serves S where
  toComposes := hS
  chore hc := hd (.chore hc)
  call _ he := hd (.enter _ (Event.onBoard_of_isCall he))
  receive _ d b src h ha := within_receiveSegment hS hd ha d b src h
  send s data h := composes_deeds hS hd (deeds_sendData s data h)
  close s h := composes_deeds hS hd (deeds_close s h)

end Relations

end InetHost.Host
