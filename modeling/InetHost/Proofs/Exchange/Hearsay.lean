import InetHost.Proofs.Exchange.Dispatch
import InetHost.Proofs.Exchange.Intake
import InetHost.Proofs.Exchange.Learning

/-!
# Who tells a host of link addresses

A host is told of a link address by the application, or by an answer to the address of the device on which
it comes in. Nothing else tells it of any: no question, no answer to somebody else, no packet.

* `hears`, `hearsFrame`, `tells`: the pair that an ARP packet, a frame or an operation tells;
* `ToldNothing`: a host was told of nothing; `toldNothing_sendData`, `toldNothing_register`, …: one lemma
  for each act;
* `Hearsay inner`: what is told is told by operations inside, or by frames that were deferred;
* `run_perform_tells`, **`hearsay_perform`**: an operation that tells a pair stores it and does no more, and
  whatever is stored while any other is run, it is not told by that one;
* **`Visited.directory`**: a host's table is a bounded map of what the host was told last;
* `crowded`: a host that was told of more than fits.
-/

namespace InetHost.Host

open Tcp

variable {α β : Type} {app : Application} {inner : Exec} {h h₁ h' : Host} {d : DeviceId} {b : Bytes}
  {p : Ip × Mac}

/-! ## What tells a host -/

/-- The pair that an ARP packet tells: an answer to the address of its device tells who sent it. -/
def hears (h : Host) (d : DeviceId) (b : Bytes) : Option (Ip × Mac) :=
  match Arp.Packet.decode? b with
  | some p =>
    if p.targetIp = (h.device d).ip ∧ p.op = Arp.reply then some (p.senderIp, p.senderMac) else none
  | none => none

/-- The pair that a frame tells. -/
def hearsFrame (h : Host) (d : DeviceId) (b : Bytes) : Option (Ip × Mac) :=
  match Ethernet.Frame.decode? b with
  | some f => if f.type = Ethernet.arpType then h.hears d f.payload else none
  | none => none

/-- The pair that an operation tells. -/
def tells (h : Host) (x : Context) : Op → Option (Ip × Mac)
  | .store ip mac => some (ip, mac)
  | .receiveArp d b => h.hears d (b.resolve x)
  | .receive d b => h.hearsFrame d (b.resolve x)
  | _ => none

theorem run_receiveArp_hears (hp : h.hears d b = some p) :
    (receiveArp d b).run h = ((), ((store p.1 p.2).run h).2) := by
  unfold hears at hp
  split at hp
  · rename_i q hq
    split at hp
    · rename_i hi
      obtain rfl := Option.some.inj hp
      have hn : q.op ≠ Arp.request := by rw [hi.2]; decide
      rw [run_receiveArp (Arp.Packet.decode?_eq_some.mp hq) hi.1, if_neg hn, if_pos hi.2]
      rfl
    · cases hp
  · cases hp

theorem run_receiveFrame_hears (hp : h.hearsFrame d b = some p) :
    (receiveFrame app d b).run h = (some (), ((store p.1 p.2).run h).2) := by
  unfold hearsFrame at hp
  split at hp
  · rename_i f hf
    split at hp
    · rename_i ht
      rw [run_receiveFrame_arpType (Ethernet.Frame.decode?_eq_some.mp hf) ht, run_receiveArp_hears hp]
    · cases hp
  · cases hp

theorem run_lend_hears (hp : h.hearsFrame d b = some p) :
    (lend d (receiveFrame app d b)).run h = (some (), ((store p.1 p.2).run h).2) := by
  have hl : ({ h with lent := d :: h.lent } : Host).hearsFrame d b = some p := hp
  rw [run_lend (run_receiveFrame_hears hl), run_store, run_store]
  rfl

/-- **An operation that tells a pair stores it**, and does no more. -/
theorem run_perform_tells {x : Context} {op : Op} (hp : h.tells x op = some p) (fuel : Nat) :
    ∃ r, (perform inner fuel x op).run h = (some r, ((store p.1 p.2).run h).2) := by
  cases op with
  | store ip mac =>
    obtain rfl := Option.some.inj hp
    exact ⟨_, rfl⟩
  | receiveArp d b =>
    refine ⟨.done, ?_⟩
    unfold perform
    dsimp only
    rw [run_act, run_receiveArp_hears hp]
    rfl
  | receive d b =>
    refine ⟨.done, ?_⟩
    unfold perform
    dsimp only
    rw [run_bind, run_lend_hears hp]
    rfl
  | _ => cases hp

/-! ## Acts that tell nothing -/

/-- **A host was told of nothing.** -/
def ToldNothing (h h' : Host) : Prop := tellings h'.journal = tellings h.journal

instance : Std.Refl ToldNothing := ⟨fun _ => rfl⟩

instance : IsTrans Host ToldNothing := ⟨fun _ _ _ h₁₂ h₂₃ => h₂₃.trans h₁₂⟩

theorem toldNothing_append {new : List Event} (hj : h'.journal = new ++ h.journal)
    (hn : ∀ e ∈ new, e.telling = none) : ToldNothing h h' := by
  unfold ToldNothing
  rw [hj, tellings_append, tellings_eq_nil hn, List.append_nil]

theorem toldNothing_record {e : Event} (he : e.telling = none) : Does ToldNothing h (record e) := by
  have hj : ((record e).run h).2.journal = [e] ++ h.journal := rfl
  exact toldNothing_append hj (List.forall_mem_singleton.mpr he)

theorem KeepsLink.toldNothing (q : KeepsLink h h') : ToldNothing h h' := by
  obtain ⟨new, hj, hn⟩ := q.journal
  exact toldNothing_append hj fun e he => Event.telling_eq_none (hn e he)

theorem Dispatch.toldNothing (r : Dispatch h h') : ToldNothing h h' := by
  obtain ⟨ds, ts, qs, new, rfl, hn, -⟩ := r
  refine toldNothing_append rfl fun e he => ?_
  have hd := hn e he
  cases e <;> first | rfl | cases hd

theorem toldNothing_note (n : Notice) : Does ToldNothing h (note n) := toldNothing_record rfl

theorem toldNothing_report (r : Except NetError Unit) (n : NetError → Notice) :
    Does ToldNothing h (match r with | .ok _ => pure () | .error e => note (n e) : Act Unit) := by
  cases r with
  | ok => exact Does.pure ()
  | error e => exact toldNothing_note (n e)

theorem toldNothing_tell (d : DeviceId) (mac : Mac) (ip : Ip) : Does ToldNothing h (tell d mac ip) :=
  Does.get (dispatch_sendFrame _ _ _ d h).toldNothing

theorem toldNothing_advertise (d : DeviceId) : Does ToldNothing h (advertise d) :=
  Does.get (toldNothing_tell d _ _)

theorem toldNothing_register (d : DeviceId) : Does ToldNothing h (register d) := by
  rcases register_eq d h with ⟨h', hc, he | ⟨-, he⟩⟩
  · unfold Does
    rw [he]
    exact hc.toKeepsLink.toldNothing
  · unfold Does
    rw [he]
    exact hc.toKeepsLink.toldNothing

theorem toldNothing_receiveArp (hp : h.hears d b = none) : Does ToldNothing h (receiveArp d b) := by
  unfold hears at hp
  unfold receiveArp
  split
  · exact toldNothing_note _
  · rename_i q hq
    rw [hq] at hp
    refine Does.get ?_
    split
    · rename_i hi
      split
      · exact Does.bind (toldNothing_tell d _ _) (toldNothing_report _ _)
      · split
        · rename_i hr
          dsimp only at hp
          rw [if_pos ⟨hi, hr⟩] at hp
          cases hp
        · exact toldNothing_note _
    · exact Does.pure _

theorem toldNothing_receiveIcmp (d : DeviceId) (b : Bytes) (src : Ip) :
    Does ToldNothing h (receiveIcmp d b src) := by
  unfold receiveIcmp
  split
  · exact toldNothing_note _
  · split
    · exact Does.bind (dispatch_sendPacket _ _ _ d h).toldNothing (toldNothing_report _ (.echoFailed src))
    · exact toldNothing_note _

theorem toldNothing_sendDatagram (f : Flow) (data : Bytes) : Does ToldNothing h (sendDatagram f data) := by
  refine Does.get ?_
  split
  · exact Does.pure _
  · split
    · exact Does.pure _
    · exact (dispatch_sendPacket _ _ _ _ h).toldNothing

/-! ### Acts on connections -/

theorem toldNothing_sendSegment (c : Option ConnId) (d : DeviceId) (s : Stream) (t : Header) (data : Bytes)
    (h : Host) : Does ToldNothing h (sendSegment c d s t data) :=
  Does.bind (dispatch_sendPacket _ _ _ d h).toldNothing (Does.bind (toldNothing_record rfl) (Does.pure _))

theorem toldNothing_answer (c : Option ConnId) (d : DeviceId) (s : Stream) (t : Header) (h : Host) :
    Does ToldNothing h (answer c d s t) :=
  Does.bind (toldNothing_sendSegment c d s t [] h) (toldNothing_report _ (.replyFailed s t.flags))

theorem toldNothing_answerOn (c : ConnId) (t : Header) (h : Host) : Does ToldNothing h (answerOn c t) :=
  Does.get (toldNothing_answer _ _ _ t h)

theorem toldNothing_emit (c : ConnId) (t : Header) (data : Bytes) (h : Host) :
    Does ToldNothing h (emit c t data) :=
  Does.get (toldNothing_sendSegment _ _ _ t data h)

theorem toldNothing_setControl (c : ConnId) (k : Control) (h : Host) : Does ToldNothing h (setControl c k) :=
  (keepsLink_setControl c k h).toldNothing

theorem toldNothing_steer (c : ConnId) (f : Control → Control × Outcome) (h : Host) :
    Does ToldNothing h (steer c f) :=
  does_steer (toldNothing_setControl c _ h) (fun _ => toldNothing_record rfl) fun n _ _ => toldNothing_note n

theorem toldNothing_settle (c : ConnId) (o : Outcome) (h : Host) : Does ToldNothing h (settle c o) :=
  does_settle (fun t _ => toldNothing_answerOn c t h) (fun _ _ => toldNothing_note _)
    fun s h => (keepsLink_removeStream s c h).toldNothing

theorem toldNothing_sendData (s : Stream) (data : Bytes) (h : Host) : Does ToldNothing h (sendData s data) :=
  does_sendData (fun c t _ => toldNothing_emit c t data h) toldNothing_setControl s

theorem toldNothing_close (s : Stream) (h : Host) : Does ToldNothing h (close s) :=
  does_close (fun c t => toldNothing_emit c t [] h) toldNothing_setControl s

/-! ### Services -/

theorem toldNothing_subscribe (port : UInt16) (service : DatagramService) :
    Does ToldNothing h (subscribe port service) := rfl

theorem toldNothing_serveEcho : Does ToldNothing h serveEcho := by
  refine Does.bind (keepsLinkAndBoard_listen echoPort .echo).toKeepsLink.toldNothing ?_
  split
  · exact Does.bind (toldNothing_note _) (Does.pure _)
  · exact Does.bind (toldNothing_subscribe echoPort .echo) (Does.pure _)

theorem toldNothing_servePage : Does ToldNothing h servePage := by
  refine Does.bind (keepsLinkAndBoard_listen pagePort .page).toKeepsLink.toldNothing ?_
  split
  · exact Does.pure _
  · exact Does.bind (toldNothing_note _) (Does.pure _)

/-! ## Runs that tell nothing of their own -/

/-- **What is told in a run is told from elsewhere**: by an operation that application code asks for, or
by a frame that was deferred. -/
inductive Hearsay (inner : Exec) : Bool → Host → Host → Prop
  | toldNothing {h h' : Host} (hu : ToldNothing h h') : Hearsay inner true h h'
  | cut (h : Host) : Hearsay inner false h h
  | trans {e : Bool} {h h₁ h₂ : Host} (h₁₂ : Hearsay inner true h h₁) (h₂₃ : Hearsay inner e h₁ h₂) :
    Hearsay inner e h h₂
  | asked (x : Context) (op : Op) (h : Host) :
    Hearsay inner ((inner x op).run h).1.isSome h ((inner x op).run h).2
  | deferred {h : Host} {q : QueueId} {d : DeviceId} {b : Bytes} {rest : List Job} {p : Ip × Mac}
    (hq : h.queue q = .frame d b :: rest) (hp : h.hearsFrame d b = some p) :
    Hearsay inner true h ((store p.1 p.2).run (h.taken q (.frame d b) rest)).2

theorem composes_hearsay (inner : Exec) : Composes (Hearsay inner) where
  refl _ := .toldNothing rfl
  cut := .cut
  trans := .trans

theorem Hearsay.act {x : Act α} (hx : Does ToldNothing h x) : Within (Hearsay inner) h (liftM x : Run α) :=
  Within.lift (.toldNothing hx)

theorem Hearsay.step {x : Act α} {f : α → Run β} (hx : Does ToldNothing h x)
    (hf : ∀ a h', Within (Hearsay inner) h' (f a)) : Within (Hearsay inner) h (liftM x >>= f) :=
  Within.act (composes_hearsay inner) (.toldNothing hx) (hf _ _)

theorem hearsay_pure (a : α) (h : Host) : Within (Hearsay inner) h (pure a) :=
  Within.pure (composes_hearsay inner) a

theorem hearsay_bind {x : Run α} {f : α → Run β} (hx : Within (Hearsay inner) h x)
    (hf : ∀ a h', Within (Hearsay inner) h' (f a)) : Within (Hearsay inner) h (x >>= f) :=
  Within.bind (composes_hearsay inner) hx fun a h' _ => hf a h'

theorem hearsay_change {g : Host → Host} {f : PUnit → Run β} (hg : ToldNothing h (g h))
    (hf : ∀ h', Within (Hearsay inner) h' (f ⟨⟩)) : Within (Hearsay inner) h (modify g >>= f) :=
  Within.change (composes_hearsay inner) (.toldNothing hg) (hf _)

theorem hearsay_lend {x : Run Unit} (hx : Within (Hearsay inner) { h with lent := d :: h.lent } x) :
    Within (Hearsay inner) h (lend d x) := by
  refine Within.change (composes_hearsay inner) (.toldNothing rfl) (hearsay_bind hx fun _ h' => ?_)
  have hu : ToldNothing h' { h' with lent := h'.lent.tail } := rfl
  exact hearsay_change hu fun _ => hearsay_pure _ _

/-! ### Application code -/

theorem hearsay_runScript (x : Context) (ops : List Op) (h : Host) :
    Within (Hearsay inner) h (runScript inner x ops) :=
  Within.forM (composes_hearsay inner) fun op _ h =>
    hearsay_bind (.asked x op h) fun _ _ => Hearsay.act (toldNothing_record rfl)

theorem hearsay_answerCall (k : Call) (h : Host) : Within (Hearsay inner) h (answerCall inner k) := by
  cases k with
  | accept a s =>
    refine Within.get ?_
    dsimp only
    split
    · exact hearsay_pure _ _
    · exact hearsay_pure _ _
    · exact hearsay_change rfl fun _ =>
        Hearsay.step (toldNothing_record rfl) fun _ _ => hearsay_runScript _ _ _
  | read c data =>
    refine Within.get ?_
    dsimp only
    split
    · exact Hearsay.act (Does.bind (toldNothing_sendData _ _ _) (toldNothing_report _ (.streamEchoFailed _)))
    · exact Hearsay.act (Does.bind (toldNothing_sendData _ _ _) (toldNothing_report _ (.pageFailed _)))
    · exact hearsay_change rfl fun _ => Hearsay.step (toldNothing_record rfl) fun _ _ =>
        hearsay_lend (hearsay_runScript _ _ _)
  | notify u f data =>
    refine Within.get ?_
    dsimp only
    split
    · exact Hearsay.act
        (Does.bind (toldNothing_sendDatagram _ _) (toldNothing_report _ (.datagramEchoFailed _)))
    · exact hearsay_change rfl fun _ =>
        Hearsay.step (toldNothing_record rfl) fun _ _ => hearsay_runScript _ _ _

/-! ### Receiving -/

section Application

variable (ha : ∀ k h, Within (Hearsay inner) h (app k))

include ha

theorem hearsay_receiveOn (c : ConnId) (seg : Segment) (h : Host) :
    Within (Hearsay inner) h (receiveOn app c seg) := by
  have hf : ∀ (o : Outcome) h, Within (Hearsay inner) h (do
      settle c (← steer c (·.finish o.fin)) : Run Unit) := fun o h =>
    Hearsay.step (toldNothing_steer c _ h) fun o' h' => Hearsay.act (toldNothing_settle c o' h')
  refine Hearsay.step (toldNothing_steer c _ h) fun o h₁ =>
    Hearsay.step (toldNothing_settle c o h₁) fun _ h₂ => ?_
  split
  · exact hearsay_pure _ _
  · split
    · exact hf o h₂
    · exact Hearsay.step (toldNothing_record rfl) fun _ h₃ => hearsay_bind (ha _ h₃) fun _ h₄ => hf o h₄

theorem hearsay_acceptStream (d : DeviceId) (s : Stream) (seg : Segment) (h : Host) :
    Within (Hearsay inner) h (acceptStream app d s seg) := by
  have hr : ∀ h, Within (Hearsay inner) h (acceptStream.reset d s seg) := fun h =>
    Hearsay.step (toldNothing_note _) fun _ h' => Hearsay.act (toldNothing_answer none d s _ h')
  refine Within.get ?_
  split
  · split
    · exact hr h
    · refine hearsay_bind (ha _ h) fun _ h₁ => Within.get ?_
      exact Hearsay.step (keepsLink_openStream s d _ seg.seq _ h₁).toldNothing fun c h₂ =>
        Hearsay.act (toldNothing_answerOn c _ h₂)
  · exact hr h

theorem hearsay_receiveSegment (d : DeviceId) (b : Bytes) (src : Ip) (h : Host) :
    Within (Hearsay inner) h (receiveSegment app d b src) := by
  unfold receiveSegment
  split
  · exact Hearsay.act (toldNothing_note _)
  · refine Within.get (Hearsay.step (toldNothing_record rfl) fun _ h₁ => ?_)
    split
    · exact hearsay_receiveOn ha _ _ h₁
    · split
      · exact hearsay_pure _ _
      · split
        · exact hearsay_acceptStream ha d _ _ h₁
        · exact Hearsay.act (toldNothing_note _)

theorem hearsay_receiveDatagram (d : DeviceId) (b : Bytes) (src : Ip) (h : Host) :
    Within (Hearsay inner) h (receiveDatagram app d b src) := by
  unfold receiveDatagram
  split
  · exact Hearsay.act (toldNothing_note _)
  · refine Within.get ?_
    split
    · exact Hearsay.act (toldNothing_note _)
    · exact Within.forM (composes_hearsay inner) fun u _ h => ha _ h

theorem hearsay_receivePacket (d : DeviceId) (b : Bytes) (h : Host) :
    Within (Hearsay inner) h (receivePacket app d b) := by
  refine Hearsay.step (toldNothing_register d) fun _ h₁ => ?_
  split
  · exact Hearsay.act (toldNothing_note _)
  · split_ifs
    · exact Hearsay.act (toldNothing_receiveIcmp d _ _)
    · exact Hearsay.act (toldNothing_note _)
    · exact hearsay_receiveSegment ha d _ _ h₁
    · exact hearsay_receiveDatagram ha d _ _ h₁
    · exact Hearsay.act (toldNothing_note _)

theorem hearsay_receiveFrame (hp : h.hearsFrame d b = none) :
    Within (Hearsay inner) h (receiveFrame app d b) := by
  unfold hearsFrame at hp
  unfold receiveFrame
  split
  · exact Hearsay.act (toldNothing_note _)
  · rename_i f hf
    rw [hf] at hp
    split
    · exact hearsay_receivePacket ha d _ h
    · split
      · rename_i ht
        exact Hearsay.act (toldNothing_receiveArp ((if_pos ht).symm.trans hp))
      · split
        · exact Hearsay.act (toldNothing_note _)
        · exact Hearsay.act (toldNothing_note _)

end Application

/-! ### Deferred work -/

theorem hearsay_runTask (t : TaskId) (h : Host) : Within (Hearsay inner) h (runTask inner t) := by
  refine Hearsay.step (keepsLinkAndBoard_modifyTask t _).toKeepsLink.toldNothing fun _ h₁ => Within.get ?_
  dsimp only
  split
  · refine Within.get ?_
    split
    · exact Hearsay.act (keepsLinkAndBoard_transmitNext _).toKeepsLink.toldNothing
    · exact Hearsay.act (toldNothing_record rfl)
  · exact Hearsay.step (keepsLinkAndBoard_modifyTask t _).toKeepsLink.toldNothing fun _ h₂ =>
      Hearsay.step (toldNothing_record rfl) fun _ h₃ => hearsay_runScript _ _ h₃

theorem hearsay_runJob {q : QueueId} {j : Job} {rest : List Job} (hq : h.queue q = j :: rest) :
    Hearsay inner ((runJob inner j).run (h.taken q j rest)).1.isSome h
      ((runJob inner j).run (h.taken q j rest)).2 := by
  have hj : (h.taken q j rest).journal = [.started q j] ++ h.journal := rfl
  have ht : ToldNothing h (h.taken q j rest) := toldNothing_append hj (List.forall_mem_singleton.mpr rfl)
  cases j with
  | frame d b =>
    cases hp : h.hearsFrame d b with
    | none =>
      exact .trans (.toldNothing ht) (hearsay_lend (hearsay_receiveFrame hearsay_answerCall hp))
    | some p =>
      have hp' : (h.taken q (.frame d b) rest).hearsFrame d b = some p := hp
      change Hearsay inner ((lend d (receiveFrame (answerCall inner) d b)).run _).1.isSome h
        ((lend d (receiveFrame (answerCall inner) d b)).run _).2
      rw [run_lend_hears hp']
      exact .deferred hq hp
  | once id ops =>
    exact .trans (.toldNothing ht)
      (Hearsay.step (toldNothing_record rfl) fun _ h₁ => hearsay_runScript _ _ h₁)
  | task t => exact .trans (.toldNothing ht) (hearsay_runTask t _)

theorem hearsay_drain (q : QueueId) (fuel n : Nat) (h : Host) :
    Within (Hearsay inner) h (drain inner q fuel n) := by
  induction fuel generalizing n h with
  | zero => exact Within.failure (composes_hearsay inner)
  | succ fuel ih =>
    cases hq : h.queue q with
    | nil =>
      unfold Within
      rw [run_drain_empty hq]
      exact .toldNothing (toldNothing_record rfl)
    | cons j rest =>
      have hj : Hearsay inner ((runJob inner j).run (h.taken q j rest)).1.isSome h
          ((runJob inner j).run (h.taken q j rest)).2 := hearsay_runJob hq
      unfold Within
      rw [run_drain_next (run_next hq), run_bind]
      generalize (runJob inner j).run (h.taken q j rest) = r at hj ⊢
      obtain ⟨r, h₁⟩ := r
      cases r with
      | none => exact hj
      | some _ => exact .trans hj (ih (n + 1) h₁)

/-! ### Operations -/

/-- **An operation that tells nothing**: what is told while it is run is told from elsewhere. -/
theorem hearsay_perform {x : Context} {op : Op} (hp : h.tells x op = none) (fuel : Nat) :
    Within (Hearsay inner) h (perform inner fuel x op) := by
  have hd : ∀ (d : DeviceId) (y : Run Unit),
      Within (Hearsay inner) { h with lent := d :: h.lent } y →
      Within (Hearsay inner) h (lend d y >>= fun _ => pure Reply.done) := fun d y hy =>
    hearsay_bind (hearsay_lend hy) fun _ _ => hearsay_pure _ _
  have ha : ∀ {α : Type} {y : Act α} (f : α → Reply), Does ToldNothing h y →
      Within (Hearsay inner) h (liftM y >>= fun a => pure (f a) : Run Reply) := fun f hy =>
    Hearsay.step hy fun _ _ => hearsay_pure _ _
  have hc : ∀ k h, Within (Hearsay inner) h (answerCall inner k) := hearsay_answerCall
  cases op with
  | store => cases hp
  | receive d b => exact hd d _ (hearsay_receiveFrame hc hp)
  | defer d b => exact ha _ (keepsLinkAndBoard_put 0 _).toKeepsLink.toldNothing
  | poll q => exact Within.map (composes_hearsay inner) _ (hearsay_drain q fuel 0 h)
  | register d => exact ha _ (toldNothing_register d)
  | announce d => exact ha _ (Does.bind (toldNothing_register d) (toldNothing_advertise d))
  | advertise d => exact ha _ (toldNothing_advertise d)
  | lookup d ip => exact ha _ (dispatch_lookup d ip h).toldNothing
  | receiveArp d b => exact ha _ (toldNothing_receiveArp hp)
  | receivePacket d b => exact hd d _ (hearsay_receivePacket hc d _ _)
  | receiveIcmp d b src => exact ha _ (toldNothing_receiveIcmp d _ src)
  | receiveSegment d b src => exact hd d _ (hearsay_receiveSegment hc d _ src _)
  | receiveDatagram d b src => exact hd d _ (hearsay_receiveDatagram hc d _ src _)
  | sendPacket d protocol dst room b =>
    exact Hearsay.step (toldNothing_record rfl) fun _ h₁ =>
      Hearsay.step (dispatch_sendPacket _ _ _ d h₁).toldNothing fun _ _ =>
        Hearsay.step (toldNothing_record rfl) fun _ _ => hearsay_pure _ _
  | sendFrame d type dst room b =>
    exact Hearsay.step (toldNothing_record rfl) fun _ h₁ =>
      Hearsay.step (dispatch_sendFrame _ _ _ d h₁).toldNothing fun _ _ =>
        Hearsay.step (toldNothing_record rfl) fun _ _ => hearsay_pure _ _
  | listen port accept read => exact ha _ (keepsLinkAndBoard_listen port _).toKeepsLink.toldNothing
  | send t b =>
    unfold perform
    dsimp only
    split
    · exact ha _ (toldNothing_sendData _ _ h)
    · exact hearsay_pure _ h
  | close t =>
    unfold perform
    dsimp only
    split
    · exact ha _ (toldNothing_close _ h)
    · exact hearsay_pure _ h
  | subscribe port id notify => exact ha _ (toldNothing_subscribe port _)
  | sendDatagram f b =>
    unfold perform
    dsimp only
    split
    · exact ha _ (toldNothing_sendDatagram _ _)
    · exact hearsay_pure _ h
  | serveEcho => exact ha _ toldNothing_serveEcho
  | servePage => exact ha _ toldNothing_servePage
  | setFailure d r => exact hearsay_change rfl fun _ => hearsay_pure _ _
  | release d => exact hearsay_change rfl fun _ => hearsay_pure _ _
  | spawn q id ops => exact ha _ (keepsLinkAndBoard_put q _).toKeepsLink.toldNothing
  | define id runs => exact ha (y := defineTask id runs) _ rfl
  | enqueue id q =>
    refine Within.get ?_
    dsimp only
    split
    · exact Hearsay.step (keepsLinkAndBoard_enqueue q _).toKeepsLink.toldNothing fun _ h₁ =>
        Within.get (hearsay_pure _ h₁)
    · exact Within.get (hearsay_pure _ h)
  | pending | ownerOf | stateOf | summary | settings | deviceState | taskState =>
    exact Within.get (hearsay_pure _ h)

/-! ## The table of a host -/

/-- **The table of a host is a bounded map in which the last word counts.** What the host was told is
`tellings h.journal`; as many addresses as fit are known, those that came first. -/
structure Directory (h : Host) : Prop where
  /-- Who looks up an address gets what was told last, if it is one of the first. -/
  finds : ∀ d ip, ((lookup d ip).run h).1 =
    if ip ∈ Arp.firsts h.config.arpCapacity (tellings h.journal) then
      Arp.latest (tellings h.journal) ip
    else none
  /-- One more pair is stored if its address is one of the first when it has come; otherwise there is one
  notice. Nothing else changes but the table. -/
  stores : ∀ ip mac,
    let k := decide (ip ∈ Arp.firsts h.config.arpCapacity (tellings h.journal ++ [(ip, mac)]))
    (store ip mac).run h = (k, { h with
      arp := Arp.told h.config.arpCapacity (tellings h.journal ++ [(ip, mac)])
      journal := (if k then [] else [.noticed (.arpTableFull ip mac)]) ++
        .stored ip mac k :: h.journal })
  /-- No address has two entries, and there are not too many. -/
  distinct : (h.arp.entries.map Prod.fst).Nodup
  bounded : h.arp.entries.length ≤ h.config.arpCapacity
  /-- An address that is known stays known. -/
  stays : ∀ {e h' d ip}, Leads e h h' → ((lookup d ip).run h).1.isSome →
    ∀ d', ((lookup d' ip).run h').1.isSome
  /-- Who looks up what is known changes nothing, … -/
  hits : ∀ {d ip mac}, ((lookup d ip).run h).1 = some mac → (lookup d ip).run h = (some mac, h)
  /-- … and who looks up what is not asks everybody for it, in one frame. -/
  misses : ∀ {d ip}, ((lookup d ip).run h).1 = none → Dispatch h ((lookup d ip).run h).2 ∧
    ∀ e, asked e ((lookup d ip).run h).2.journal = asked e h.journal ++
      if d = e then [h.arpFrame d .broadcast Arp.request .zero ip] else []
  /-- An operation that tells a pair stores it. What is stored while any other is run is told by operations
  inside or by frames that were deferred. -/
  told : ∀ inner fuel x op, match h.tells x op with
    | some p => ∃ r, (perform inner fuel x op).run h = (some r, ((store p.1 p.2).run h).2)
    | none => Within (Hearsay inner) h (perform inner fuel x op)

theorem fst_lookup (d : DeviceId) (ip : Ip) (h : Host) : ((lookup d ip).run h).1 = h.arp.get? ip := by
  cases hm : h.arp.get? ip with
  | none => exact lookup_eq_none hm
  | some mac => rw [run_lookup hm]

/-- **The table of every host is the bounded map of what it was told**, whatever it was used for. -/
theorem Visited.directory (hv : Visited h) : Directory h where
  finds d ip := by
    rw [fst_lookup, hv.arp_eq, Arp.get?_told]
  stores ip mac := by
    have hk := Arp.isSome_insert?_told h.config.arpCapacity (tellings h.journal) (ip, mac)
    rw [← hv.arp_eq] at hk
    refine (run_store ip mac h).trans ?_
    rw [Bool.eq_iff_iff.mpr (hk.trans decide_eq_true_iff.symm), Arp.told_concat, ← hv.arp_eq]
  distinct := by
    have hk := Arp.keys_told h.config.arpCapacity (tellings h.journal)
    rw [← hv.arp_eq] at hk
    change h.arp.keys.Nodup
    rw [hk]
    exact Arp.nodup_firsts ..
  bounded := by
    have hl := Arp.length_firsts_le h.config.arpCapacity (tellings h.journal)
    rw [← Arp.keys_told, ← hv.arp_eq, Arp.Table.length_keys] at hl
    exact hl
  stays hl hs d' := by
    rw [fst_lookup] at hs ⊢
    obtain ⟨new, -, ht⟩ := (learns_leads hl).table
    rw [ht]
    exact isSome_get?_foldl_learn hs
  hits hm := by
    rw [fst_lookup] at hm
    exact run_lookup hm
  misses hm := by
    rw [fst_lookup] at hm
    exact ⟨dispatch_lookup _ _ h, asked_lookup hm _⟩
  told inner fuel x op := by
    split
    · rename_i p hp
      exact run_perform_tells hp fuel
    · rename_i hp
      exact hearsay_perform hp fuel

/-! ### A table that is full -/

/-- The answer of 10.0.0.3 to the talker, as a frame. -/
def reminder : Bytes :=
  Ethernet.Frame.encode ⟨talker.mac, ⟨2, 0, 0, 0, 0, 3⟩, Ethernet.arpType,
    Arp.Packet.encode ⟨Arp.reply, ⟨2, 0, 0, 0, 0, 3⟩, ⟨10, 0, 0, 3⟩, talker.mac, talker.ip⟩⟩

/-- The settings of a host that has room for two addresses. -/
def narrow : Config := { arpCapacity := 2 }

/-- The host after it was told of three addresses, and of the first of them twice. -/
def crowded? : Option Host :=
  after? 3
    [.store ⟨10, 0, 0, 2⟩ ⟨2, 0, 0, 0, 0, 2⟩, .receive 0 (.bytes reminder),
      .store ⟨10, 0, 0, 4⟩ ⟨2, 0, 0, 0, 0, 4⟩, .store ⟨10, 0, 0, 2⟩ ⟨2, 0, 0, 0, 0, 9⟩]
    (attach { config := narrow } talker)

def crowded : Host := crowded?.getD default

theorem visited_crowded : Visited crowded := by
  have hs : crowded?.isSome = true := by decide +kernel
  obtain ⟨h, hh⟩ := Option.isSome_iff_exists.mp hs
  rw [crowded, hh]
  exact ⟨⟨narrow, [talker]⟩, _, true, rfl, leads_after? hh⟩

theorem directory_crowded : Visited crowded ∧
    (tellings crowded.journal).map Prod.fst =
      [⟨10, 0, 0, 2⟩, ⟨10, 0, 0, 3⟩, ⟨10, 0, 0, 4⟩, ⟨10, 0, 0, 2⟩] ∧
    ((lookup 0 ⟨10, 0, 0, 2⟩).run crowded).1 = some ⟨2, 0, 0, 0, 0, 9⟩ ∧
    ((lookup 0 ⟨10, 0, 0, 4⟩).run crowded).1 = none ∧
    crowded.tells {} (.receive 0 (.bytes reminder)) = some (⟨10, 0, 0, 3⟩, ⟨2, 0, 0, 0, 0, 3⟩) ∧
    Directory crowded := by
  have hd := visited_crowded.directory
  refine ⟨visited_crowded, by decide +kernel, ?_, ?_, by decide +kernel, hd⟩
  · rw [hd.finds]
    decide +kernel
  · rw [hd.finds]
    decide +kernel

end InetHost.Host
