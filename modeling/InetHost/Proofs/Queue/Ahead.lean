import InetHost.Proofs.Run.Within
import Mathlib.Data.List.GetD

/-!
# Jobs ahead of others

Two hosts may differ in one thing only: on the own queue of the second some jobs wait in front of
those of the first. What a host does at once pays no heed to what waits there. So the same act does the
same to both, and what it puts on the queue ends up behind the jobs that were ahead.

* `Ahead p h h'`: the jobs `p` are ahead on `h'`. The devices that they need are held anyway;
* `Heedless p x`: the act `x` does the same to both hosts;
* `heedless_offer`, `heedless_sendData`, …: one lemma for each act.
-/

namespace InetHost.Host

/-- **Some jobs are ahead** on the own queue of the second host; all else is the same, but for the
events that cannot be seen from outside. -/
structure Ahead (p : List Job) (h h' : Host) : Prop where
  same : h' = { h with queues := h'.queues, journal := h'.journal }
  queue : ∀ q, h'.queue q = (if q = 0 then p else []) ++ h.queue q
  visible : h'.journal.filter Event.visible = h.journal.filter Event.visible
  held : ∀ d, p.any (holds d) = true → (h.device d).held = true

/-- **An act does the same** to a host on which some jobs are ahead. -/
def Heedless (p : List Job) {α : Type} (x : Act α) : Prop :=
  ∀ h h', Ahead p h h' → (x.run h').1 = (x.run h).1 ∧ Ahead p (x.run h).2 (x.run h').2

variable {α β : Type} {p : List Job} {h h' : Host}

/-! ## Rules -/

/-- What does not ask for queues or the journal is the same on both hosts. -/
theorem Ahead.eq (a : Ahead p h h') {f : Host → β}
    (hf : ∀ h qs j, f { h with queues := qs, journal := j } = f h) : f h' = f h := by
  rw [a.same]
  exact hf h _ _

theorem Heedless.pure (a : α) : Heedless p (pure a : Act α) := fun _ _ ha => ⟨rfl, ha⟩

theorem Heedless.bind {x : Act α} {f : α → Act β} (hx : Heedless p x)
    (hf : ∀ a, Heedless p (f a)) : Heedless p (x >>= f) := by
  intro h h' ha
  obtain ⟨he, ha⟩ := hx h h' ha
  rw [StateT.run_bind, StateT.run_bind]
  change ((f (x.run h').1).run (x.run h').2).1 = ((f (x.run h).1).run (x.run h).2).1 ∧
    Ahead p ((f (x.run h).1).run (x.run h).2).2 ((f (x.run h').1).run (x.run h').2).2
  rw [he]
  exact hf _ _ _ ha

theorem Heedless.get {f : Host → Act β}
    (hf : ∀ h qs j, f { h with queues := qs, journal := j } = f h) (hh : ∀ h, Heedless p (f h)) :
    Heedless p (get >>= f) := by
  intro h h' ha
  rw [act_get, act_get, ha.eq hf]
  exact hh h h h' ha

theorem Heedless.modify {g : Host → Host}
    (hg : ∀ h qs j, g { h with queues := qs, journal := j } = { g h with queues := qs, journal := j })
    (hq : ∀ h, g h = { g h with queues := h.queues, journal := h.journal })
    (hd : ∀ h d, p.any (holds d) = true → (h.device d).held = true →
      ((g h).device d).held = true) : Heedless p (modify g : Act PUnit) := by
  intro h h' ha
  refine ⟨rfl, ?_⟩
  change Ahead p (g h) (g h')
  have hs : g h' = { g h with queues := h'.queues, journal := h'.journal } := by
    rw [ha.same]
    exact hg h _ _
  have hh := hq h
  refine ⟨?_, fun q => ?_, ?_, fun d hp => hd h d hp (ha.held d hp)⟩
  · rw [hs]
  · have ha := ha.queue q
    unfold queue at ha ⊢
    rw [hs, hh]
    exact ha
  · rw [hs, hh]
    exact ha.visible

/-! ### Events and jobs -/

/-- The same is entered on both hosts, or what cannot be seen. -/
theorem Ahead.record (ha : Ahead p h h') {e e' : Event}
    (he : e' = e ∨ e'.visible = false ∧ e.visible = false) :
    Ahead p { h with journal := e :: h.journal } { h' with journal := e' :: h'.journal } := by
  refine ⟨?_, ha.queue, ?_, ha.held⟩
  · rw [ha.same]
  · change (e' :: h'.journal).filter Event.visible = (e :: h.journal).filter Event.visible
    rw [List.filter_cons, List.filter_cons, ha.visible]
    rcases he with rfl | ⟨h₁, h₂⟩
    · rfl
    · rw [h₁, h₂]
      rfl

theorem heedless_record (e : Event) : Heedless p (record e) :=
  fun _ _ ha => ⟨rfl, ha.record (.inl rfl)⟩

theorem heedless_note (n : Notice) : Heedless p (note n) := heedless_record _

theorem queue_alter (f : List Job → List Job) (q : QueueId) (h : Host) (r : QueueId) :
    Host.queue { h with queues := alterQueue f q h.queues } r =
      if r = q then f (h.queue q) else h.queue r :=
  getD_alterQueue f q r h.queues

/-- Queues that change in the same way behind the jobs that are ahead. -/
theorem Ahead.alter (ha : Ahead p h h') {f f' : List Job → List Job} (q : QueueId)
    (hf : f' (h'.queue q) = (if q = 0 then p else []) ++ f (h.queue q)) :
    Ahead p { h with queues := alterQueue f q h.queues }
      { h' with queues := alterQueue f' q h'.queues } := by
  refine ⟨?_, fun r => ?_, ha.visible, ha.held⟩
  · rw [ha.same]
  · rw [queue_alter, queue_alter]
    by_cases hr : r = q
    · rw [if_pos hr, if_pos hr, hr]
      exact hf
    · rw [if_neg hr, if_neg hr]
      exact ha.queue r

theorem heedless_put (q : QueueId) (j : Job) : Heedless p (put q j) := by
  refine Heedless.bind (fun h h' ha => ⟨rfl, ha.alter q ?_⟩) fun _ => heedless_record _
  rw [ha.queue q, List.append_assoc]

theorem Ahead.queue_eq (ha : Ahead p h h') {q : QueueId} (hq : q ≠ 0 ∨ p = []) :
    h'.queue q = h.queue q := by
  rw [ha.queue q]
  rcases hq with hq | rfl
  · rw [if_neg hq, List.nil_append]
  · rw [ite_self, List.nil_append]

theorem heedless_next {q : QueueId} (hq : q ≠ 0 ∨ p = []) : Heedless p (next? q) := by
  intro h h' ha
  unfold next?
  rw [act_get, act_get, ha.queue_eq hq]
  cases h.queue q with
  | nil => exact ⟨rfl, ha⟩
  | cons j rest =>
    have hn : rest = (if q = 0 then p else []) ++ rest := by
      rcases hq with hq | rfl
      · rw [if_neg hq, List.nil_append]
      · rw [ite_self, List.nil_append]
    exact ⟨rfl, (heedless_record (.started q j) _ _ (ha.alter q hn)).2⟩

theorem heedless_modifyTask (t : TaskId) (f : Task → Task) : Heedless p (modifyTask t f) :=
  .modify (fun _ _ _ => rfl) (fun _ => rfl) fun _ _ _ => id

theorem heedless_enqueue (q : QueueId) (t : TaskId) : Heedless p (enqueue q t) := by
  refine .get (fun _ _ _ => rfl) fun h => ?_
  split
  · exact .pure _
  · exact (heedless_modifyTask t _).bind fun _ => heedless_put q _

/-! ### Devices -/

theorem device_modify (f : Device → Device) (d d' : DeviceId) (h : Host) :
    Host.device { h with devices := h.devices.modify d f } d' = h.device d' ∨
      d' = d ∧ Host.device { h with devices := h.devices.modify d f } d' = f (h.device d') := by
  unfold device
  rw [List.getD_eq_getElem?_getD, List.getElem?_modify, List.getD_eq_getElem?_getD]
  cases h.devices[d']? with
  | none => exact .inl rfl
  | some v =>
    by_cases hd : d = d'
    · exact .inr ⟨hd.symm, if_pos hd⟩
    · exact .inl (if_neg hd)

/-- A change of a device that nobody lets go of. -/
theorem heedless_devices {d : DeviceId} {f : Device → Device}
    (hf : p.any (holds d) = true → ∀ v, v.held = true → (f v).held = true) :
    Heedless p (modify fun h => { h with devices := h.devices.modify d f } : Act PUnit) := by
  refine .modify (fun _ _ _ => rfl) (fun _ => rfl) fun h d' hp hh => ?_
  rcases device_modify f d d' h with he | ⟨rfl, he⟩
  · rwa [he]
  · rw [he]
    exact hf hp _ hh

theorem heedless_useHardware (d : DeviceId) : Heedless p (useHardware d) :=
  heedless_devices fun _ _ hv => hv

theorem heedless_modifyStaged (d : DeviceId) (f : List Bytes → List Bytes) :
    Heedless p (modifyStaged d f) :=
  heedless_devices fun _ _ hv => hv

theorem any_queues (f : Job → Bool) (h : Host) :
    h.queues.any (·.any f) = true ↔ ∃ q, (h.queue q).any f = true := by
  unfold queue
  rw [List.any_eq_true]
  constructor
  · rintro ⟨l, hl, hf⟩
    obtain ⟨q, hq, rfl⟩ := List.mem_iff_getElem.mp hl
    exact ⟨q, by rwa [List.getD_eq_getElem _ _ hq]⟩
  · rintro ⟨q, hq⟩
    by_cases hl : q < h.queues.length
    · rw [List.getD_eq_getElem _ _ hl] at hq
      exact ⟨_, List.getElem_mem hl, hq⟩
    · rw [List.getD_eq_default _ _ (Nat.not_lt.mp hl)] at hq
      cases hq

/-- **A device is alive on both hosts**: one that only a job ahead needs is held. -/
theorem Ahead.alive (ha : Ahead p h h') (d : DeviceId) : h'.alive d = h.alive d := by
  have hq : (h'.queues.any (·.any (holds d)) = true) ↔
      p.any (holds d) = true ∨ h.queues.any (·.any (holds d)) = true := by
    rw [any_queues, any_queues]
    constructor
    · rintro ⟨q, hq⟩
      rw [ha.queue q, List.any_append, Bool.or_eq_true] at hq
      split_ifs at hq
      · exact hq.imp_right fun hq => ⟨q, hq⟩
      · exact .inr ⟨q, hq.resolve_left nofun⟩
    · rintro (hp | ⟨q, hq⟩)
      · exact ⟨0, by rw [ha.queue 0, if_pos rfl, List.any_append, hp, Bool.true_or]⟩
      · exact ⟨q, by rw [ha.queue q, List.any_append, hq, Bool.or_true]⟩
  have he : h'.alive d = ((h.device d).held || h.owners.any (·.2 == d) ||
      h.streams.any (fun e => (h.connection e.2).device == d) ||
      h'.queues.any (·.any (holds d)) || h.lent.contains d) := by
    rw [ha.same]
    rfl
  rw [he]
  unfold Host.alive
  cases hp : p.any (holds d) with
  | true => rw [ha.held d hp]; simp only [Bool.true_or]
  | false =>
    rw [hp] at hq
    rw [Bool.eq_iff_iff.mpr (hq.trans (or_iff_right (by decide)))]

/-! ## Sending -/

theorem heedless_report (r : Except NetError Unit) (n : NetError → Notice) :
    Heedless p (match r with | .ok _ => pure () | .error e => note (n e) : Act Unit) := by
  cases r with
  | ok => exact .pure _
  | error e => exact heedless_note _

theorem heedless_transmit (d : DeviceId) (frame : Bytes) : Heedless p (transmit d frame) := by
  refine .get (fun _ _ _ => rfl) fun h => (heedless_useHardware d).bind fun _ => ?_
  refine (heedless_record _).bind fun _ => ?_
  split
  · exact .pure _
  · exact (heedless_record _).bind fun _ => .pure _

theorem heedless_offer (d : DeviceId) (frame : Bytes) : Heedless p (offer d frame) := by
  refine .get (fun _ _ _ => rfl) fun h => ?_
  dsimp only
  split
  · exact (heedless_record _).bind fun _ => heedless_transmit d frame
  · refine (heedless_record _).bind fun _ => (heedless_modifyStaged d _).bind fun _ => ?_
    exact (heedless_enqueue _ _).bind fun _ => .pure _

theorem heedless_transmitNext (d : DeviceId) : Heedless p (transmitNext d) := by
  refine .get (fun _ _ _ => rfl) fun h => ?_
  dsimp only
  split
  · exact .pure _
  · split
    · exact .pure _
    · refine (heedless_modifyStaged d _).bind fun _ => (heedless_transmit d _).bind fun r => ?_
      have hn : ∀ b : Bool, ∀ q t, Heedless p
          (if b = true then Pure.pure PUnit.unit else enqueue q t : Act PUnit) := by
        intro b q t
        split
        · exact .pure _
        · exact heedless_enqueue q t
      cases r with
      | ok => exact hn _ _ _
      | error e => exact (heedless_note _).bind fun _ => hn _ _ _

theorem heedless_sendFrame (b : PacketBuffer) (type : UInt16) (dst : Mac) (d : DeviceId) :
    Heedless p (sendFrame b type dst d) := by
  refine .get (fun _ _ _ => rfl) fun h => ?_
  split
  · exact .pure _
  · exact heedless_offer d _

theorem heedless_askFor (d : DeviceId) (ip : Ip) : Heedless p (askFor d ip) :=
  .get (fun _ _ _ => rfl) fun _ => heedless_sendFrame _ _ _ d

theorem heedless_tell (d : DeviceId) (mac : Mac) (ip : Ip) : Heedless p (tell d mac ip) :=
  .get (fun _ _ _ => rfl) fun _ => heedless_sendFrame _ _ _ d

theorem heedless_advertise (d : DeviceId) : Heedless p (advertise d) :=
  .get (fun _ _ _ => rfl) fun _ => heedless_tell d _ _

theorem heedless_lookup (d : DeviceId) (ip : Ip) : Heedless p (lookup d ip) := by
  refine .get (fun _ _ _ => rfl) fun h => ?_
  split
  · exact .pure _
  · refine (heedless_askFor d ip).bind fun r => ?_
    cases r with
    | ok => exact .pure _
    | error e => exact (heedless_note _).bind fun _ => .pure _

theorem heedless_store (ip : Ip) (mac : Mac) : Heedless p (store ip mac) := by
  refine .get (fun _ _ _ => rfl) fun h => ?_
  split
  · refine Heedless.bind (.modify (fun _ _ _ => rfl) (fun _ => rfl) fun _ _ _ => id) fun _ => ?_
    exact (heedless_record _).bind fun _ => .pure _
  · exact (heedless_record _).bind fun _ => (heedless_note _).bind fun _ => .pure _

theorem heedless_receiveArp (d : DeviceId) (b : Bytes) : Heedless p (receiveArp d b) := by
  unfold receiveArp
  split
  · exact heedless_note _
  · refine .get (fun _ _ _ => rfl) fun h => ?_
    split_ifs
    · exact (heedless_tell d _ _).bind fun r => heedless_report r (.arpReplyFailed _)
    · exact (heedless_store _ _).bind fun _ => .pure _
    · exact heedless_note _
    · exact .pure _

theorem heedless_register (d : DeviceId) : Heedless p (register d) := by
  refine (heedless_record _).bind fun _ => .get (fun _ _ _ => rfl) fun h => ?_
  dsimp only
  split
  · refine (heedless_note _).bind fun _ => ?_
    exact .modify (fun _ _ _ => rfl) (fun _ => rfl) fun _ _ _ => id
  · exact .pure _

theorem heedless_announce (d : DeviceId) : Heedless p (announce d) :=
  (heedless_register d).bind fun _ => heedless_advertise d

theorem heedless_sendPacket (b : PacketBuffer) (protocol : UInt8) (dst : Ip) (d : DeviceId) :
    Heedless p (sendPacket b protocol dst d) := by
  refine .get (fun _ _ _ => rfl) fun h => ?_
  dsimp only
  split
  · exact .pure _
  · split_ifs
    · exact .pure _
    · refine (heedless_lookup d dst).bind fun r => ?_
      cases r with
      | none => exact .pure _
      | some mac => exact heedless_sendFrame _ _ mac d

theorem heedless_receiveIcmp (d : DeviceId) (b : Bytes) (src : Ip) :
    Heedless p (receiveIcmp d b src) := by
  unfold receiveIcmp
  split
  · exact heedless_note _
  · split_ifs
    · exact (heedless_sendPacket _ _ _ d).bind fun r => heedless_report r (.echoFailed src)
    · exact heedless_note _

/-! ## Datagrams -/

theorem heedless_subscribe (port : UInt16) (service : DatagramService) :
    Heedless p (subscribe port service) :=
  .modify (fun _ _ _ => rfl) (fun _ => rfl) fun _ _ _ => id

theorem heedless_sendDatagram (f : Flow) (data : Bytes) : Heedless p (sendDatagram f data) := by
  refine .get (fun _ _ _ => rfl) fun h => ?_
  split
  · exact .pure _
  · split_ifs
    · exact .pure _
    · exact heedless_sendPacket _ _ _ _

/-! ## Connections -/

theorem heedless_sendSegment (c : Option ConnId) (d : DeviceId) (s : Stream) (t : Tcp.Header)
    (data : Bytes) : Heedless p (sendSegment c d s t data) :=
  (heedless_sendPacket _ _ _ d).bind fun _ => (heedless_record _).bind fun _ => .pure _

theorem heedless_answer (c : Option ConnId) (d : DeviceId) (s : Stream) (t : Tcp.Header) :
    Heedless p (answer c d s t) :=
  (heedless_sendSegment c d s t []).bind fun r => heedless_report r (.replyFailed s t.flags)

theorem heedless_emit (c : ConnId) (t : Tcp.Header) (data : Bytes) : Heedless p (emit c t data) :=
  .get (fun _ _ _ => rfl) fun _ => heedless_sendSegment _ _ _ t data

theorem heedless_answerOn (c : ConnId) (t : Tcp.Header) : Heedless p (answerOn c t) :=
  .get (fun _ _ _ => rfl) fun _ => heedless_answer _ _ _ t

theorem heedless_setControl (c : ConnId) (k : Tcp.Control) : Heedless p (setControl c k) := by
  refine .get (fun _ _ _ => rfl) fun h => ?_
  refine Heedless.bind (.modify (fun _ _ _ => rfl) (fun _ => rfl) fun _ _ _ => id) fun _ => ?_
  split
  · exact .pure _
  · exact heedless_record _

theorem heedless_removeStream (s : Stream) (c : ConnId) : Heedless p (removeStream s c) := by
  refine .get (fun _ _ _ => rfl) fun h => ?_
  split
  · exact .pure _
  · refine Heedless.bind (.modify (fun _ _ _ => rfl) (fun _ => rfl) fun _ _ _ => id) fun _ => ?_
    exact heedless_record _

theorem heedless_forM {o : Option α} {f : α → Act Unit} (hf : ∀ a, Heedless p (f a)) :
    Heedless p (o.forM f) := by
  cases o with
  | none => exact .pure _
  | some a => exact hf a

theorem heedless_openStream (s : Stream) (d : DeviceId) (service : StreamService)
    (isn : Tcp.SeqNum) (k : Tcp.Control) : Heedless p (openStream s d service isn k) := by
  refine .get (fun _ _ _ => rfl) fun h => ?_
  refine Heedless.bind (.modify (fun _ _ _ => rfl) (fun _ => rfl) fun _ _ _ => id) fun _ => ?_
  refine (heedless_forM fun _ => heedless_record _).bind fun _ => ?_
  exact (heedless_record _).bind fun _ => .pure _

theorem heedless_listen (port : UInt16) (service : StreamService) :
    Heedless p (listen port service) := by
  refine .get (fun _ _ _ => rfl) fun h => ?_
  split
  · exact .pure _
  · exact Heedless.bind (.modify (fun _ _ _ => rfl) (fun _ => rfl) fun _ _ _ => id) fun _ => .pure _

theorem heedless_steer (c : ConnId) (f : Tcp.Control → Tcp.Control × Tcp.Outcome) :
    Heedless p (steer c f) := by
  refine .get (fun _ _ _ => rfl) fun h => ?_
  dsimp only
  refine (heedless_setControl c _).bind fun _ => ?_
  have hn : ∀ o : Tcp.Outcome, Heedless p (do o.notice.forM note; return o : Act Tcp.Outcome) :=
    fun o => (heedless_forM heedless_note).bind fun _ => .pure _
  split
  · exact (heedless_record _).bind fun _ => hn _
  · exact hn _

theorem heedless_settle (c : ConnId) (o : Tcp.Outcome) : Heedless p (settle c o) := by
  refine (heedless_forM (heedless_answerOn c)).bind fun _ => ?_
  split
  · refine .get (fun _ _ _ => rfl) fun h => ?_
    exact (heedless_note _).bind fun _ => heedless_removeStream _ c
  · exact .pure _

theorem heedless_advance (c : ConnId) (t : Tcp.Header) (data : Bytes) (k : Tcp.Control) :
    Heedless p (do
      let r ← emit c t data
      if r.toBool then setControl c k
      return r : Act (Except NetError Unit)) := by
  refine (heedless_emit c t data).bind fun r => ?_
  split
  · exact (heedless_setControl c k).bind fun _ => .pure _
  · exact .pure _

theorem heedless_sendData (s : Stream) (data : Bytes) : Heedless p (sendData s data) := by
  refine .get (fun _ _ _ => rfl) fun h => ?_
  split_ifs
  · exact .pure _
  · split
    · exact .pure _
    · dsimp only
      split_ifs
      · exact heedless_advance _ _ data _
      · exact .pure _

theorem heedless_close (s : Stream) : Heedless p (close s) := by
  refine .get (fun _ _ _ => rfl) fun h => ?_
  split
  · exact .pure _
  · dsimp only
    split
    · exact .pure _
    · exact heedless_advance _ _ [] _

/-! ## Services and tasks -/

theorem heedless_echoStream (s : Stream) (data : Bytes) : Heedless p (echoStream s data) :=
  (heedless_sendData s data).bind fun r => heedless_report r (.streamEchoFailed s.peer)

theorem heedless_sendPage (s : Stream) : Heedless p (sendPage s) :=
  (heedless_sendData s page).bind fun r => heedless_report r (.pageFailed s.peer)

theorem heedless_echoDatagram (f : Flow) (data : Bytes) : Heedless p (echoDatagram f data) :=
  (heedless_sendDatagram f.reverse data).bind fun r => heedless_report r (.datagramEchoFailed f.src)

theorem heedless_serveEcho : Heedless p serveEcho := by
  refine (heedless_listen echoPort .echo).bind fun r => ?_
  cases r with
  | ok => exact (heedless_subscribe echoPort .echo).bind fun _ => .pure _
  | error e => exact (heedless_note _).bind fun _ => .pure _

theorem heedless_servePage : Heedless p servePage := by
  refine (heedless_listen pagePort .page).bind fun r => ?_
  cases r with
  | ok => exact .pure _
  | error e => exact (heedless_note _).bind fun _ => .pure _

theorem heedless_defineTask (id : Label) (runs : Script) : Heedless p (defineTask id runs) :=
  .modify (fun _ _ _ => rfl) (fun _ => rfl) fun _ _ _ hh => hh

end InetHost.Host
