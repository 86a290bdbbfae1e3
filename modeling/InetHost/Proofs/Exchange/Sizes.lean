import InetHost.Proofs.Exchange.Learning
import InetHost.Proofs.Exchange.Padding
import InetHost.Proofs.Exchange.Reading
import InetHost.Proofs.Frame.Offers
import InetHost.Proofs.Queue.Ledger
import InetHost.Proofs.Run.Depth
import InetHost.Proofs.Run.Reaction
import InetHost.Proofs.Stream.Requests

/-!
# How long frames are

What a host sends of itself is as long as what it is given, or as long as its configuration allows.

* `Op.short`: operations that give a host no packet longer than `m`;
* `Sized`: no frame was longer, and none that is waits on a queue;
* `keepsSized_reaction`, **`remains_perform`**: it stays so, whatever the host does of itself and for the
  application;
* `Measured`, `Limits`: what follows from it for frames, for what they say of their length, and for errors;
* **`LeadsBy.limits`**: so it is for every host that is given nothing longer than its configuration allows.
-/

namespace InetHost

/-! ## What a host is given -/

/-- If the bytes are a packet, then it is not longer than `m`. -/
def ShortPacket (m : Nat) (b : Bytes) : Prop := ∀ p : Ipv4.Packet, p.Reads b → Bytes.field b 2 2 ≤ m

/-- If the bytes are a frame with a packet, then it is not longer than `m`. -/
def ShortFrame (m : Nat) (b : Bytes) : Prop :=
  ∀ f : Ethernet.Frame, f.Reads b → f.type = 0x0800 → ShortPacket m f.payload

/-- **An operation gives the host no packet longer than `m`**, at once or later. A control message that is
given without its packet is one of `ms`. -/
def Op.short (m : Nat) (ms : List Bytes) (x : Context) : Op → Prop
  | .receive _ b | .defer _ b => ShortFrame m (b.resolve x)
  | .receivePacket _ b => ShortPacket m (b.resolve x)
  | .receiveIcmp _ b _ => b.resolve x ∈ ms
  | _ => True

/-- A device was asked to send a frame. -/
def Event.isOffer : Event → Bool
  | .offered _ _ _ => true
  | _ => false

theorem Event.isOffer_of_onLink {e : Event} (he : e.onLink = false) : e.isOffer = false := by
  cases e <;> first | rfl | cases he

theorem Event.isOffer_of_onQueue {e : Event} (he : e.onQueue = false) : e.isOffer = false := by
  cases e <;> first | rfl | cases he

theorem length_payload_le {p : Ipv4.Packet} {b : Bytes} (hp : p.Reads b) :
    20 + p.payload.length ≤ Bytes.field b 2 2 := by
  have hh := hp.header
  have ht := hp.total
  have hl := hp.present
  rw [hp.payload, Bytes.length_slice (by omega)]
  omega

namespace Host

open Tcp

variable {α β : Type} {m : Nat} {ms : List Bytes} {h h' : Host} {d : DeviceId} {f b : Bytes}

/-- A control message may be echoed. -/
def Echoable (m : Nat) (ms : List Bytes) (b : Bytes) : Prop := 20 + b.length ≤ m ∨ b ∈ ms

/-! ## What holds at all times -/

/-- A frame is as long as a packet of length `m` makes it, or it is the application's own, or it echoes a
message that was given without its packet. -/
def InSize (m : Nat) (ms : List Bytes) (older : List Event) : Event → Prop
  | .offered d f _ => older.head? = some (.crafting d) ∨ f.length ≤ m + 14 ∨
      ∃ b ∈ ms, f.drop 34 = Icmp.echoReply b
  | _ => True

/-- **No frame is longer than a packet of length `m` makes it.** -/
structure Sized (m : Nat) (ms : List Bytes) (h : Host) : Prop where
  mtu : h.config.mtu.toNat = m
  enough : 576 ≤ m
  waiting : ∀ q d b, .frame d b ∈ h.queue q → ShortFrame m b
  frames : Justified (InSize m ms) h.journal

/-- A host without longer frames has none afterwards. -/
def KeepsSized (m : Nat) (ms : List Bytes) (h h' : Host) : Prop := Sized m ms h → Sized m ms h'

instance : Std.Refl (KeepsSized m ms) := ⟨fun _ => id⟩

instance : IsTrans Host (KeepsSized m ms) := ⟨fun _ _ _ h₁₂ h₂₃ hz => h₂₃ (h₁₂ hz)⟩

/-- Only what is offered to devices and what is put on queues counts. -/
theorem Sized.step (hz : Sized m ms h) (hc : h'.config = h.config)
    (hw : ∀ q d b, .frame d b ∈ h'.queue q → .frame d b ∈ h.queue q)
    (hj : ∃ new, h'.journal = new ++ h.journal ∧ ∀ e ∈ new, e.isOffer = false) : Sized m ms h' where
  mtu := hc ▸ hz.mtu
  enough := hz.enough
  waiting q d b hb := hz.waiting q d b (hw q d b hb)
  frames := by
    obtain ⟨new, hj, hn⟩ := hj
    rw [hj]
    refine hz.frames.append fun e he older => ?_
    have ho := hn e he
    cases e with
    | offered => cases ho
    | _ => trivial

theorem KeepsLink.offersNothing (hq : KeepsLink h h') :
    ∃ new, h'.journal = new ++ h.journal ∧ ∀ e ∈ new, e.isOffer = false := by
  obtain ⟨new, hj, hn⟩ := hq.journal
  exact ⟨new, hj, fun e he => Event.isOffer_of_onLink (hn e he)⟩

theorem keepsSized_of_keepsLink (hq : KeepsLink h h') (hw : h'.queues = h.queues) :
    KeepsSized m ms h h' := fun hz =>
  hz.step hq.config (fun q _ _ hb => (congrArg (·.getD q []) hw : h'.queue q = h.queue q) ▸ hb)
    hq.offersNothing

theorem keepsSized_of_keepsQueues (hs : KeepsQueues h h') (hc : h'.config = h.config) :
    KeepsSized m ms h h' := by
  obtain ⟨new, hj, hn⟩ := hs.journal
  intro hz
  refine hz.step hc (fun q _ _ hb => ?_) ⟨new, hj, fun e he => Event.isOffer_of_onQueue (hn e he)⟩
  exact (congrArg (·.getD q []) hs.queues : h'.queue q = h.queue q) ▸ hb

theorem keepsSized_of_eq (hc : h'.config = h.config) (hq : h'.queues = h.queues)
    (hj : h'.journal = h.journal) : KeepsSized m ms h h' := fun hz =>
  hz.step hc (fun q _ _ hb => (congrArg (·.getD q []) hq : h'.queue q = h.queue q) ▸ hb)
    ⟨[], hj, List.forall_mem_nil _⟩

theorem keepsSized_record {e : Event} (he : e.isOffer = false) :
    Does (KeepsSized m ms) h (record e) := fun hz =>
  hz.step rfl (fun _ _ _ => id) ⟨[e], rfl, List.forall_mem_singleton.mpr he⟩

theorem keepsSized_note (n : Notice) : Does (KeepsSized m ms) h (note n) := keepsSized_record rfl

theorem keepsSized_offer (hf : Sized m ms h → h.journal.head? = some (.crafting d) ∨ f.length ≤ m + 14 ∨
    ∃ b ∈ ms, f.drop 34 = Icmp.echoReply b) : Does (KeepsSized m ms) h (offer d f) := by
  intro hz
  obtain ⟨r, hq⟩ := offer_eq d f h
  have hr : Sized m ms ((record (.offered d f r)).run h).2 :=
    ⟨hz.mtu, hz.enough, hz.waiting, hz.frames.cons (hf hz)⟩
  refine hr.step hq.config (fun q e b hb => ?_) hq.toKeepsLink.offersNothing
  change Job.frame e b ∈ h.queue q
  rcases queue_offer (h := h) d f q with he | ⟨s, -, -, he⟩
  · exact he ▸ hb
  · rw [he] at hb
    simpa using hb

/-! ## Lengths of frames -/

@[simp] theorem length_arpFrame (dst : Mac) (op : UInt16) (mac : Mac) (ip : Ip) :
    (h.arpFrame d dst op mac ip).length = 42 := by
  simp [arpFrame, Ethernet.headerLength, Arp.packetLength]

@[simp] theorem length_packetFrame (protocol : UInt8) (dst : Ip) (mac : Mac) (b : Bytes) :
    (h.packetFrame d protocol dst mac b).length = 34 + b.length := by
  simp [packetFrame, Ethernet.headerLength, Ipv4.headerLength]
  omega

theorem drop_packetFrame (protocol : UInt8) (dst : Ip) (mac : Mac) (b : Bytes) :
    (h.packetFrame d protocol dst mac b).drop 34 = b := by
  unfold packetFrame
  rw [← List.append_assoc]
  exact List.drop_left' (by simp [Ethernet.headerLength, Ipv4.headerLength])

/-- **A frame of the host's own is as long as what it is given, or as its configuration allows.** -/
theorem OwnFrame.inSize (hf : OwnFrame (Echoable m ms) h d f) (hz : Sized m ms h) :
    f.length ≤ m + 14 ∨ ∃ b ∈ ms, f.drop 34 = Icmp.echoReply b := by
  have hm := hz.mtu
  have he := hz.enough
  cases hf with
  | arp =>
    rw [length_arpFrame]
    omega
  | echo dst mac b hl hb =>
    rcases hb with hb | hb
    · rw [length_packetFrame, Icmp.length_echoReply hl]
      omega
    · exact .inr ⟨b, hb, drop_packetFrame ..⟩
  | datagram f mac data hd =>
    unfold Config.maxDatagram at hd
    rw [length_packetFrame, Udp.length_encode, Udp.headerLength]
    omega
  | segment s mac t data hd =>
    unfold Config.maxSegment at hd
    rw [length_packetFrame, Tcp.length_encode, Tcp.headerLength]
    omega

/-! ## What a host does of itself -/

theorem keepsSized_register (d : DeviceId) : Does (KeepsSized m ms) h (register d) := by
  obtain ⟨os, j, hr⟩ := run_register d h
  exact keepsSized_of_keepsQueues (keepsQueues_register d) (by rw [hr])

theorem keepsSized_store (ip : Ip) (mac : Mac) : Does (KeepsSized m ms) h (store ip mac) :=
  keepsSized_of_keepsQueues (keepsQueues_store ip mac) (by rw [run_store])

theorem keepsSized_reaction (hr : Reaction (Echoable m ms) h h') : KeepsSized m ms h h' := by
  cases hr with
  | remark e he => exact keepsSized_record (Event.isOffer_of_onQueue (Event.onQueue_of_isRemark he))
  | enter e he => exact keepsSized_record (Event.isOffer_of_onQueue (Event.onQueue_of_onBoard he))
  | offer d f hf => exact keepsSized_offer fun hz => .inr (hf.inSize hz)
  | register d => exact keepsSized_register d
  | store ip mac => exact keepsSized_store ip mac
  | control | join | leave | lend | countAccept | countRead | countNotify =>
    exact keepsSized_of_eq rfl rfl rfl

theorem keepsSized_reactions (hr : Reactions (Echoable m ms) h h') : KeepsSized m ms h h' := by
  induction hr with
  | refl => exact id
  | tail _ hr ih => exact keepsSized_reaction hr ∘ ih

/-- A host that was in order is so where a run leads it. -/
abbrev Remains (m : Nat) (ms : List Bytes) (h : Host) (x : Run α) : Prop :=
  Within (fun _ => KeepsSized m ms) h x

theorem composes_keepsSized : Composes fun _ => KeepsSized m ms :=
  ⟨fun _ => id, fun _ => id, fun h₁₂ h₂₃ => h₂₃ ∘ h₁₂⟩

theorem judges_remains : Judges (Echoable m ms) fun {_} h x => Remains m ms h x where
  act hx := Within.lift (keepsSized_reactions hx)
  bind hx hf := Within.bind composes_keepsSized hx hf

theorem Remains.act {x : Act α} {f : α → Run β} (hx : Does (KeepsSized m ms) h x)
    (hf : ∀ a h', Remains m ms h' (f a)) : Remains m ms h (liftM x >>= f) :=
  Within.act composes_keepsSized hx (hf _ _)

/-! ## Jobs and operations -/

theorem echoable_of_short {p : Ipv4.Packet} (hb : ShortPacket m b) (hp : p.Reads b) :
    Echoable m ms p.payload :=
  .inl (Nat.le_trans (length_payload_le hp) (hb p hp))

theorem echoable_of_shortFrame (hb : ShortFrame m b) (f : Ethernet.Frame) (p : Ipv4.Packet)
    (hf : f.Reads b) (ht : f.type = 0x0800) (hp : p.Reads f.payload) (_ : p.protocol = 1) :
    Echoable m ms p.payload :=
  echoable_of_short (hb f hf ht) hp

theorem keepsSized_put {q : QueueId} {j : Job} (hj : ∀ d b, j = .frame d b → ShortFrame m b) :
    Does (KeepsSized m ms) h (put q j) := by
  intro hz
  refine ⟨hz.mtu, hz.enough, fun p d b hb => ?_, hz.frames.cons trivial⟩
  rw [queue_put] at hb
  rcases List.mem_append.mp hb with hb | hb
  · exact hz.waiting p d b hb
  · split at hb
    · exact hj d b (List.mem_singleton.mp hb).symm
    · cases hb

theorem keepsSized_enqueue (q : QueueId) (t : TaskId) : Does (KeepsSized m ms) h (enqueue q t) := by
  refine Does.get ?_
  split
  · exact Does.pure _
  · exact Does.bind (x := modifyTask t _) (keepsSized_of_eq rfl rfl rfl) (keepsSized_put nofun)

theorem keepsSized_transmitNext (d : DeviceId) : Does (KeepsSized m ms) h (transmitNext d) := by
  intro hz
  have hc := (keepsLinkAndBoard_transmitNext (h := h) d).toKeepsLink
  refine hz.step hc.config (fun q e b hb => ?_) hc.offersNothing
  rcases queue_transmitNext (h := h) d q with he | ⟨s, -, -, he⟩
  · exact he ▸ hb
  · rw [he] at hb
    simpa using hb

theorem keepsSized_listen (port : UInt16) (service : StreamService) :
    Does (KeepsSized m ms) h (listen port service) :=
  keepsSized_of_keepsLink (keepsLinkAndBoard_listen port service).toKeepsLink
    (keepsQueues_listen port service).queues

theorem keepsSized_subscribe (port : UInt16) (service : DatagramService) :
    Does (KeepsSized m ms) h (subscribe port service) :=
  keepsSized_of_eq rfl rfl rfl

theorem keepsSized_serveEcho : Does (KeepsSized m ms) h serveEcho := by
  refine Does.bind (keepsSized_listen echoPort .echo) ?_
  split
  · exact Does.bind (keepsSized_note _) (Does.pure _)
  · exact Does.bind (keepsSized_subscribe echoPort .echo) (Does.pure _)

theorem keepsSized_servePage : Does (KeepsSized m ms) h servePage := by
  refine Does.bind (keepsSized_listen pagePort .page) ?_
  split
  · exact Does.pure _
  · exact Does.bind (keepsSized_note _) (Does.pure _)

section Inner

variable {inner : Exec} (hi : ∀ x op h, Remains m ms h (inner x op))

include hi

theorem remains_answerCall (k : Call) (h : Host) : Remains m ms h (answerCall inner k) :=
  judges_remains.answerCall fun op _ x h => hi x op h

theorem remains_runScript (x : Context) (ops : List Op) (h : Host) :
    Remains m ms h (runScript inner x ops) :=
  judges_remains.runScript (fun op _ x h => hi x op h) x

theorem remains_runTask (t : TaskId) (h : Host) : Remains m ms h (runTask inner t) := by
  refine Remains.act (x := dequeued t) (keepsSized_of_eq rfl rfl rfl) fun _ h₁ => Within.get ?_
  dsimp only
  split
  · refine Within.get ?_
    split
    · exact Within.lift (keepsSized_transmitNext _)
    · exact Within.lift (keepsSized_record rfl)
  · refine Remains.act (x := modifyTask t _) (keepsSized_of_eq rfl rfl rfl) fun _ _ => ?_
    exact Remains.act (keepsSized_record rfl) fun _ _ => remains_runScript hi _ _ _

theorem remains_runJob {q : QueueId} {j : Job} {rest : List Job} (hq : h.queue q = j :: rest) :
    KeepsSized m ms h ((runJob inner j).run (h.taken q j rest)).2 := by
  intro hz
  have ht : Sized m ms (h.taken q j rest) := by
    refine ⟨hz.mtu, hz.enough, fun p d b hb => hz.waiting p d b (mem_of_taken hq hb), ?_⟩
    exact hz.frames.cons trivial
  have hr : Remains m ms (h.taken q j rest) (runJob inner j) := by
    cases j with
    | frame d b =>
      have hb : ShortFrame m b := hz.waiting q d b (by rw [hq]; exact List.mem_cons_self)
      exact judges_remains.lend fun _ =>
        judges_remains.receiveFrame (remains_answerCall hi) (echoable_of_shortFrame hb) d
    | once id ops => exact Remains.act (keepsSized_record rfl) fun _ _ => remains_runScript hi _ _ _
    | task t => exact remains_runTask hi t _
  exact hr ht

theorem remains_drain (q : QueueId) (fuel n : Nat) (h : Host) :
    Remains m ms h (drain inner q fuel n) := by
  induction fuel generalizing n h with
  | zero => exact Within.failure composes_keepsSized
  | succ fuel ih =>
    cases hq : h.queue q with
    | nil =>
      unfold Remains Within
      rw [run_drain_empty hq]
      exact keepsSized_record rfl
    | cons j rest =>
      have hj : KeepsSized m ms h ((runJob inner j).run (h.taken q j rest)).2 := remains_runJob hi hq
      unfold Remains Within
      rw [run_drain_next (run_next hq), run_bind]
      generalize (runJob inner j).run (h.taken q j rest) = r at hj ⊢
      obtain ⟨r, h₁⟩ := r
      cases r with
      | none => exact hj
      | some _ => exact ih (n + 1) h₁ ∘ hj

/-- **An operation that gives the host nothing longer keeps it in order.** -/
theorem remains_perform {x : Context} {op : Op} (hp : op.short m ms x) (fuel : Nat) (h : Host) :
    Remains m ms h (perform inner fuel x op) := by
  have hc := remains_answerCall hi
  have ha {α : Type} {y : Act α} (f : α → Reply) (hy : Does (KeepsSized m ms) h y) :
      Remains m ms h (liftM y >>= fun a => pure (f a) : Run Reply) :=
    Remains.act hy fun _ _ => Within.pure composes_keepsSized _
  have hr {α : Type} {y : Act α} (f : α → Reply) (hy : Does (Reactions (Echoable m ms)) h y) :
      Remains m ms h (liftM y >>= fun a => pure (f a) : Run Reply) :=
    ha f (keepsSized_reactions hy)
  have hl {d : DeviceId} {y : Run Unit} (hy : ∀ h, Remains m ms h y) :
      Remains m ms h (lend d y >>= fun _ => pure Reply.done) :=
    judges_remains.bind (judges_remains.lend hy) fun _ _ _ => Within.pure composes_keepsSized _
  cases op with
  | receive d b =>
    exact hl fun _ => judges_remains.receiveFrame hc (echoable_of_shortFrame hp) d
  | defer d b =>
    refine ha (fun _ => .done) (keepsSized_put fun e b' hb => ?_)
    cases hb
    exact hp
  | poll q => exact Within.map composes_keepsSized _ (remains_drain hi q fuel 0 h)
  | register d => exact hr (fun _ => .done) (Reaction.does (.register d))
  | announce d => exact hr _ (reactions_announce d)
  | advertise d => exact hr _ (reactions_advertise d)
  | lookup d ip => exact hr _ (reactions_lookup d ip)
  | store ip mac => exact hr _ (Reaction.does (.store ip mac))
  | receiveArp d b => exact hr (fun _ => .done) (reactions_receiveArp d _)
  | receivePacket d b =>
    exact hl fun _ => judges_remains.receivePacket hc (fun p hb _ => echoable_of_short hp hb) d
  | receiveIcmp d b src => exact hr (fun _ => .done) (reactions_receiveIcmp (.inr hp) d src)
  | receiveSegment d b src => exact hl fun _ => judges_remains.receiveSegment hc d _ src
  | receiveDatagram d b src => exact hl fun _ => judges_remains.receiveDatagram hc d _ src
  | sendPacket d protocol dst room b =>
    refine Within.act composes_keepsSized (keepsSized_record rfl) (Remains.act ?_ fun _ _ => ?_)
    · exact does_sendPacket (keepsSized_reactions (reactions_lookup d dst)) fun mac _ =>
        keepsSized_offer fun _ => .inl rfl
    · exact Remains.act (keepsSized_record rfl) fun _ _ => Within.pure composes_keepsSized _
  | sendFrame d type dst room b =>
    refine Within.act composes_keepsSized (keepsSized_record rfl) (Remains.act ?_ fun _ _ => ?_)
    · exact does_sendFrame (keepsSized_offer fun _ => .inl rfl)
    · exact Remains.act (keepsSized_record rfl) fun _ _ => Within.pure composes_keepsSized _
  | listen port accept read => exact ha _ (keepsSized_listen port _)
  | send t b =>
    unfold perform
    dsimp only
    split
    · exact hr _ (reactions_sendData _ _)
    · exact Within.pure composes_keepsSized _
  | close t =>
    unfold perform
    dsimp only
    split
    · exact hr _ (reactions_close _)
    · exact Within.pure composes_keepsSized _
  | subscribe port id notify => exact ha _ (keepsSized_subscribe port _)
  | sendDatagram f b =>
    unfold perform
    dsimp only
    split
    · exact hr _ (reactions_sendDatagram _ _)
    · exact Within.pure composes_keepsSized _
  | serveEcho => exact ha _ keepsSized_serveEcho
  | servePage => exact ha _ keepsSized_servePage
  | setFailure d r | release d =>
    exact Remains.act (x := modify _) (keepsSized_of_eq rfl rfl rfl) fun _ _ =>
      Within.pure composes_keepsSized _
  | spawn q id ops => exact ha (fun _ => .done) (keepsSized_put nofun)
  | define id runs => exact ha (y := defineTask id runs) _ (keepsSized_of_eq rfl rfl rfl)
  | enqueue id q =>
    refine Within.get ?_
    dsimp only
    split
    · exact Remains.act (keepsSized_enqueue q _) fun _ _ => Within.get (Within.pure composes_keepsSized _)
    · exact Within.get (Within.pure composes_keepsSized _)
  | pending | ownerOf | stateOf | summary | settings | deviceState | taskState =>
    exact Within.get (Within.pure composes_keepsSized _)

end Inner

/-! ## Every run -/

theorem keepsSized_leadsBy {e : Bool} (hl : LeadsBy (Op.short m ms) e h h') : KeepsSized m ms h h' := by
  induction hl with
  | refl | cut => exact id
  | trans _ _ h₁₂ h₂₃ => exact h₂₃ ∘ h₁₂
  | hardware => exact keepsSized_of_eq rfl rfl rfl
  | perform inner fuel x op h hp _ ih => exact remains_perform ih hp fuel h

theorem mtu_of_check {c : Config} (hc : c.check = .ok ()) : 576 ≤ c.mtu.toNat := by
  unfold Config.check at hc
  split_ifs at hc with hm
  omega

theorem sized_start {s : Setup} (hs : start s = .ok h) : Sized s.config.mtu.toNat ms h := by
  obtain ⟨hc, he⟩ := eq_of_start hs
  have ha : h.config = s.config ∧ h.queues = [] := by
    rw [he]
    refine foldl_attach (P := fun h => h.config = s.config ∧ h.queues = []) ?_ s.devices ⟨rfl, rfl⟩
    intro h v ha
    unfold attach
    split <;> exact ha
  refine ⟨by rw [ha.1], mtu_of_check hc, fun q d b hb => ?_, ?_⟩
  · unfold queue at hb
    rw [ha.2] at hb
    cases hb
  · rw [(fresh_start hs).journal]
    exact .nil

/-! ## Errors -/

theorem result_ne_tooLong (x : Face) (n : Nat) : x.result ≠ .error (.packetTooLong n) := by
  unfold Face.result
  cases x.staged <;> cases x.failure <;> simp

theorem sendPacket_ne_tooLong {protocol : UInt8} {dst : Ip}
    (hb : Ipv4.headerLength + b.length ≤ Ipv4.maxLength) (n : Nat) :
    ((sendPacket (.withRoom headroom b) protocol dst d).run h).1 ≠ .error (.packetTooLong n) := by
  cases hm : h.arp.get? dst with
  | none =>
    rw [result_sendPacket_unresolved hm hb]
    nofun
  | some mac =>
    rw [run_sendPacket ⟨hm, hb⟩, result_offer]
    exact result_ne_tooLong _ n

theorem sendDatagram_ne_tooLong (f : Flow) (data : Bytes) (n : Nat) :
    ((sendDatagram f data).run h).1 ≠ .error (.packetTooLong n) := by
  unfold sendDatagram
  rw [act_get]
  split
  · nofun
  · split_ifs with hd
    · nofun
    · have hm := h.config.mtu.toNat_lt
      refine sendPacket_ne_tooLong ?_ n
      unfold Config.maxDatagram at hd
      rw [Udp.length_encode]
      unfold Ipv4.headerLength Udp.headerLength Ipv4.maxLength
      omega

theorem passage_ne_tooLong (d : DeviceId) (s : Stream) (n : Nat) :
    h.passage d s ≠ .error (.packetTooLong n) := by
  unfold passage
  split
  · nofun
  · exact result_ne_tooLong _ n

theorem Visited.sendData_ne_tooLong (hv : Visited h) (s : Stream) (data : Bytes) (n : Nat) :
    ((sendData s data).run h).1 ≠ .error (.packetTooLong n) := by
  rw [hv.result_sendData]
  unfold verdict
  split_ifs with hl
  · nofun
  · split
    · nofun
    · split_ifs
      · exact passage_ne_tooLong _ s n
      · nofun

/-! ## What follows -/

/-- **A frame as it should be.** It is as long as a packet of length `m` makes it, unless it echoes a
message of `ms`, and what it says of its length is so. -/
structure Measured (m : Nat) (ms : List Bytes) (f : Bytes) : Prop where
  length : f.length ≤ m + 14 ∨ ∃ b ∈ ms, f.drop 34 = Icmp.echoReply b
  packet : Bytes.field f 12 2 = 0x0800 → Bytes.field (f.drop 14) 2 2 = (f.drop 14).length
  datagram : Bytes.field f 12 2 = 0x0800 → (f.drop 14).getD 9 0 = Ipv4.udp →
    Bytes.field (f.drop 34) 4 2 = 8 + (f.drop 42).length

/-- **What keeps to the greatest length `m` of a packet.** -/
structure Limits (m : Nat) (ms : List Bytes) (h : Host) : Prop where
  /-- All frames do, the application's own apart. -/
  frames : ∀ {newer older d f r}, h.journal = newer ++ .offered d f r :: older →
    older.head? = some (.crafting d) ∨ Measured m ms f
  /-- The limits for data are what the headers leave. -/
  segment : h.config.maxSegment + Ipv4.headerLength + Tcp.headerLength = m
  datagram : h.config.maxDatagram + Ipv4.headerLength + Udp.headerLength = m
  /-- Data is never sent in a packet that is too long. -/
  sendData : ∀ s data n, ((sendData s data).run h).1 ≠ .error (.packetTooLong n)
  sendDatagram : ∀ f data n, ((sendDatagram f data).run h).1 ≠ .error (.packetTooLong n)

theorem measured_of_wellFormed {ttl : UInt8} {mac : Mac} {ip : Ip} {table : Ip → Option Mac}
    (hw : WellFormed ttl mac ip table f)
    (hl : f.length ≤ m + 14 ∨ ∃ b ∈ ms, f.drop 34 = Icmp.echoReply b) : Measured m ms f := by
  cases hw with
  | arp _ _ ht =>
    have hn : ¬ Bytes.field f 12 2 = 0x0800 := by rw [ht]; decide
    exact ⟨hl, fun h => absurd h hn, fun h => absurd h hn⟩
  | packet _ _ _ hp =>
    refine ⟨hl, fun _ => hp.length, fun _ hu => ?_⟩
    have hm := hp.message
    rw [hu] at hm
    cases hm with
    | udp _ hl _ => simpa only [List.drop_drop] using hl

/-- **Whatever a host is used for, its packets are as long as its configuration allows**, if it is given no
longer ones. -/
theorem LeadsBy.limits {s : Setup} {h₀ : Host} {e : Bool} (hs : start s = .ok h₀)
    (hl : LeadsBy (Op.short s.config.mtu.toNat ms) e h₀ h) : Limits s.config.mtu.toNat ms h := by
  have hz : Sized s.config.mtu.toNat ms h := keepsSized_leadsBy hl (sized_start hs)
  have hv : Visited h := ⟨s, h₀, e, hs, hl.leads⟩
  have hm := hz.mtu
  have hn := hz.enough
  refine ⟨fun hj => ?_, ?_, ?_, hv.sendData_ne_tooLong, sendDatagram_ne_tooLong⟩
  · rcases hv.offers.frames hj with hc | hw
    · exact .inl hc
    · exact (hz.frames.at hj).imp_right (measured_of_wellFormed hw)
  · unfold Config.maxSegment Ipv4.headerLength Tcp.headerLength
    omega
  · unfold Config.maxDatagram Ipv4.headerLength Udp.headerLength
    omega

/-! ### A host that sends and is sent as much as it can -/

theorem shortFrame_of_length (hb : b.length ≤ m + 14) : ShortFrame m b := by
  intro f hf _ p hp
  have hl := hp.present
  have hh := hp.header
  rw [hf.payload] at hl hh ⊢
  rw [List.length_drop] at hl
  omega

/-- A datagram of 548 bytes is sent, and an echo request answered. -/
def brim : List Op :=
  [.register 0, .store ⟨10, 0, 0, 2⟩ ⟨2, 0, 0, 0, 0, 2⟩,
    .sendDatagram (some ⟨⟨talker.ip, 53⟩, ⟨⟨10, 0, 0, 2⟩, 4000⟩⟩) (.bytes (List.replicate 548 0)),
    .receive 0 (.bytes (plainFrame 1 ping).encode)]

/-- A host whose packets are as short as can be configured. -/
def terse : Setup := ⟨{ mtu := 576 }, [talker]⟩

/-- The lengths of the frames that devices were asked to send, the last first. -/
def offeredLengths (h : Host) : List Nat :=
  h.journal.filterMap fun
    | .offered _ f _ => some f.length
    | _ => none

theorem limits_brim : ∃ h₀ h, start terse = .ok h₀ ∧ after? 1 brim h₀ = some h ∧
    h.offeredLengths = [42, 590] ∧ Limits 576 [] h := by
  have ha : (after? 1 brim (attach { config := terse.config } talker)).map offeredLengths =
      some [42, 590] := by
    decide +kernel
  obtain ⟨h, hh, hf⟩ := Option.map_eq_some_iff.mp ha
  have hs : start terse = .ok (attach { config := terse.config } talker) := rfl
  have hp : ∀ op ∈ brim, op.short 576 [] {} := by
    simp only [brim, List.forall_mem_cons]
    refine ⟨trivial, trivial, trivial, ?_, List.forall_mem_nil _⟩
    exact shortFrame_of_length (by decide +kernel)
  exact ⟨_, h, hs, hh, hf, (leadsBy_after? hp hh).limits hs⟩

end Host

end InetHost
