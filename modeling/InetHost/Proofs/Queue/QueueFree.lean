import InetHost.Proofs.Queue.Tasks
import InetHost.Proofs.Run.Reaction

/-!
# Code that leaves the queues free

Application code may send, listen and ask for whatever it likes, and still come to its end, as long as it
calls no application code in turn and puts no job of its own on a queue. Such code is queue-free.

* `Op.QueueFree`: the operations of such code; what they leave for later is queue-free as well;
* `QueueFree h`: all application code of a host is queue-free; `StaysQueueFree h h'`: so it stays, and
  owners of addresses stay owners;
* `Gesture`, `Gestures`: what a host does while such code runs, in small steps;
* **`gestures_perform`**: queue-free operations come to their end by gestures;
* **`gestures_frame`**: and so does the reception of a frame on a host with queue-free code.
-/

namespace InetHost

/-! ## Operations -/

/-- An operation that calls no application code, puts no job of its own on a queue, and leaves no code
for later but that of tasks. -/
def Op.plain : Op → Bool
  | .receive _ _ | .receivePacket _ _ | .receiveSegment _ _ _ | .receiveDatagram _ _ _ | .defer _ _
  | .poll _ | .spawn _ _ _ | .enqueue _ _ | .listen _ _ _ | .subscribe _ _ _ => false
  | _ => true

/-- **Operations of queue-free code.** A new listener has such code as well. -/
inductive Op.QueueFree : Op → Prop
  | plain {op : Op} (hp : op.plain = true) : op.QueueFree
  | listen (port : UInt16) {accept read : Script} (ha : ∀ ops ∈ accept, ∀ op ∈ ops, op.QueueFree)
    (hr : ∀ ops ∈ read, ∀ op ∈ ops, op.QueueFree) : (Op.listen port accept read).QueueFree
  | subscribe (port : UInt16) (id : Label) {notify : Script}
    (hn : ∀ ops ∈ notify, ∀ op ∈ ops, op.QueueFree) : (Op.subscribe port id notify).QueueFree

/-- All operations of a script are queue-free. -/
def Script.QueueFree (s : Script) : Prop := ∀ ops ∈ s, ∀ op ∈ ops, op.QueueFree

theorem Script.QueueFree.entry {s : Script} (hs : s.QueueFree) (k : Nat) {op : Op}
    (ho : op ∈ s.entry k) : op.QueueFree := by
  unfold Script.entry at ho
  rw [List.getD_eq_getElem?_getD] at ho
  cases he : s[min k (s.length - 1)]? with
  | none =>
    rw [he] at ho
    cases ho
  | some ops =>
    rw [he] at ho
    exact hs ops (List.mem_of_getElem? he) op ho

theorem Script.queueFree_of_plain {s : Script} (hs : s.all (·.all Op.plain) = true) : s.QueueFree :=
  fun ops ho op hop => .plain (List.all_eq_true.mp (List.all_eq_true.mp hs ops ho) op hop)

/-- The code for connections is queue-free. -/
def StreamService.QueueFree : StreamService → Prop
  | .echo | .page => True
  | .script accept read => accept.QueueFree ∧ read.QueueFree

/-- The code for datagrams is queue-free. -/
def DatagramService.QueueFree : DatagramService → Prop
  | .echo => True
  | .script _ notify => notify.QueueFree

namespace Host

variable {α : Type} {h h' : Host}

/-! ## Hosts -/

/-- **All application code of a host is queue-free**, that of its listeners and that which connections have
from them. -/
structure QueueFree (h : Host) : Prop where
  acceptors : ∀ a, (h.acceptors.getD a default).service.QueueFree
  connections : ∀ c, (h.connection c).service.QueueFree
  subscribers : ∀ u, (h.subscribers.getD u default).service.QueueFree

theorem QueueFree.codeFor (hg : QueueFree h) (k : Call) {op : Op} (ho : op ∈ h.codeFor k) : op.QueueFree := by
  cases k with
  | accept a s =>
    have hs := hg.acceptors a
    unfold Host.codeFor at ho
    dsimp only at ho
    split at ho
    · cases ho
    · cases ho
    · rename_i accept read hc
      rw [hc] at hs
      exact hs.1.entry _ ho
  | read c data =>
    have hs := hg.connections c
    unfold Host.codeFor Connection.code at ho
    dsimp only at ho
    split at ho
    · cases ho
    · cases ho
    · rename_i accept read hc
      rw [hc] at hs
      exact hs.2.entry _ ho
  | notify u f data =>
    have hs := hg.subscribers u
    unfold Host.codeFor at ho
    dsimp only at ho
    split at ho
    · cases ho
    · rename_i id notify hc
      rw [hc] at hs
      exact hs.entry _ ho

/-- **Queue-free code stays so**, and the owners of addresses stay owners. -/
structure StaysQueueFree (h h' : Host) : Prop where
  queueFree : QueueFree h → QueueFree h'
  owners : h.owners ⊆ h'.owners

instance : Std.Refl StaysQueueFree := ⟨fun _ => ⟨id, fun _ => id⟩⟩

instance : IsTrans Host StaysQueueFree where
  trans _ _ _ s₁ s₂ := ⟨s₂.queueFree ∘ s₁.queueFree, List.Subset.trans s₁.owners s₂.owners⟩

theorem staysQueueFree_of_eq (ha : h'.acceptors = h.acceptors) (hc : h'.connections = h.connections)
    (hs : h'.subscribers = h.subscribers) (ho : h'.owners = h.owners) : StaysQueueFree h h' := by
  refine ⟨fun hg => ⟨fun a => ?_, fun c => ?_, fun u => ?_⟩, ho ▸ List.Subset.refl _⟩
  · rw [ha]
    exact hg.acceptors a
  · unfold connection
    rw [hc]
    exact hg.connections c
  · rw [hs]
    exact hg.subscribers u

theorem staysQueueFree_record (e : Event) : Does StaysQueueFree h (record e) :=
  staysQueueFree_of_eq rfl rfl rfl rfl

theorem staysQueueFree_register (d : DeviceId) : Does StaysQueueFree h (register d) := by
  refine Does.bind (staysQueueFree_record _) (Does.get ?_)
  dsimp only
  split
  · refine Does.bind (x := note _) (staysQueueFree_record _) ?_
    exact ⟨fun hg => ⟨hg.acceptors, hg.connections, hg.subscribers⟩, List.subset_append_left _ _⟩
  · exact Does.pure _

theorem staysQueueFree_store (ip : Ip) (mac : Mac) : Does StaysQueueFree h (store ip mac) := by
  refine Does.get ?_
  split
  · exact staysQueueFree_of_eq rfl rfl rfl rfl
  · exact staysQueueFree_of_eq rfl rfl rfl rfl

theorem staysQueueFree_handlings (hh : Handlings h h') : StaysQueueFree h h' := by
  refine of_handlings (fun hh => ?_) hh
  cases hh <;> exact staysQueueFree_of_eq rfl rfl rfl rfl

theorem staysQueueFree_listen {v : StreamService} (hs : v.QueueFree) (port : UInt16) :
    Does StaysQueueFree h (listen port v) := by
  refine Does.get ?_
  split
  · exact Does.pure _
  · refine ⟨fun hg => ⟨fun a => ?_, hg.connections, hg.subscribers⟩, List.Subset.refl _⟩
    change ((h.acceptors ++ [Acceptor.mk port v 0]).getD a default).service.QueueFree
    rw [getD_concat]
    split_ifs
    · exact hg.acceptors a
    · exact hs
    · trivial

theorem staysQueueFree_subscribe {v : DatagramService} (hs : v.QueueFree) (port : UInt16) :
    Does StaysQueueFree h (subscribe port v) := by
  refine ⟨fun hg => ⟨hg.acceptors, hg.connections, fun u => ?_⟩, List.Subset.refl _⟩
  change ((h.subscribers ++ [Subscriber.mk port v 0]).getD u default).service.QueueFree
  rw [getD_concat]
  split_ifs
  · exact hg.subscribers u
  · exact hs
  · trivial

theorem staysQueueFree_connections {ks : List Connection}
    (hk : QueueFree h → ∀ c, (ks.getD c default).service.QueueFree) (ss : List (Stream × ConnId)) :
    StaysQueueFree h { h with connections := ks, streams := ss } :=
  ⟨fun hg => ⟨hg.acceptors, hk hg, hg.subscribers⟩, List.Subset.refl _⟩

/-! ## Gestures -/

/-- Something that a host does while queue-free code runs. -/
inductive Gesture (h : Host) : Host → Prop
  | keepsQueues {h' : Host} (hs : KeepsQueues h h') (hg : StaysQueueFree h h') : Gesture h h'
  | offer (d : DeviceId) (f : Bytes) : Gesture h ((offer d f).run h).2
  | define (id : Label) (runs : Script) : Gesture h ((defineTask id runs).run h).2

/-- Such steps, one after another. -/
abbrev Gestures : Host → Host → Prop := Relation.ReflTransGen Gesture

theorem Gesture.does {x : Act α} (hx : Gesture h (x.run h).2) : Does Gestures h x :=
  Relation.ReflTransGen.single hx

theorem Gesture.move (hm : Gesture h h') : Move h h' := by
  cases hm with
  | keepsQueues hs => exact .keepsQueues hs
  | offer d f => exact .offer d f
  | define id runs => exact .define id runs

theorem Gesture.staysQueueFree (hm : Gesture h h') : StaysQueueFree h h' := by
  cases hm with
  | keepsQueues _ hg => exact hg
  | offer d f => exact staysQueueFree_handlings (handlings_offer d f)
  | define => exact staysQueueFree_of_eq rfl rfl rfl rfl

theorem staysQueueFree_gestures (hm : Gestures h h') : StaysQueueFree h h' := by
  induction hm with
  | refl => exact Std.Refl.refl h
  | tail _ hm ih => exact IsTrans.trans _ _ _ ih hm.staysQueueFree

theorem gestures_of_eq {x : Act α} (hs : Does KeepsQueues h x)
    (hg : Does StaysQueueFree h x := by exact staysQueueFree_of_eq rfl rfl rfl rfl) : Does Gestures h x :=
  Gesture.does (.keepsQueues hs hg)

theorem gestures_record {e : Event} (he : e.onQueue = false) : Does Gestures h (record e) :=
  gestures_of_eq (keepsQueues_record he)

theorem gesture_of_reaction {E : Bytes → Prop} (hr : Reaction E h h') : Gesture h h' := by
  cases hr with
  | remark e he =>
    exact .keepsQueues (keepsQueues_record (Event.onQueue_of_isRemark he)) (staysQueueFree_record e)
  | enter e he =>
    exact .keepsQueues (keepsQueues_record (Event.onQueue_of_onBoard he)) (staysQueueFree_record e)
  | offer d f _ => exact .offer d f
  | register d => exact .keepsQueues (keepsQueues_register d) (staysQueueFree_register d)
  | store ip mac => exact .keepsQueues (keepsQueues_store ip mac) (staysQueueFree_store ip mac)
  | leave | lend =>
    exact .keepsQueues (keepsQueues_of_eq rfl rfl rfl rfl rfl) (staysQueueFree_of_eq rfl rfl rfl rfl)
  | control c k =>
    refine .keepsQueues (keepsQueues_of_eq rfl rfl rfl rfl rfl)
      (staysQueueFree_connections (fun hg c' => ?_) _)
    have hs := getD_modify_of (g := Connection.service) (f := ({ · with control := k })) (fun _ => rfl)
      h.connections c c' default
    exact hs ▸ hg.connections c'
  | countRead c n =>
    refine .keepsQueues (keepsQueues_of_eq rfl rfl rfl rfl rfl)
      (staysQueueFree_connections (fun hg c' => ?_) _)
    have hs := getD_modify_of (g := Connection.service) (f := ({ · with reads := n })) (fun _ => rfl)
      h.connections c c' default
    exact hs ▸ hg.connections c'
  | join k ss hk =>
    refine .keepsQueues (keepsQueues_of_eq rfl rfl rfl rfl rfl)
      (staysQueueFree_connections (fun hg c => ?_) ss)
    obtain ⟨a, hk⟩ := hk
    rw [getD_concat]
    split_ifs
    · exact hg.connections c
    · rw [hk]
      exact hg.acceptors a
    · trivial
  | countAccept a n =>
    refine .keepsQueues (keepsQueues_of_eq rfl rfl rfl rfl rfl)
      ⟨fun hg => ⟨fun a' => ?_, hg.connections, hg.subscribers⟩, List.Subset.refl _⟩
    have hs := getD_modify_of (g := Acceptor.service) (f := ({ · with calls := n })) (fun _ => rfl)
      h.acceptors a a' default
    exact hs ▸ hg.acceptors a'
  | countNotify u n =>
    refine .keepsQueues (keepsQueues_of_eq rfl rfl rfl rfl rfl)
      ⟨fun hg => ⟨hg.acceptors, hg.connections, fun u' => ?_⟩, List.Subset.refl _⟩
    have hs := getD_modify_of (g := Subscriber.service) (f := ({ · with calls := n })) (fun _ => rfl)
      h.subscribers u u' default
    exact hs ▸ hg.subscribers u'

theorem gestures_of_reactions {E : Bytes → Prop} (hr : Reactions E h h') : Gestures h h' := by
  induction hr with
  | refl => exact .refl
  | tail _ hr ih => exact ih.tail (gesture_of_reaction hr)

theorem gestures_listen {v : StreamService} (hs : v.QueueFree) (port : UInt16) :
    Does Gestures h (listen port v) :=
  gestures_of_eq (keepsQueues_listen port v) (staysQueueFree_listen hs port)

theorem gestures_subscribe {v : DatagramService} (hs : v.QueueFree) (port : UInt16) :
    Does Gestures h (subscribe port v) :=
  gestures_of_eq (x := subscribe port v) (keepsQueues_of_eq rfl rfl rfl rfl rfl)
    (staysQueueFree_subscribe hs port)

theorem gestures_serveEcho : Does Gestures h serveEcho := by
  refine Does.bind (gestures_listen (v := .echo) trivial echoPort) ?_
  split
  · exact Does.bind (x := note _) (gestures_record rfl) (Does.pure _)
  · exact Does.bind (gestures_subscribe (v := .echo) trivial echoPort) (Does.pure _)

theorem gestures_servePage : Does Gestures h servePage := by
  refine Does.bind (gestures_listen (v := .page) trivial pagePort) ?_
  split
  · exact Does.pure _
  · exact Does.bind (x := note _) (gestures_record rfl) (Does.pure _)

/-! ## Runs -/

/-- **A queue-free operation comes to its end**, whatever is made of operations inside it. -/
theorem gestures_perform {op : Op} (ho : op.QueueFree) (inner : Exec) (fuel : Nat) (x : Context)
    (h : Host) : Ends Gestures h (perform inner fuel x op) := by
  have ha {α : Type} {y : Act α} (f : α → Reply) (hy : Does Gestures h y) :
      Ends Gestures h (liftM y >>= fun a => pure (f a) : Run Reply) :=
    Ends.act hy (.pure _)
  have hr {α : Type} {y : Act α} (f : α → Reply) (hy : Does (Reactions fun _ => True) h y) :
      Ends Gestures h (liftM y >>= fun a => pure (f a) : Run Reply) :=
    ha f (gestures_of_reactions hy)
  cases ho with
  | listen port ha' hr' => exact ha _ (gestures_listen (v := .script _ _) ⟨ha', hr'⟩ port)
  | subscribe port id hn =>
    exact ha (fun _ => .done) (gestures_subscribe (v := .script id _) hn port)
  | plain hp =>
    cases op with
    | receive | defer | poll | receivePacket | receiveSegment | receiveDatagram | spawn | enqueue
    | listen | subscribe => cases hp
    | register d => exact hr (fun _ => .done) (Reaction.does (.register d))
    | announce d => exact hr _ (reactions_announce d)
    | advertise d => exact hr _ (reactions_advertise d)
    | lookup d ip => exact hr _ (reactions_lookup d ip)
    | store ip mac => exact hr _ (Reaction.does (.store ip mac))
    | receiveArp d b => exact hr (fun _ => .done) (reactions_receiveArp d _)
    | receiveIcmp d b src => exact hr (fun _ => .done) (reactions_receiveIcmp trivial d src)
    | sendPacket d protocol dst room b =>
      refine Ends.act (gestures_record rfl) (Ends.act ?_ (Ends.act (gestures_record rfl) (.pure _)))
      exact does_sendPacket (gestures_of_reactions (E := fun _ => True) (reactions_lookup d dst))
        fun mac _ => Gesture.does (.offer d _)
    | sendFrame d type dst room b =>
      refine Ends.act (gestures_record rfl) (Ends.act ?_ (Ends.act (gestures_record rfl) (.pure _)))
      exact does_sendFrame (Gesture.does (.offer d _))
    | send t b =>
      unfold perform
      dsimp only
      split
      · exact hr _ (reactions_sendData _ _)
      · exact .pure _
    | close t =>
      unfold perform
      dsimp only
      split
      · exact hr _ (reactions_close _)
      · exact .pure _
    | sendDatagram f b =>
      unfold perform
      dsimp only
      split
      · exact hr _ (reactions_sendDatagram _ _)
      · exact .pure _
    | serveEcho => exact ha _ gestures_serveEcho
    | servePage => exact ha _ gestures_servePage
    | setFailure d r =>
      refine ha (y := modify _) (fun _ => .done) (gestures_of_eq ?_)
      exact keepsQueues_device fun _ => ⟨rfl, rfl, rfl, id⟩
    | release d =>
      refine ha (y := modify _) (fun _ => .done) (gestures_of_eq ?_)
      exact keepsQueues_device fun _ => ⟨rfl, rfl, rfl, nofun⟩
    | define id runs =>
      exact ha (y := defineTask id runs) (fun _ => .done) (Gesture.does (.define id runs))
    | pending | ownerOf | stateOf | summary | settings | deviceState | taskState =>
      exact .get (.pure _)

theorem judges_gestures :
    Judges (fun _ => True) fun {_} h x => QueueFree h → Ends Gestures h x where
  act hx _ := Ends.lift (gestures_of_reactions hx)
  bind hx hf hg := by
    obtain ⟨a, h₁, hr, hm⟩ := hx hg
    refine Ends.bind ⟨a, h₁, hr, hm⟩ fun a' h₁' hr' => hf a' h₁' hr' ?_
    rw [hr] at hr'
    cases hr'
    exact (staysQueueFree_gestures hm).queueFree hg

/-- **The reception of a frame comes to its end** where the application's code is queue-free. -/
theorem gestures_frame {inner : Exec}
    (hi : ∀ op, op.QueueFree → ∀ x h, Ends Gestures h (inner x op)) (hg : QueueFree h) (d : DeviceId)
    (b : Bytes) : Ends Gestures h (runJob inner (.frame d b)) := by
  have hc : ∀ k h, QueueFree h → Ends Gestures h (answerCall inner k) := fun k h hg =>
    judges_gestures.answerCall (fun op ho x h _ => hi op (hg.codeFor k ho) x h) hg
  have hf : ∀ h, QueueFree h → Ends Gestures h (receiveFrame (answerCall inner) d b) := fun h =>
    judges_gestures.receiveFrame hc (fun _ _ _ _ _ _ => trivial) d
  exact judges_gestures.lend hf hg

end Host

end InetHost
