import InetHost.Proofs.Run.Chore

/-!
# What a host can come to

`Leads e h h'` says that a host may go from `h` to `h'` when it is used: operations come from outside,
and application code answers the host's calls with whatever the host offers, as it likes and on every
occasion anew. The hardware takes frames or fails as it likes. `e` says whether all of it has come to an
end; a run that has not stands at `h'`.

* `Leads`, `Visited`; **`leads_exec`**: running an operation is one way;
* `run_drain_next`, `run_drain_empty`: a poll, job by job;
* `Serves S`: what has to be shown of a relation between hosts for it to hold where no queue is polled,
  namely that it holds of chores, of calls and of the three acts on connections;
* **`Serves.leads`**: if it holds of polls as well, then it holds along every run;
* `Covers S`, **`Covers.leads`**: it does if it holds of everything that a poll is made of;
* `conversation`, `talked`: hosts that were used for a short while.
-/

namespace InetHost.Host

/-- **A host at `h` may come to `h'`.** Application code is any `inner` that itself stays within what
a host can come to. -/
inductive Leads : Bool → Host → Host → Prop
  | refl (h : Host) : Leads true h h
  | cut (h : Host) : Leads false h h
  | trans {e : Bool} {h h₁ h₂ : Host} (h₁₂ : Leads true h h₁) (h₂₃ : Leads e h₁ h₂) : Leads e h h₂
  | hardware (d : DeviceId) (l : List (Option Refusal)) (h : Host) :
    Leads true h { h with devices := h.devices.modify d ({ · with outcomes := l }) }
  | perform (inner : Exec) (fuel : Nat) (x : Context) (op : Op) (h : Host)
    (hi : ∀ x op h, Leads ((inner x op).run h).1.isSome h ((inner x op).run h).2) :
    Leads ((perform inner fuel x op).run h).1.isSome h ((perform inner fuel x op).run h).2

/-- A host that was started and used. -/
def Visited (h : Host) : Prop := ∃ s h₀ e, start s = .ok h₀ ∧ Leads e h₀ h

theorem leads_exec (n : Nat) (x : Context) (op : Op) (h : Host) :
    Leads ((exec n x op).run h).1.isSome h ((exec n x op).run h).2 := by
  induction n generalizing x op h with
  | zero => exact .cut h
  | succ n ih => exact .perform (exec n) n x op h ih

theorem eq_of_start {s : Setup} {h : Host} (hs : start s = .ok h) :
    s.config.check = .ok () ∧ h = s.devices.foldl attach { config := s.config } := by
  unfold start at hs
  cases hc : s.config.check with
  | error => rw [hc] at hs; cases hs
  | ok =>
    rw [hc] at hs
    exact ⟨rfl, (Except.ok.inj hs).symm⟩

theorem foldl_attach {P : Host → Prop} (hP : ∀ h v, P h → P (attach h v)) (l : List DeviceSetup)
    {h : Host} (h₀ : P h) : P (l.foldl attach h) := by
  induction l generalizing h with
  | nil => exact h₀
  | cons v l ih => exact ih (hP h v h₀)

/-- Nothing has happened yet. -/
structure Fresh (h : Host) : Prop where
  arp : h.arp.entries = []
  owners : h.owners = []
  connections : h.connections = []
  streams : h.streams = []
  journal : h.journal = []

theorem fresh_start {s : Setup} {h : Host} (hs : start s = .ok h) : Fresh h := by
  rw [(eq_of_start hs).2]
  refine foldl_attach (fun h v hf => ?_) s.devices ⟨rfl, rfl, rfl, rfl, rfl⟩
  unfold attach
  split <;> exact ⟨hf.arp, hf.owners, hf.connections, hf.streams, hf.journal⟩

/-! ## Polls, job by job -/

/-- The host after a job was taken from a queue on which `rest` is left. -/
def taken (h : Host) (q : QueueId) (j : Job) (rest : List Job) : Host :=
  { h with queues := alterQueue (fun _ => rest) q h.queues, journal := .started q j :: h.journal }

section Polls

variable {h h₁ : Host} {q : QueueId} {j : Job} {rest : List Job}

theorem run_next (hq : h.queue q = j :: rest) : (next? q).run h = (some j, h.taken q j rest) := by
  unfold next?
  rw [act_get, hq]
  rfl

theorem run_next_empty (hq : h.queue q = []) : (next? q).run h = (none, h) := by
  unfold next?
  rw [act_get, hq]
  rfl

variable {inner : Exec}

theorem run_drain_next (hn : (next? q).run h = (some j, h₁)) (fuel m : Nat) :
    (drain inner q (fuel + 1) m).run h =
      (runJob inner j >>= fun _ => drain inner q fuel (m + 1)).run h₁ := by
  change (liftM (next? q) >>= _ : Run Nat).run h = _
  rw [run_act, hn]

theorem run_drain_empty (hq : h.queue q = []) (fuel m : Nat) :
    (drain inner q (fuel + 1) m).run h = (some m, ((record (.drained q m)).run h).2) := by
  change (liftM (next? q) >>= _ : Run Nat).run h = _
  rw [run_act, run_next_empty hq]
  rfl

end Polls

/-! ## Relations that hold where no queue is polled -/

/-- A relation that holds of what a host does when it is asked for something. -/
structure Serves (S : Bool → Host → Host → Prop) : Prop extends Composes S where
  chore : ∀ {h h'}, Chore (fun _ _ _ => False) h h' → S true h h'
  call : ∀ {e : Event} (h : Host), e.isCall = true → Does (S true) h (record e)
  receive : ∀ (app : Application) d b src h, (∀ k h, Within S h (app k)) →
    Within S h (receiveSegment app d b src)
  send : ∀ s b h, Does (S true) h (sendData s b)
  close : ∀ s h, Does (S true) h (close s)

namespace Serves

variable {S : Bool → Host → Host → Prop} (hS : Serves S)

include hS

theorem chores {h h' : Host} (hc : Chores (fun _ _ _ => False) h h') : S true h h' := by
  induction hc with
  | refl => exact hS.refl h
  | tail _ hc ih => exact hS.trans ih (hS.chore hc)

theorem act {α : Type} {x : Act α} {h : Host} (hx : Does (Chores fun _ _ _ => False) h x) :
    Within S h (liftM x : Run α) :=
  Within.lift (hS.chores hx)

theorem step {α β : Type} {x : Act α} {f : α → Run β} {h : Host}
    (hx : Does (Chores fun _ _ _ => False) h x) (hf : Within S (x.run h).2 (f (x.run h).1)) :
    Within S h (liftM x >>= f) :=
  Within.act hS.toComposes (hS.chores hx) hf

theorem say {β : Type} {e : Event} {f : Unit → Run β} {h : Host} (he : e.isCall = true)
    (hf : Within S ((record e).run h).2 (f ())) : Within S h (liftM (record e) >>= f) :=
  Within.act hS.toComposes (hS.call h he) hf

theorem change {β : Type} {g : Host → Host} {f : PUnit → Run β} {h : Host}
    (hc : Chore (fun _ _ _ => False) h (g h)) (hf : Within S (g h) (f ⟨⟩)) :
    Within S h (modify g >>= f) :=
  Within.change hS.toComposes (hS.chore hc) hf

/-! ### Receiving -/

theorem lend {d : DeviceId} {x : Run Unit} (hx : ∀ h, Within S h x) (h : Host) :
    Within S h (lend d x) := by
  refine hS.change (.lend (d :: h.lent)) (Within.bind hS.toComposes (hx _) fun _ h' _ => ?_)
  exact hS.change (.lend h'.lent.tail) (Within.pure hS.toComposes _)

section Application

variable {app : Application} (ha : ∀ k h, Within S h (app k))

include ha

theorem receiveDatagram (d : DeviceId) (b : Bytes) (src : Ip) (h : Host) :
    Within S h (receiveDatagram app d b src) := by
  unfold Host.receiveDatagram
  split
  · exact hS.act (chores_note _)
  · refine Within.get ?_
    split
    · exact hS.act (chores_note _)
    · exact Within.forM hS.toComposes fun u _ h => ha _ h

theorem receivePacket (d : DeviceId) (b : Bytes) (h : Host) :
    Within S h (receivePacket app d b) := by
  refine hS.step (Chore.does (.register d)) ?_
  split
  · exact hS.act (chores_note _)
  · split_ifs
    · exact hS.act (chores_receiveIcmp d _ _)
    · exact hS.act (chores_note _)
    · exact hS.receive app d _ _ _ ha
    · exact hS.receiveDatagram ha d _ _ _
    · exact hS.act (chores_note _)

theorem receiveFrame (d : DeviceId) (b : Bytes) (h : Host) : Within S h (receiveFrame app d b) := by
  unfold Host.receiveFrame
  split
  · exact hS.act (chores_note _)
  · split_ifs
    · exact hS.receivePacket ha d _ h
    · exact hS.act (chores_receiveArp d _)
    · exact hS.act (chores_note _)
    · exact hS.act (chores_note _)

end Application

/-! ### Application code -/

theorem echoStream (s : Stream) (data : Bytes) (h : Host) :
    Within S h (liftM (echoStream s data) : Run Unit) :=
  hS.trans (hS.send s data h) (hS.chores (chores_report _ (.streamEchoFailed s.peer)))

theorem sendPage (s : Stream) (h : Host) : Within S h (liftM (sendPage s) : Run Unit) :=
  hS.trans (hS.send s page h) (hS.chores (chores_report _ (.pageFailed s.peer)))

section Inner

variable {inner : Exec} (hi : ∀ x op h, Within S h (inner x op))

include hi

theorem runScript (x : Context) (ops : List Op) (h : Host) : Within S h (runScript inner x ops) :=
  Within.forM hS.toComposes fun op _ h =>
    Within.bind hS.toComposes (hi x op h) fun _ _ _ => Within.lift (hS.call _ rfl)

theorem runAccept (a : Nat) (s : Stream) (h : Host) : Within S h (runAccept inner a s) := by
  refine Within.get ?_
  dsimp only
  split
  · exact Within.pure hS.toComposes _
  · exact Within.pure hS.toComposes _
  · refine hS.change (.countAccept a _) (hS.say rfl ?_)
    exact hS.runScript hi _ _ _

theorem runRead (c : ConnId) (data : Bytes) (h : Host) : Within S h (runRead inner c data) := by
  refine Within.get ?_
  dsimp only
  split
  · exact hS.echoStream _ data h
  · exact hS.sendPage _ h
  · refine hS.change (.countRead c _) (hS.say rfl ?_)
    exact hS.lend (hS.runScript hi _ _) _

theorem runNotify (u : Nat) (f : Flow) (data : Bytes) (h : Host) :
    Within S h (runNotify inner u f data) := by
  refine Within.get ?_
  dsimp only
  split
  · exact hS.act (chores_echoDatagram f data)
  · refine hS.change (.countNotify u _) (hS.say rfl ?_)
    exact hS.runScript hi _ _ _

theorem answerCall (k : Call) (h : Host) : Within S h (answerCall inner k) := by
  cases k with
  | accept a s => exact hS.runAccept hi a s h
  | read c data => exact hS.runRead hi c data h
  | notify u f data => exact hS.runNotify hi u f data h

/-! ### Deferred work -/

theorem runJob {j : Job} (hj : ∀ t, j ≠ .task t) (h : Host) : Within S h (runJob inner j) := by
  cases j with
  | frame d b => exact hS.lend (hS.receiveFrame (hS.answerCall hi) d b) h
  | once id ops => exact hS.say rfl (hS.runScript hi _ _ _)
  | task t => exact absurd rfl (hj t)

theorem runCode (t : TaskId) (id : Label) (runs : Script) (n : Nat) (h : Host) :
    Within S h (do
      modifyTask t ({ · with runs := n + 1 })
      record (.taskRuns id)
      Host.runScript inner {} (Script.entry runs n) : Run Unit) :=
  hS.step (Chore.does (.countRun t _)) (hS.say rfl (hS.runScript hi _ _ _))

/-! ### Operations -/

/-- **An operation**, if polls are covered. -/
theorem perform (hd : ∀ q fuel h, Within S h (drain inner q fuel 0)) (fuel : Nat) (x : Context)
    (op : Op) (h : Host) : Within S h (perform inner fuel x op) := by
  have hp : ∀ {α : Type} (a : α) (h : Host), Within S h (pure a : Run α) := fun a _ =>
    Within.pure hS.toComposes a
  have hl : ∀ (d : DeviceId) (y : Run Unit), (∀ h, Within S h y) →
      Within S h (Host.lend d y >>= fun _ => pure Reply.done) := fun d y hy =>
    Within.bind hS.toComposes (hS.lend hy h) fun _ _ _ => hp _ _
  have hc := hS.answerCall hi
  cases op with
  | receive d b => exact hl d _ (hS.receiveFrame hc d _)
  | defer d b => exact hS.step (Chore.does (.put 0 _ nofun)) (hp _ _)
  | poll q => exact Within.map hS.toComposes _ (hd q fuel h)
  | pending q => exact Within.get (hp _ h)
  | register d => exact hS.step (Chore.does (.register d)) (hp _ _)
  | ownerOf ip => exact Within.get (hp _ h)
  | announce d => exact hS.step (chores_announce d) (hp _ _)
  | advertise d => exact hS.step (chores_advertise d) (hp _ _)
  | lookup d ip => exact hS.step (chores_lookup d ip) (hp _ _)
  | store ip mac => exact hS.step (Chore.does (.store ip mac)) (hp _ _)
  | receiveArp d b => exact hS.step (chores_receiveArp d _) (hp _ _)
  | receivePacket d b => exact hl d _ (hS.receivePacket hc d _)
  | receiveIcmp d b src => exact hS.step (chores_receiveIcmp d _ src) (hp _ _)
  | receiveSegment d b src => exact hl d _ fun h => hS.receive _ d _ src h hc
  | receiveDatagram d b src => exact hl d _ (hS.receiveDatagram hc d _ src)
  | sendPacket d protocol dst room b =>
    refine hS.step (Chore.does (.record (.crafting d) rfl)) ?_
    refine hS.step (chores_sendPacket fun _ _ => .inl (.crafted _ rfl)) ?_
    exact hS.step (Chore.does (.record (.crafted d) rfl)) (hp _ _)
  | sendFrame d type dst room b =>
    refine hS.step (Chore.does (.record (.crafting d) rfl)) ?_
    refine hS.step (does_sendFrame (chores_offer (.crafted _ rfl))) ?_
    exact hS.step (Chore.does (.record (.crafted d) rfl)) (hp _ _)
  | listen port accept read =>
    exact hS.step (Chore.does (.listen port (.script accept read))) (hp _ _)
  | send t b =>
    unfold Host.perform
    dsimp only
    split
    · exact Within.act hS.toComposes (hS.send _ _ h) (hp _ _)
    · exact hp _ h
  | close t =>
    unfold Host.perform
    dsimp only
    split
    · exact Within.act hS.toComposes (hS.close _ h) (hp _ _)
    · exact hp _ h
  | stateOf t => exact Within.get (hp _ h)
  | subscribe port id notify =>
    exact hS.step (Chore.does (.subscribe port (.script id notify))) (hp _ _)
  | sendDatagram f b =>
    unfold Host.perform
    dsimp only
    split
    · exact hS.step (chores_sendDatagram _ _) (hp _ _)
    · exact hp _ h
  | serveEcho => exact hS.step chores_serveEcho (hp _ _)
  | servePage => exact hS.step chores_servePage (hp _ _)
  | summary => exact Within.get (hp _ h)
  | settings => exact Within.get (hp _ h)
  | deviceState d => exact Within.get (hp _ h)
  | setFailure d r => exact hS.change (.device d _ fun _ => ⟨rfl, rfl, rfl, id⟩) (hp _ _)
  | release d => exact hS.change (.device d _ fun _ => ⟨rfl, rfl, rfl, nofun⟩) (hp _ _)
  | spawn q id ops => exact hS.step (Chore.does (.put q _ nofun)) (hp _ _)
  | define id runs => exact hS.step (Chore.does (.defineTask id runs)) (hp _ _)
  | enqueue id q =>
    refine Within.get ?_
    dsimp only
    split
    · rename_i t ht
      exact hS.step (Chore.does (.enqueue q t ⟨id, ht⟩)) (Within.get (hp _ _))
    · exact Within.get (hp _ h)
  | taskState id => exact Within.get (hp _ h)

end Inner

/-- **What holds of the parts holds of every run**, if it holds of polls. -/
theorem leads (hd : ∀ inner : Exec, (∀ x op h, Within S h (inner x op)) → ∀ q fuel h,
    Within S h (drain inner q fuel 0)) {e : Bool} {h h' : Host} (hl : Leads e h h') : S e h h' := by
  induction hl with
  | refl h => exact hS.refl h
  | cut h => exact hS.cut h
  | trans _ _ h₁₂ h₂₃ => exact hS.trans h₁₂ h₂₃
  | hardware d l h => exact hS.chore (.device d _ fun _ => ⟨rfl, rfl, rfl, id⟩)
  | perform inner fuel x op h _ ih => exact hS.perform ih (hd inner ih) fuel x op h

end Serves

/-! ## Relations that cover every run -/

/-- A relation that holds of everything a host does can be put together from its parts. -/
structure Covers (S : Bool → Host → Host → Prop) : Prop extends Serves S where
  polling : ∀ {h h'}, Polling h h' → S true h h'

namespace Covers

variable {S : Bool → Host → Host → Prop} (hS : Covers S)

include hS

theorem poll {α β : Type} {x : Act α} {f : α → Run β} {h : Host} (hx : Polling h (x.run h).2)
    (hf : Within S (x.run h).2 (f (x.run h).1)) : Within S h (liftM x >>= f) :=
  Within.act hS.toComposes (hS.polling hx) hf

section Inner

variable {inner : Exec} (hi : ∀ x op h, Within S h (inner x op))

include hi

theorem runTask (t : TaskId) (h : Host) : Within S h (runTask inner t) := by
  refine hS.poll (.dequeued t) (Within.get ?_)
  dsimp only
  split
  · refine Within.get ?_
    split
    · exact hS.polling (.transmitNext _)
    · exact hS.polling (.deserted _)
  · exact hS.runCode hi t _ _ _ _

theorem runAny (j : Job) (h : Host) : Within S h (runJob inner j) := by
  cases j with
  | frame | once =>
    refine hS.runJob hi ?_ h
    exact nofun
  | task t => exact hS.runTask hi t h

theorem drain (q : QueueId) (fuel n : Nat) (h : Host) : Within S h (drain inner q fuel n) := by
  induction fuel generalizing n h with
  | zero => exact Within.failure hS.toComposes
  | succ fuel ih =>
    refine hS.poll (.next q) ?_
    split
    · exact hS.poll (.drained q n) (Within.pure hS.toComposes n)
    · rename_i j _
      exact Within.bind hS.toComposes (hS.runAny hi j _) fun _ h' _ => ih (n + 1) h'

end Inner

/-- **What holds of the parts holds of every run.** -/
theorem leads {e : Bool} {h h' : Host} (hl : Leads e h h') : S e h h' :=
  hS.toServes.leads (fun _ hi q fuel h => hS.drain hi q fuel 0 h) hl

end Covers

/-! ## A short conversation -/

/-- The host after some operations, if each of them comes to its end at a depth of `n`. -/
def after? (n : Nat) : List Op → Host → Option Host
  | [], h => some h
  | op :: ops, h =>
    match (exec n {} op).run h with
    | (some _, h') => after? n ops h'
    | (none, _) => none

theorem leads_after? {n : Nat} {ops : List Op} {h h' : Host} (ha : after? n ops h = some h') :
    Leads true h h' := by
  induction ops generalizing h with
  | nil =>
    obtain rfl := Option.some.inj ha
    exact .refl h
  | cons op ops ih =>
    have hl := leads_exec n {} op h
    unfold after? at ha
    cases hr : (exec n {} op).run h with
    | mk r h₁ =>
      rw [hr] at hl ha
      cases r with
      | none => cases ha
      | some _ => exact .trans hl (ih ha)

/-- A device to talk through. -/
def talker : DeviceSetup := { mac := ⟨2, 0, 0, 0, 0, 1⟩, ip := ⟨10, 0, 0, 1⟩ }

/-- A segment from a peer of the talker. -/
def fromPeer (t : Tcp.Header) (data : Bytes) : Op :=
  let peer : Endpoint := ⟨⟨10, 0, 0, 2⟩, 4000⟩
  .receiveSegment 0 (.bytes (Tcp.encode ⟨peer, ⟨talker.ip, echoPort⟩⟩ t data)) peer.ip

/-- A peer opens a connection to the echo service, and sends two bytes and its FIN. -/
def conversation? : Option Host :=
  after? 3
    [.store ⟨10, 0, 0, 2⟩ ⟨2, 0, 0, 0, 0, 2⟩, .serveEcho, fromPeer ⟨99, 0, .syn, 1000⟩ [],
      fromPeer ⟨100, 2, .fin ||| .psh ||| .ack, 1000⟩ [104, 105]]
    (attach { config := {} } talker)

/-- The host that took part in it. -/
def conversation : Host := conversation?.getD default

theorem conversation_eq : conversation? = some conversation := by
  have hs : conversation?.isSome = true := by decide +kernel
  obtain ⟨h, hh⟩ := Option.isSome_iff_exists.mp hs
  rw [conversation, hh]
  rfl

theorem visited_after? {n : Nat} {ops : List Op} {h : Host}
    (ha : after? n ops (attach { config := {} } talker) = some h) : Visited h :=
  ⟨⟨{}, [talker]⟩, _, true, rfl, leads_after? ha⟩

theorem visited_conversation : Visited conversation := visited_after? conversation_eq

/-- The host of a talker after some operations. -/
def talked (ops : List Op) : Host := (after? 3 ops (attach { config := {} } talker)).getD default

theorem visited_talked {ops : List Op}
    (hs : (after? 3 ops (attach { config := {} } talker)).isSome = true) : Visited (talked ops) := by
  obtain ⟨h, hh⟩ := Option.isSome_iff_exists.mp hs
  rw [talked, hh]
  exact visited_after? hh

end InetHost.Host
