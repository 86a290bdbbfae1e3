import InetHost.Proofs.Stream.Stroke

/-!
# Code that plays on one connection

A segment of a connection has a host do nothing but strokes on the connection, if its application keeps to
it. Which strokes they are depends only on what the connection sees.

* `Plays`, `Solo`: code that plays some strokes, the same on all hosts that look the same;
* `Engaged.sendSegment`, `Engaged.sendData`, …: one lemma for each act;
* `Engaged.runRead`: so does the application when it reads;
* **`Engaged.receiveSegment`**: so does a host when it takes a segment.
-/

namespace InetHost.Host

open Tcp

variable {α β : Type} {h h₁ h' : Host} {c : ConnId} {s : Stream} {d : DeviceId}

/-! ## Rules -/

/-- **An act plays strokes on a connection**: on every host that looks the same from there, it plays the
same strokes with the same result. -/
def Plays (c : ConnId) (s : Stream) (h : Host) (x : Act α) : Prop :=
  ∃ a, ∃ l : List (Stroke c s), ∀ h', Resembles c s h h' → Engaged c s h' → x.run h' = (a, plays l h')

/-- **Code plays strokes on a connection**, and comes to its end. -/
def Solo (c : ConnId) (s : Stream) (h : Host) (x : Run α) : Prop :=
  ∃ a, ∃ l : List (Stroke c s), ∀ h', Resembles c s h h' → Engaged c s h' →
    x.run h' = (some a, plays l h')

theorem Plays.pure (a : α) : Plays c s h (pure a) := ⟨a, [], fun _ _ _ => rfl⟩

theorem Plays.get {f : Host → Act α} (hf : ∀ h', Resembles c s h h' → f h' = f h)
    (hx : Plays c s h (f h)) : Plays c s h (get >>= f) := by
  obtain ⟨a, l, hx⟩ := hx
  refine ⟨a, l, fun h' al p => ?_⟩
  rw [act_get, hf h' al]
  exact hx h' al p

theorem Plays.bind {x : Act α} {f : α → Act β} (p : Engaged c s h) (hx : Plays c s h x)
    (hf : ∀ a {h₁}, Engaged c s h₁ → Plays c s h₁ (f a)) : Plays c s h (x >>= f) := by
  obtain ⟨a, l, hx⟩ := hx
  obtain ⟨b, l', hf⟩ := hf a (p.plays l)
  refine ⟨b, l ++ l', fun h' al p' => ?_⟩
  rw [StateT.run_bind, hx h' al p', plays_append]
  exact hf _ (al.plays p p' l) (p'.plays l)

theorem Plays.record {e : Event} (he : e.about = none ∨ e.about = some c) :
    Plays c s h (record e) :=
  ⟨(), [.enter e he], fun _ _ _ => rfl⟩

theorem Plays.note (n : Notice) : Plays c s h (note n) := .record (.inl rfl)

theorem Plays.alter {g : Connection → Connection}
    (hg : ∀ k, (g k).stream = k.stream ∧ (g k).service = k.service) :
    Plays c s h (modify fun h => { h with connections := h.connections.modify c g } : Act PUnit) :=
  ⟨(), [.alter g hg], fun _ _ _ => rfl⟩

theorem Plays.offer (d : DeviceId) (f : Bytes) : Plays c s h (offer d f) := by
  refine ⟨(h.device d).face.result, [.offer d f], fun h' al _ => Prod.ext ?_ rfl⟩
  exact (result_offer d f h').trans (congrArg Face.result (al.face d))

theorem Plays.forM {o : Option α} {f : α → Act Unit} (hf : ∀ a, Plays c s h (f a)) :
    Plays c s h (o.forM f) := by
  cases o with
  | none => exact .pure ()
  | some a => exact hf a

theorem Solo.lift {x : Act α} (hx : Plays c s h x) : Solo c s h (liftM x) := by
  obtain ⟨a, l, hx⟩ := hx
  refine ⟨a, l, fun h' al p => ?_⟩
  rw [run_lift, hx h' al p]

theorem Solo.pure (a : α) : Solo c s h (pure a) := ⟨a, [], fun _ _ _ => rfl⟩

theorem Solo.get {f : Host → Run α} (hf : ∀ h', Resembles c s h h' → f h' = f h)
    (hx : Solo c s h (f h)) : Solo c s h (get >>= f) := by
  obtain ⟨a, l, hx⟩ := hx
  refine ⟨a, l, fun h' al p => ?_⟩
  rw [run_get, hf h' al]
  exact hx h' al p

theorem Solo.bind {x : Run α} {f : α → Run β} (p : Engaged c s h) (hx : Solo c s h x)
    (hf : ∀ a {h₁}, Engaged c s h₁ → Solo c s h₁ (f a)) : Solo c s h (x >>= f) := by
  obtain ⟨a, l, hx⟩ := hx
  obtain ⟨b, l', hf⟩ := hf a (p.plays l)
  refine ⟨b, l ++ l', fun h' al p' => ?_⟩
  rw [run_bind, hx h' al p', plays_append]
  exact hf _ (al.plays p p' l) (p'.plays l)

theorem Solo.act {x : Act α} {f : α → Run β} (p : Engaged c s h) (hx : Plays c s h x)
    (hf : ∀ a {h₁}, Engaged c s h₁ → Solo c s h₁ (f a)) : Solo c s h (liftM x >>= f) :=
  .bind p (.lift hx) hf

/-! ## Sending -/

theorem Plays.sendFrame (b : PacketBuffer) (type : UInt16) (dst : Mac) (d : DeviceId) :
    Plays c s h (sendFrame b type dst d) := by
  refine .get (fun h' al => by rw [al.mac]) ?_
  split
  · exact .pure _
  · exact .offer d _

theorem Engaged.lookup (p : Engaged c s h) (d : DeviceId) (ip : Ip) : Plays c s h (lookup d ip) := by
  refine .get (fun h' al => by rw [al.arp]) ?_
  dsimp only
  split
  · exact .pure _
  · have ha : Plays c s h (askFor d ip) :=
      .get (fun h' al => by dsimp only; rw [al.mac, al.ip]) (.sendFrame ..)
    refine .bind p ha fun r h₁ p₁ => ?_
    cases r with
    | ok => exact .pure _
    | error e => exact .bind p₁ (.note _) fun _ _ _ => .pure _

theorem Engaged.sendPacket (p : Engaged c s h) (b : PacketBuffer) (protocol : UInt8) (dst : Ip)
    (d : DeviceId) : Plays c s h (sendPacket b protocol dst d) := by
  refine .get (fun h' al => by rw [al.config, al.ip]) ?_
  dsimp only
  split
  · exact .pure _
  · split_ifs
    · exact .pure _
    · refine .bind p (p.lookup d dst) fun r _ _ => ?_
      cases r with
      | none => exact .pure _
      | some mac => exact .sendFrame ..

theorem Engaged.sendSegment (p : Engaged c s h) (d : DeviceId) (t : Header) (data : Bytes) :
    Plays c s h (sendSegment (some c) d s t data) :=
  .bind p (p.sendPacket ..) fun _ _ p₁ => .bind p₁ (.record (.inr rfl)) fun _ _ _ => .pure _

theorem Engaged.emit (p : Engaged c s h) (t : Header) (data : Bytes) :
    Plays c s h (emit c t data) := by
  refine .get (fun h' al => by rw [al.connection]) ?_
  dsimp only
  rw [p.stream]
  exact p.sendSegment ..

theorem Engaged.answerOn (p : Engaged c s h) (t : Header) : Plays c s h (answerOn c t) := by
  refine .get (fun h' al => by rw [al.connection]) ?_
  dsimp only
  rw [p.stream]
  refine .bind p (p.sendSegment ..) fun r h₁ _ => ?_
  cases r with
  | ok => exact .pure _
  | error e => exact .note _

/-! ## Steps of a control block -/

theorem Engaged.setControl (p : Engaged c s h) (k : Control) : Plays c s h (setControl c k) := by
  refine .get (fun h' al => by rw [al.connection]) ?_
  refine .bind p (.alter fun _ => ⟨rfl, rfl⟩) fun _ h₁ _ => ?_
  split
  · exact .pure _
  · exact .record (.inr rfl)

theorem Engaged.removeStream (p : Engaged c s h) : Plays c s h (removeStream s c) := by
  refine .get (fun h' al => by rw [al.place]) ?_
  rcases p.place with hs | hs
  · rw [hs]
    exact .bind p ⟨(), [.leave], fun _ _ _ => rfl⟩ fun _ _ _ => .record (.inl rfl)
  · rw [hs]
    exact .pure _

theorem Engaged.steer (p : Engaged c s h) (f : Control → Control × Outcome) :
    Plays c s h (steer c f) := by
  refine .get (fun h' al => by rw [al.connection]) ?_
  dsimp only
  refine .bind p (p.setControl _) fun _ h₁ p₁ => ?_
  have hn : ∀ {h₂}, Engaged c s h₂ → Plays c s h₂ (do
      (f (h.connection c).control).2.notice.forM Host.note
      return (f (h.connection c).control).2 : Act Outcome) := fun p₂ =>
    .bind p₂ (.forM .note) fun _ _ _ => .pure _
  split
  · exact .bind p₁ (.record (.inr rfl)) fun _ _ p₂ => hn p₂
  · exact hn p₁

theorem Engaged.settle (p : Engaged c s h) (o : Outcome) : Plays c s h (settle c o) := by
  refine .bind p (.forM p.answerOn) fun _ h₁ p₁ => ?_
  split
  · refine .get (fun h' al => by rw [al.connection]) ?_
    dsimp only
    rw [p₁.stream]
    exact .bind p₁ (.note _) fun _ _ p₂ => p₂.removeStream
  · exact .pure _

/-! ## Sending and closing -/

/-- A segment of the host's own is sent, and the connection goes on where it was. -/
theorem Engaged.advance (p : Engaged c s h) (t : Header) (data : Bytes) (k : Control) :
    Plays c s h (do
      let r ← Host.emit c t data
      if r.toBool then Host.setControl c k
      return r) := by
  refine .bind p (p.emit t data) fun r h₁ p₁ => ?_
  dsimp only
  split
  · exact .bind p₁ (p₁.setControl k) fun _ _ _ => .pure _
  · exact .pure _

theorem Engaged.sendData (p : Engaged c s h) (data : Bytes) : Plays c s h (sendData s data) := by
  refine .get (fun h' al => ?_) ?_
  · rw [al.config, al.place]
    rcases p.place with hs | hs
    · simp only [hs, al.connection]
    · simp only [hs]
  · dsimp only
    split
    · exact .pure _
    · rcases p.place with hs | hs
      · rw [hs]
        dsimp only
        split
        · exact p.advance ..
        · exact .pure _
      · rw [hs]
        exact .pure _

theorem Engaged.close (p : Engaged c s h) : Plays c s h (close s) := by
  refine .get (fun h' al => ?_) ?_
  · rw [al.place]
    rcases p.place with hs | hs
    · simp only [hs, al.connection]
    · simp only [hs]
  · rcases p.place with hs | hs
    · rw [hs]
      dsimp only
      split
      · exact .pure _
      · exact p.advance ..
    · rw [hs]
      exact .pure _

theorem Engaged.echoStream (p : Engaged c s h) (data : Bytes) : Plays c s h (echoStream s data) := by
  refine .bind p (p.sendData data) fun r _ _ => ?_
  cases r with
  | ok => exact .pure _
  | error e => exact .note _

theorem Engaged.sendPage (p : Engaged c s h) : Plays c s h (sendPage s) := by
  refine .bind p (p.sendData page) fun r _ _ => ?_
  cases r with
  | ok => exact .pure _
  | error e => exact .note _

/-! ## The application -/

/-- Which devices an operation holds does not matter to an offer, … -/
theorem offer_lent (d : DeviceId) (f : Bytes) (m : List DeviceId) (h : Host) :
    ((offer d f).run { h with lent := m }).2 = { ((offer d f).run h).2 with lent := m } := by
  cases hs : (h.device d).staging with
  | none =>
    rw [run_offer_direct (h := { h with lent := m }) hs, run_offer_direct hs]
    rfl
  | some w =>
    rw [run_offer (h := { h with lent := m }) hs, run_offer hs, run_enqueue, run_enqueue]
    by_cases hq : (((stage d f).run h).2.task w.task).queued = true
    · rw [if_pos hq]
      exact if_pos hq
    · rw [if_neg hq]
      exact if_neg hq

/-- … nor to any other stroke. -/
theorem plays_lent (l : List (Stroke c s)) (m : List DeviceId) (h : Host) :
    plays l { h with lent := m } = { plays l h with lent := m } := by
  induction l generalizing h with
  | nil => rfl
  | cons t l ih =>
    have ht : t.play { h with lent := m } = { t.play h with lent := m } := by
      cases t with
      | enter | alter | leave => rfl
      | offer d f => exact offer_lent d f m h
    change plays l (t.play { h with lent := m }) = _
    rw [ht]
    exact ih (t.play h)

theorem lent_plays (l : List (Stroke c s)) (h : Host) : (plays l h).lent = h.lent := by
  have hl := congrArg Host.lent (plays_lent l h.lent h)
  exact hl

theorem Engaged.lent (p : Engaged c s h) (m : List DeviceId) : Engaged c s { h with lent := m } :=
  ⟨p.steady, p.lt, p.stream, p.keeps, p.place⟩

theorem Solo.lend {x : Run Unit} (hx : Solo c s h x) (d : DeviceId) : Solo c s h (lend d x) := by
  obtain ⟨a, l, hx⟩ := hx
  refine ⟨(), l, fun h' al p => ?_⟩
  have al' : Resembles c s h { h' with lent := d :: h'.lent } :=
    ⟨al.config, al.arp, al.face, al.connection, al.place⟩
  have hr := hx _ al' (p.lent _)
  rw [plays_lent] at hr
  rw [run_lend hr, List.tail_cons, ← lent_plays l h']

theorem resolve_of_keepsTo {t : Target} (ht : decide (t = .current ∨ t = .stream s) = true)
    {x : Context} (hx : x.stream = some s) : t.resolve x = some s := by
  rcases of_decide_eq_true ht with rfl | rfl
  · exact hx
  · rfl

theorem Engaged.perform (p : Engaged c s h) {op : Op} (ho : op.keepsTo s = true) {x : Context}
    (hx : x.stream = some s) (inner : Exec) (fuel : Nat) : Solo c s h (perform inner fuel x op) := by
  unfold Host.perform
  cases op with
  | send t b =>
    dsimp only
    rw [resolve_of_keepsTo ho hx]
    exact .act p (p.sendData _) fun _ _ _ => .pure _
  | close t =>
    dsimp only
    rw [resolve_of_keepsTo ho hx]
    exact .act p p.close fun _ _ _ => .pure _
  | stateOf t =>
    dsimp only
    rw [resolve_of_keepsTo ho hx]
    refine .get (fun h' al => ?_) (.pure _)
    have hs : h'.stateOf s = h.stateOf s := by
      unfold Host.stateOf
      rw [al.place]
      rcases p.place with hs | hs
      · rw [hs, Option.map_some, Option.map_some, al.connection]
      · rw [hs]
        rfl
    rw [Option.bind_some, Option.bind_some, hs]
  | _ => cases ho

theorem forall_mem_entry {P : Op → Prop} {l : Script} (hl : ∀ ops ∈ l, ∀ op ∈ ops, P op) (k : Nat) :
    ∀ op ∈ Script.entry l k, P op := by
  unfold Script.entry
  by_cases hk : min k (l.length - 1) < l.length
  · rw [List.getD_eq_getElem _ _ hk]
    exact hl _ (List.getElem_mem hk)
  · rw [List.getD_eq_default _ _ (Nat.not_lt.mp hk)]
    exact List.forall_mem_nil _

theorem Engaged.runScript (p : Engaged c s h) {ops : List Op} (ho : ∀ op ∈ ops, op.keepsTo s = true)
    {x : Context} (hx : x.stream = some s) (n : Nat) :
    Solo c s h (runScript (exec (n + 1)) x ops) := by
  induction ops generalizing h with
  | nil => exact .pure ()
  | cons op ops ih =>
    obtain ⟨ho₁, ho₂⟩ := List.forall_mem_cons.mp ho
    refine .bind p ?_ fun _ _ p₁ => ih p₁ ho₂
    refine .bind p (p.perform ho₁ hx (exec n) n) fun r _ _ => ?_
    exact .lift (.record (.inl rfl))

/-- **The application plays on the connection** that it reads from. -/
theorem Engaged.runRead (p : Engaged c s h) (n : Nat) (data : Bytes) :
    Solo c s h (runRead (exec (n + 1)) c data) := by
  refine .get (fun h' al => by rw [al.connection]) ?_
  dsimp only
  have hk := p.keeps
  unfold Connection.KeepsTo Connection.script at hk
  rw [p.stream] at hk ⊢
  split
  · exact .lift (p.echoStream data)
  · exact .lift p.sendPage
  · rename_i accept read hs
    rw [hs] at hk
    refine .act p (x := modify _) (.alter fun _ => ⟨rfl, rfl⟩) fun _ _ p₁ => ?_
    refine .act p₁ (.record (.inl rfl)) fun _ _ p₂ => .lend ?_ _
    exact p₂.runScript (forall_mem_entry hk _) rfl n

/-! ## Segments -/

/-- **A host plays on a connection** when it takes a segment of it. -/
theorem Engaged.receiveOn (p : Engaged c s h) (g : Segment) (n : Nat) :
    Solo c s h (receiveOn (answerCall (exec (n + 1))) c g) := by
  refine .act p (p.steer _) fun o _ p₁ => .act p₁ (p₁.settle o) fun _ _ p₂ => ?_
  have hf : ∀ {h₃}, Engaged c s h₃ → Solo c s h₃ (do Host.settle c (← Host.steer c (·.finish o.fin))) :=
    fun p₃ => .act p₃ (p₃.steer _) fun _ _ p₄ => .lift (p₄.settle _)
  split
  · exact .pure ()
  · split
    · exact hf p₂
    · refine .act p₂ (.record (.inr rfl)) fun _ _ p₃ => ?_
      exact .bind p₃ (p₃.runRead n _) fun _ _ p₄ => hf p₄

/-- **A host plays on a connection** when a segment of it comes in. -/
theorem Engaged.receiveSegment (p : Engaged c s h) (hc : h.stream? s = some c) {b : Bytes} {src : Ip}
    {g : Segment} (hg : Segment.decode b = .ok g)
    (hs : s = ⟨⟨(h.device d).ip, g.dstPort⟩, ⟨src, g.srcPort⟩⟩) (n : Nat) :
    Solo c s h (receiveSegment (answerCall (exec (n + 1))) d b src) := by
  unfold Host.receiveSegment
  rw [hg]
  refine .get (fun h' al => ?_) ?_
  · dsimp only
    rw [al.ip, ← hs, al.place]
  · dsimp only
    rw [← hs, hc]
    exact .act p (.record (.inl rfl)) fun _ _ p₁ => p₁.receiveOn g n

theorem Engaged.exec (p : Engaged c s h) (hc : h.stream? s = some c) {b : Bytes} {src : Ip}
    {g : Segment} (hg : Segment.decode b = .ok g)
    (hs : s = ⟨⟨(h.device d).ip, g.dstPort⟩, ⟨src, g.srcPort⟩⟩) (n : Nat) :
    ∃ l : List (Stroke c s), ∀ h', Resembles c s h h' → Engaged c s h' →
      (exec (n + 2) {} (.receiveSegment d (.bytes b) src)).run h' = (some .done, Host.plays l h') := by
  obtain ⟨_, l, hx⟩ := (p.receiveSegment hc hg hs n).lend d
  refine ⟨l, fun h' al p' => ?_⟩
  change (do
    lend d (Host.receiveSegment (answerCall (Host.exec (n + 1))) d b src)
    return Reply.done : Run Reply).run h' = _
  rw [run_bind, hx h' al p']
  rfl

end InetHost.Host
