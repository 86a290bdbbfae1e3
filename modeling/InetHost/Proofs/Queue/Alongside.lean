import InetHost.Proofs.Queue.Ahead

/-!
# Runs side by side

What may call the application does the same to a host on which some jobs are ahead, as long as the
application does not ask for what waits on the host's own queue.

* `Op.disturbs`: an operation that polls or inspects the host's own queue, or lets go of a device;
* `execApart`: operations run as `exec` runs them, but one that disturbs comes to no end;
* `Alongside cut p R x x'`: where `x` leads one host, `x'` leads one on which the jobs `p` are ahead.
  With `cut`, `x` may also come to no end;
* **`alongside_perform`**: it is so for every operation that does not disturb;
* **`alongside_execApart`**, **`alongside_exec`**: and for all that run inside it.
-/

namespace InetHost

/-- An operation polls or inspects the host's own queue, or lets go of one of some devices. -/
def Op.disturbs (ds : List DeviceId) : Op → Bool
  | .poll q | .pending q => q == 0
  | .summary => true
  | .release d => ds.contains d
  | _ => false

namespace Host

/-- Run an operation where application code leaves the host's own queue alone: what does not comes to no
end. -/
def execApart (ds : List DeviceId) : Nat → Exec
  | 0, _, _ => failure
  | n + 1, x, op => if op.disturbs ds then failure else perform (execApart ds n) n x op

/-- **A run goes alongside another** on a host on which some jobs are ahead: both come to their end or
both do not, with results as `R` says, and the jobs stay ahead. -/
def Alongside (cut : Prop) (p : List Job) {α β : Type} (R : α → β → Prop) (x : Run α) (x' : Run β) :
    Prop :=
  ∀ h h', Ahead p h h' → cut ∧ (x.run h).1 = none ∨
    Option.Rel R (x.run h).1 (x'.run h').1 ∧ Ahead p (x.run h).2 (x'.run h').2

variable {α β γ δ : Type} {cut : Prop} {p : List Job} {R : α → β → Prop} {S : γ → δ → Prop}

/-! ## Rules -/

namespace Alongside

theorem pure {a : α} {b : β} (hr : R a b) : Alongside cut p R (pure a) (pure b) :=
  fun _ _ ha => .inr ⟨.some hr, ha⟩

theorem failure : Alongside cut p R failure failure := fun _ _ ha => .inr ⟨.none, ha⟩

/-- What comes to an end does so where jobs are ahead as well. -/
theorem run {x x' : Run α} {h h' h₁ : Host} {a : α} (hx : Alongside cut p Eq x x') (ha : Ahead p h h')
    (hr : x.run h = (some a, h₁)) : ∃ h₁', x'.run h' = (some a, h₁') ∧ Ahead p h₁ h₁' := by
  have hx := hx h h' ha
  rw [hr] at hx
  obtain ⟨he, ha'⟩ := hx.resolve_left fun hn => nomatch hn.2
  generalize x'.run h' = r at he ha'
  obtain ⟨b, h₁'⟩ := r
  dsimp only at he ha'
  cases he with
  | some he => exact ⟨h₁', by rw [he], ha'⟩

theorem of_cut (hc : cut) (x' : Run β) : Alongside cut p R Alternative.failure x' :=
  fun _ _ _ => .inl ⟨hc, rfl⟩

theorem bind {x : Run α} {x' : Run β} {f : α → Run γ} {f' : β → Run δ}
    (hx : Alongside cut p R x x') (hf : ∀ a b, R a b → Alongside cut p S (f a) (f' b)) :
    Alongside cut p S (x >>= f) (x' >>= f') := by
  intro h h' ha
  have hx := hx h h' ha
  rw [run_bind, run_bind]
  generalize x.run h = r at hx
  generalize x'.run h' = r' at hx
  obtain ⟨a, h₁⟩ := r
  obtain ⟨b, h₁'⟩ := r'
  rcases hx with ⟨hc, hn⟩ | ⟨hr, ha'⟩
  · obtain rfl : a = none := hn
    exact .inl ⟨hc, rfl⟩
  · dsimp only at hr ha'
    cases hr with
    | none => exact .inr ⟨.none, ha'⟩
    | some hr => exact hf _ _ hr h₁ h₁' ha'

theorem map {x : Run α} {x' : Run β} {f : α → γ} {f' : β → δ} (hx : Alongside cut p R x x')
    (hf : ∀ a b, R a b → S (f a) (f' b)) : Alongside cut p S (f <$> x) (f' <$> x') := by
  rw [← bind_pure_comp, ← bind_pure_comp]
  exact hx.bind fun a b hr => .pure (hf a b hr)

theorem lift {x : Act α} (hx : Heedless p x) :
    Alongside cut p Eq (liftM x : Run α) (liftM x : Run α) := by
  intro h h' ha
  obtain ⟨he, ha'⟩ := hx h h' ha
  exact .inr ⟨.some he.symm, ha'⟩

theorem act {x : Act α} {f : α → Run γ} {f' : α → Run δ} (hx : Heedless p x)
    (hf : ∀ a, Alongside cut p S (f a) (f' a)) :
    Alongside cut p S (liftM x >>= f) (liftM x >>= f') :=
  (lift hx).bind fun a _ hr => hr ▸ hf a

theorem change {g : Host → Host} {f : PUnit → Run γ} {f' : PUnit → Run δ}
    (hg : Heedless p (modify g : Act PUnit)) (hf : Alongside cut p S (f ⟨⟩) (f' ⟨⟩)) :
    Alongside cut p S (modify g >>= f) (modify g >>= f') :=
  act (x := (modify g : Act PUnit)) hg fun _ => hf

theorem get_of {f : Host → Run γ} {f' : Host → Run δ} (hf : ∀ h h', Ahead p h h' → f' h' = f' h)
    (hh : ∀ h, Alongside cut p S (f h) (f' h)) : Alongside cut p S (get >>= f) (get >>= f') := by
  intro h h' ha
  rw [run_get, run_get, hf h h' ha]
  exact hh h h h' ha

theorem get {f : Host → Run γ} {f' : Host → Run δ}
    (hf : ∀ h qs j, f' { h with queues := qs, journal := j } = f' h)
    (hh : ∀ h, Alongside cut p S (f h) (f' h)) : Alongside cut p S (get >>= f) (get >>= f') :=
  get_of (fun _ _ ha => ha.eq hf) hh

theorem forM {l : List α} {f f' : α → Run Unit} (hf : ∀ a, Alongside cut p Eq (f a) (f' a)) :
    Alongside cut p Eq (l.forM f) (l.forM f') := by
  induction l with
  | nil => exact .pure rfl
  | cons a l ih => exact (hf a).bind fun _ _ _ => ih

/-! ### Replies -/

theorem view_of {f : Host → Reply} (hf : ∀ h h', Ahead p h h' → f h' = f h) :
    Alongside cut p Eq (Bind.bind MonadState.get fun h => Pure.pure (f h) : Run Reply)
      (Bind.bind MonadState.get fun h => Pure.pure (f h) : Run Reply) :=
  get_of (fun _ _ ha => by rw [hf _ _ ha]) fun _ => pure rfl

theorem view {f : Host → Reply} (hf : ∀ h qs j, f { h with queues := qs, journal := j } = f h) :
    Alongside cut p Eq (Bind.bind MonadState.get fun h => Pure.pure (f h) : Run Reply)
      (Bind.bind MonadState.get fun h => Pure.pure (f h) : Run Reply) :=
  view_of fun _ _ ha => ha.eq hf

theorem reply {x : Act α} (f : α → Reply) (hx : Heedless p x) :
    Alongside cut p Eq (liftM x >>= fun r => Pure.pure (f r) : Run Reply)
      (liftM x >>= fun r => Pure.pure (f r) : Run Reply) :=
  act hx fun _ => pure rfl

end Alongside

/-! ## Receiving -/

theorem heedless_lent (f : List DeviceId → List DeviceId) :
    Heedless p (modify fun h => { h with lent := f h.lent } : Act PUnit) :=
  .modify (fun _ _ _ => rfl) (fun _ => rfl) fun _ _ _ => id

theorem alongside_lend {d : DeviceId} {x x' : Run Unit} (hx : Alongside cut p Eq x x') :
    Alongside cut p Eq (lend d x) (lend d x') := by
  refine .change (heedless_lent (d :: ·)) (hx.bind fun _ _ _ => ?_)
  exact .change (heedless_lent List.tail) (.pure rfl)

theorem alongside_received {d : DeviceId} {x x' : Run Unit} (hx : Alongside cut p Eq x x') :
    Alongside cut p Eq (lend d x >>= fun _ => pure Reply.done)
      (lend d x' >>= fun _ => pure Reply.done) :=
  (alongside_lend hx).bind fun _ _ _ => .pure rfl

section Application

variable {app app' : Application} (ha : ∀ k, Alongside cut p Eq (app k) (app' k))

include ha

theorem alongside_receiveDatagram (d : DeviceId) (b : Bytes) (src : Ip) :
    Alongside cut p Eq (receiveDatagram app d b src) (receiveDatagram app' d b src) := by
  unfold receiveDatagram
  split
  · exact .lift (heedless_note _)
  · refine .get (fun _ _ _ => rfl) fun h => ?_
    dsimp only
    split
    · exact .lift (heedless_note _)
    · exact .forM fun u => ha _

omit ha in
theorem alongside_reset (d : DeviceId) (s : Stream) (seg : Tcp.Segment) :
    Alongside cut p Eq (acceptStream.reset d s seg) (acceptStream.reset d s seg) :=
  .act (heedless_note _) fun _ => .lift (heedless_answer _ _ _ _)

theorem alongside_acceptStream (d : DeviceId) (s : Stream) (seg : Tcp.Segment) :
    Alongside cut p Eq (acceptStream app d s seg) (acceptStream app' d s seg) := by
  refine .get (fun _ _ _ => rfl) fun h => ?_
  split
  · split_ifs
    · exact alongside_reset d s seg
    · refine (ha _).bind fun _ _ _ => .get (fun _ _ _ => rfl) fun h => ?_
      dsimp only
      exact .act (heedless_openStream s d _ _ _) fun c => .lift (heedless_answerOn c _)
  · exact alongside_reset d s seg

theorem alongside_receiveOn (c : ConnId) (seg : Tcp.Segment) :
    Alongside cut p Eq (receiveOn app c seg) (receiveOn app' c seg) := by
  have hf : ∀ fin, Alongside cut p Eq (do settle c (← steer c (·.finish fin)) : Run Unit)
      (do settle c (← steer c (·.finish fin)) : Run Unit) := fun fin =>
    .act (heedless_steer c _) fun o => .lift (heedless_settle c o)
  refine .act (heedless_steer c _) fun o => .act (heedless_settle c o) fun _ => ?_
  split
  · exact .pure rfl
  · split
    · exact hf _
    · exact .act (heedless_record _) fun _ => (ha _).bind fun _ _ _ => hf _

theorem alongside_receiveSegment (d : DeviceId) (b : Bytes) (src : Ip) :
    Alongside cut p Eq (receiveSegment app d b src) (receiveSegment app' d b src) := by
  unfold receiveSegment
  split
  · exact .lift (heedless_note _)
  · refine .get (fun _ _ _ => rfl) fun h => ?_
    refine .act (heedless_record _) fun _ => ?_
    split
    · exact alongside_receiveOn ha _ _
    · split_ifs
      · exact .pure rfl
      · exact alongside_acceptStream ha d _ _
      · exact .lift (heedless_note _)

theorem alongside_receivePacket (d : DeviceId) (b : Bytes) :
    Alongside cut p Eq (receivePacket app d b) (receivePacket app' d b) := by
  refine .act (heedless_register d) fun _ => ?_
  split
  · exact .lift (heedless_note _)
  · split_ifs
    · exact .lift (heedless_receiveIcmp d _ _)
    · exact .lift (heedless_note _)
    · exact alongside_receiveSegment ha d _ _
    · exact alongside_receiveDatagram ha d _ _
    · exact .lift (heedless_note _)

theorem alongside_receiveFrame (d : DeviceId) (b : Bytes) :
    Alongside cut p Eq (receiveFrame app d b) (receiveFrame app' d b) := by
  unfold receiveFrame
  split
  · exact .lift (heedless_note _)
  · split_ifs
    · exact alongside_receivePacket ha d _
    · exact .lift (heedless_receiveArp d _)
    · exact .lift (heedless_note _)
    · exact .lift (heedless_note _)

end Application

/-! ## Application code and deferred work -/

section Inner

variable {inner inner' : Exec} (hi : ∀ x op, Alongside cut p Eq (inner x op) (inner' x op))

include hi

theorem alongside_runScript (x : Context) (ops : List Op) :
    Alongside cut p Eq (runScript inner x ops) (runScript inner' x ops) :=
  .forM fun op => (hi x op).bind fun r _ hr => hr ▸ .lift (heedless_record (.answered r))

theorem alongside_answerCall (k : Call) :
    Alongside cut p Eq (answerCall inner k) (answerCall inner' k) := by
  cases k with
  | accept a s =>
    refine .get (fun _ _ _ => rfl) fun h => ?_
    dsimp only
    split
    · exact .pure rfl
    · exact .pure rfl
    · refine .change (.modify (fun _ _ _ => rfl) (fun _ => rfl) fun _ _ _ => id) ?_
      exact .act (heedless_record _) fun _ => alongside_runScript hi _ _
  | read c data =>
    refine .get (fun _ _ _ => rfl) fun h => ?_
    dsimp only
    split
    · exact .lift (heedless_echoStream _ data)
    · exact .lift (heedless_sendPage _)
    · refine .change (.modify (fun _ _ _ => rfl) (fun _ => rfl) fun _ _ _ => id) ?_
      exact .act (heedless_record _) fun _ => alongside_lend (alongside_runScript hi _ _)
  | notify u f data =>
    refine .get (fun _ _ _ => rfl) fun h => ?_
    dsimp only
    split
    · exact .lift (heedless_echoDatagram f data)
    · refine .change (.modify (fun _ _ _ => rfl) (fun _ => rfl) fun _ _ _ => id) ?_
      exact .act (heedless_record _) fun _ => alongside_runScript hi _ _

theorem alongside_runTask (t : TaskId) :
    Alongside cut p Eq (runTask inner t) (runTask inner' t) := by
  refine .act (heedless_modifyTask t _) fun _ => .get (fun _ _ _ => rfl) fun h => ?_
  dsimp only
  split
  · rename_i d _
    refine .get_of (fun h h' ha => by rw [ha.alive d]) fun h => ?_
    split
    · exact .lift (heedless_transmitNext d)
    · exact .lift (heedless_record _)
  · refine .act (heedless_modifyTask t _) fun _ => .act (heedless_record _) fun _ => ?_
    exact alongside_runScript hi _ _

theorem alongside_runJob (j : Job) : Alongside cut p Eq (runJob inner j) (runJob inner' j) := by
  cases j with
  | frame d b => exact alongside_lend (alongside_receiveFrame (alongside_answerCall hi) d b)
  | once id ops => exact .act (heedless_record _) fun _ => alongside_runScript hi _ _
  | task t => exact alongside_runTask hi t

/-- A queue where no jobs are ahead is run in the same way, however many jobs were run before. -/
theorem alongside_drain {q : QueueId} (hq : q ≠ 0 ∨ p = []) (l fuel n : Nat) :
    Alongside cut p (fun a b => b = a + l) (drain inner q fuel n) (drain inner' q fuel (n + l)) := by
  induction fuel generalizing n with
  | zero => exact .failure
  | succ fuel ih =>
    refine .act (heedless_next hq) fun j => ?_
    cases j with
    | none =>
      exact fun _ _ ha => .inr ⟨.some rfl, ha.record (.inr ⟨rfl, rfl⟩)⟩
    | some j =>
      refine (alongside_runJob hi j).bind fun _ _ _ => ?_
      rw [Nat.add_right_comm]
      exact ih (n + 1)

/-! ### Operations -/

/-- **An operation does the same** where some jobs are ahead, unless it disturbs them. -/
theorem alongside_perform {ds : List DeviceId} (hd : ∀ d, p.any (holds d) = true → d ∈ ds)
    (fuel : Nat) (x : Context) {op : Op} (ho : p = [] ∨ op.disturbs ds = false) :
    Alongside cut p Eq (perform inner fuel x op) (perform inner' fuel x op) := by
  have hc := alongside_answerCall hi
  cases op with
  | receive d b => exact alongside_received (alongside_receiveFrame hc d _)
  | defer d b => exact .reply (fun _ => .done) (heedless_put 0 _)
  | poll q =>
    have hq : q ≠ 0 ∨ p = [] := ho.symm.imp_left ne_of_beq_false
    exact (alongside_drain hi hq 0 fuel 0).map fun a b hr => congrArg Reply.count hr.symm
  | pending q =>
    have hq : q ≠ 0 ∨ p = [] := ho.symm.imp_left ne_of_beq_false
    exact .view_of fun h h' ha => by rw [ha.queue_eq hq]
  | register d => exact .reply (fun _ => .done) (heedless_register d)
  | ownerOf ip => exact .view fun _ _ _ => rfl
  | announce d => exact .reply _ (heedless_announce d)
  | advertise d => exact .reply _ (heedless_advertise d)
  | lookup d ip => exact .reply _ (heedless_lookup d ip)
  | store ip mac => exact .reply _ (heedless_store ip mac)
  | receiveArp d b => exact .reply (fun _ => .done) (heedless_receiveArp d _)
  | receivePacket d b => exact alongside_received (alongside_receivePacket hc d _)
  | receiveIcmp d b src => exact .reply (fun _ => .done) (heedless_receiveIcmp d _ src)
  | receiveSegment d b src => exact alongside_received (alongside_receiveSegment hc d _ src)
  | receiveDatagram d b src => exact alongside_received (alongside_receiveDatagram hc d _ src)
  | sendPacket d protocol dst room b =>
    refine .act (heedless_record _) fun _ => .act (heedless_sendPacket _ protocol dst d) fun _ => ?_
    exact .act (heedless_record _) fun _ => .pure rfl
  | sendFrame d type dst room b =>
    refine .act (heedless_record _) fun _ => .act (heedless_sendFrame _ type dst d) fun _ => ?_
    exact .act (heedless_record _) fun _ => .pure rfl
  | listen port accept read => exact .reply _ (heedless_listen port _)
  | send t b =>
    unfold perform
    dsimp only
    split
    · exact .reply _ (heedless_sendData _ _)
    · exact .pure rfl
  | close t =>
    unfold perform
    dsimp only
    split
    · exact .reply _ (heedless_close _)
    · exact .pure rfl
  | stateOf t => exact .view fun _ _ _ => rfl
  | subscribe port id notify => exact .reply (fun _ => .done) (heedless_subscribe port _)
  | sendDatagram f b =>
    unfold perform
    dsimp only
    split
    · exact .reply _ (heedless_sendDatagram _ _)
    · exact .pure rfl
  | serveEcho => exact .reply _ heedless_serveEcho
  | servePage => exact .reply _ heedless_servePage
  | summary =>
    have hn : p = [] := ho.resolve_right nofun
    refine .view_of fun h h' ha => congrArg Reply.text ?_
    unfold describe
    rw [ha.queue_eq (.inr hn), ha.same]
  | settings => exact .view fun _ _ _ => rfl
  | deviceState d => exact .get (fun _ _ _ => rfl) fun _ => .pure rfl
  | setFailure d r => exact .change (heedless_devices fun _ _ => id) (.pure rfl)
  | release d =>
    refine .change (heedless_devices fun hh => ?_) (.pure rfl)
    -- nobody needs the device that is let go of
    rcases ho with rfl | ho
    · cases hh
    · have hm : ds.contains d = true := List.contains_iff_mem.mpr (hd d hh)
      cases hm.symm.trans ho
  | spawn q id ops => exact .reply (fun _ => .done) (heedless_put q _)
  | define id runs => exact .reply (fun _ => .done) (heedless_defineTask id runs)
  | enqueue id q =>
    refine .get (fun _ _ _ => rfl) fun h => ?_
    dsimp only
    split
    · refine .act (heedless_enqueue q _) fun _ => ?_
      exact .view fun _ _ _ => rfl
    · exact .view fun _ _ _ => rfl
  | taskState id => exact .view fun _ _ _ => rfl

end Inner

/-! ## All depths -/

/-- **What leaves the host's own queue alone** does the same where jobs are ahead there. -/
theorem alongside_execApart {ds : List DeviceId} (hd : ∀ d, p.any (holds d) = true → d ∈ ds) (n : Nat)
    (x : Context) (op : Op) : Alongside True p Eq (execApart ds n x op) (exec n x op) := by
  induction n generalizing x op with
  | zero => exact .failure
  | succ n ih =>
    unfold execApart
    split_ifs with ho
    · exact .of_cut trivial _
    · exact alongside_perform ih hd n x (.inr (Bool.eq_false_iff.mpr ho))

theorem alongside_exec (n : Nat) (x : Context) (op : Op) :
    Alongside False [] Eq (exec n x op) (exec n x op) := by
  induction n generalizing x op with
  | zero => exact .failure
  | succ n ih =>
    have hd : ∀ d, ([] : List Job).any (holds d) = true → d ∈ ([] : List DeviceId) := nofun
    exact alongside_perform ih hd n x (.inl rfl)

end Host

end InetHost
