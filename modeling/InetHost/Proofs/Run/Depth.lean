import InetHost.Proofs.Run.Leads

/-!
# Runs at different depths

Application code runs inside application code, down to a depth; a run that gets that far comes to no end.
A run that does come to its end comes to the same end where more is allowed.

* `Below x x'`: where `x` comes to its end, `x'` comes to the same;
* `below_receiveFrame`, `below_drain`, …: so it is for what calls the application, if it is for the calls;
* **`exec_mono`**: so it is for operations at greater depths; `exec_agrees`;
* `LeadsBy p`: what a host can come to when it is used as `p` allows; `LeadsBy.leads`,
  `leadsBy_after?`.
-/

namespace InetHost.Host

variable {α β : Type} {h h' : Host}

/-- **Where `x` comes to its end, `x'` comes to the same end.** -/
def Below (x x' : Run α) : Prop := ∀ h a h', x.run h = (some a, h') → x'.run h = (some a, h')

namespace Below

theorem refl (x : Run α) : Below x x := fun _ _ _ hr => hr

theorem failure (x : Run α) : Below failure x := fun _ _ _ hr => nomatch hr

theorem bind {x x' : Run α} {f f' : α → Run β} (hx : Below x x') (hf : ∀ a, Below (f a) (f' a)) :
    Below (x >>= f) (x' >>= f') := by
  intro h b h' hr
  rw [run_bind] at hr ⊢
  cases hx₁ : x.run h with
  | mk r h₁ =>
    rw [hx₁] at hr
    cases r with
    | none => cases hr
    | some a =>
      rw [hx h a h₁ hx₁]
      exact hf a h₁ b h' hr

theorem next {x : Run α} {f f' : α → Run β} (hf : ∀ a, Below (f a) (f' a)) :
    Below (x >>= f) (x >>= f') :=
  (refl x).bind hf

theorem map {x x' : Run α} (hx : Below x x') (f : α → β) : Below (f <$> x) (f <$> x') := by
  rw [← bind_pure_comp, ← bind_pure_comp]
  exact hx.bind fun _ => refl _

theorem forM {l : List α} {f f' : α → Run Unit} (hf : ∀ a, Below (f a) (f' a)) :
    Below (l.forM f) (l.forM f') := by
  induction l with
  | nil => exact refl _
  | cons a l ih => exact (hf a).bind fun _ => ih

end Below

/-! ## Receiving -/

theorem below_lend {d : DeviceId} {x x' : Run Unit} (hx : Below x x') : Below (lend d x) (lend d x') :=
  .next fun _ => hx.bind fun _ => .refl _

section Application

variable {app app' : Application} (ha : ∀ k, Below (app k) (app' k))

include ha

theorem below_receiveDatagram (d : DeviceId) (b : Bytes) (src : Ip) :
    Below (receiveDatagram app d b src) (receiveDatagram app' d b src) := by
  unfold receiveDatagram
  split
  · exact .refl _
  · refine .next fun h => ?_
    dsimp only
    split
    · exact .refl _
    · exact .forM fun u => ha _

theorem below_acceptStream (d : DeviceId) (s : Stream) (seg : Tcp.Segment) :
    Below (acceptStream app d s seg) (acceptStream app' d s seg) := by
  refine .next fun h => ?_
  split
  · split_ifs
    · exact .refl _
    · exact (ha _).bind fun _ => .refl _
  · exact .refl _

theorem below_receiveOn (c : ConnId) (seg : Tcp.Segment) :
    Below (receiveOn app c seg) (receiveOn app' c seg) := by
  refine .next fun o => .next fun _ => ?_
  split
  · exact .refl _
  · split
    · exact .refl _
    · exact .next fun _ => (ha _).bind fun _ => .refl _

theorem below_receiveSegment (d : DeviceId) (b : Bytes) (src : Ip) :
    Below (receiveSegment app d b src) (receiveSegment app' d b src) := by
  unfold receiveSegment
  split
  · exact .refl _
  · refine .next fun h => .next fun _ => ?_
    split
    · exact below_receiveOn ha _ _
    · split_ifs
      · exact .refl _
      · exact below_acceptStream ha d _ _
      · exact .refl _

theorem below_receivePacket (d : DeviceId) (b : Bytes) :
    Below (receivePacket app d b) (receivePacket app' d b) := by
  refine .next fun _ => ?_
  split
  · exact .refl _
  · split_ifs
    · exact .refl _
    · exact .refl _
    · exact below_receiveSegment ha d _ _
    · exact below_receiveDatagram ha d _ _
    · exact .refl _

theorem below_receiveFrame (d : DeviceId) (b : Bytes) :
    Below (receiveFrame app d b) (receiveFrame app' d b) := by
  unfold receiveFrame
  split
  · exact .refl _
  · split_ifs
    · exact below_receivePacket ha d _
    · exact .refl _
    · exact .refl _
    · exact .refl _

end Application

/-! ## Application code and deferred work -/

section Inner

variable {inner inner' : Exec} (hi : ∀ x op, Below (inner x op) (inner' x op))

include hi

theorem below_runScript (x : Context) (ops : List Op) :
    Below (runScript inner x ops) (runScript inner' x ops) :=
  .forM fun op => (hi x op).bind fun _ => .refl _

theorem below_answerCall (k : Call) : Below (answerCall inner k) (answerCall inner' k) := by
  cases k with
  | accept a s =>
    refine .next fun h => ?_
    dsimp only
    split
    · exact .refl _
    · exact .refl _
    · exact .next fun _ => .next fun _ => below_runScript hi _ _
  | read c data =>
    refine .next fun h => ?_
    dsimp only
    split
    · exact .refl _
    · exact .refl _
    · exact .next fun _ => .next fun _ => below_lend (below_runScript hi _ _)
  | notify u f data =>
    refine .next fun h => ?_
    dsimp only
    split
    · exact .refl _
    · exact .next fun _ => .next fun _ => below_runScript hi _ _

theorem below_runTask (t : TaskId) : Below (runTask inner t) (runTask inner' t) := by
  refine .next fun _ => .next fun h => ?_
  dsimp only
  split
  · exact .refl _
  · exact .next fun _ => .next fun _ => below_runScript hi _ _

theorem below_runJob (j : Job) : Below (runJob inner j) (runJob inner' j) := by
  cases j with
  | frame d b => exact below_lend (below_receiveFrame (below_answerCall hi) d b)
  | once id ops => exact .next fun _ => below_runScript hi _ _
  | task t => exact below_runTask hi t

variable {fuel fuel' : Nat} (hf : fuel ≤ fuel')

include hf

theorem below_drain (q : QueueId) (n : Nat) :
    Below (drain inner q fuel n) (drain inner' q fuel' n) := by
  induction fuel generalizing fuel' n with
  | zero => exact .failure _
  | succ fuel ih =>
    obtain ⟨fuel', rfl⟩ := Nat.exists_eq_add_of_le' (Nat.lt_of_lt_of_le (Nat.succ_pos fuel) hf)
    refine .next fun j => ?_
    cases j with
    | none => exact .refl _
    | some j => exact (below_runJob hi j).bind fun _ => ih (by omega) (n + 1)

/-- **An operation comes to the same end** where the operations inside it do. -/
theorem below_perform (x : Context) (op : Op) :
    Below (perform inner fuel x op) (perform inner' fuel' x op) := by
  have hc := below_answerCall hi
  have hl {d : DeviceId} {y y' : Run Unit} (hy : Below y y') :
      Below (lend d y >>= fun _ => pure Reply.done) (lend d y' >>= fun _ => pure Reply.done) :=
    (below_lend hy).bind fun _ => .refl _
  cases op with
  | receive d b => exact hl (below_receiveFrame hc d _)
  | poll q => exact (below_drain hi hf q 0).map _
  | receivePacket d b => exact hl (below_receivePacket hc d _)
  | receiveSegment d b src => exact hl (below_receiveSegment hc d _ src)
  | receiveDatagram d b src => exact hl (below_receiveDatagram hc d _ src)
  | _ => exact .refl _

end Inner

/-! ## Depths -/

/-- **What comes to its end at a depth comes to the same end at every greater one.** -/
theorem exec_mono {n m : Nat} (hn : n ≤ m) (x : Context) (op : Op) :
    Below (exec n x op) (exec m x op) := by
  induction n generalizing m x op with
  | zero => exact .failure _
  | succ n ih =>
    obtain ⟨m, rfl⟩ := Nat.exists_eq_add_of_le' (Nat.lt_of_lt_of_le (Nat.succ_pos n) hn)
    have hm : n ≤ m := by omega
    exact below_perform (fun x op => ih hm x op) hm x op

/-- An operation that comes to its end has the same answer at all depths. -/
theorem exec_agrees {n m : Nat} {x : Context} {op : Op} {r r' : Reply}
    (hn : ((exec n x op).run h).1 = some r) (hm : ((exec m x op).run h).1 = some r') : r = r' := by
  rcases Nat.le_total n m with hl | hl
  · have he := exec_mono hl x op h r _ (Prod.ext hn rfl)
    rw [he] at hm
    exact Option.some.inj hm
  · have he := exec_mono hl x op h r' _ (Prod.ext hm rfl)
    rw [he] at hn
    exact (Option.some.inj hn).symm

/-! ## Operations that are allowed -/

variable {p : Context → Op → Prop}

/-- **A host at `h` may come to `h'` when it is used as `p` allows**: all operations from outside and all
that application code asks for are allowed. -/
inductive LeadsBy (p : Context → Op → Prop) : Bool → Host → Host → Prop
  | refl (h : Host) : LeadsBy p true h h
  | cut (h : Host) : LeadsBy p false h h
  | trans {e : Bool} {h h₁ h₂ : Host} (h₁₂ : LeadsBy p true h h₁) (h₂₃ : LeadsBy p e h₁ h₂) :
    LeadsBy p e h h₂
  | hardware (d : DeviceId) (l : List (Option Refusal)) (h : Host) :
    LeadsBy p true h { h with devices := h.devices.modify d ({ · with outcomes := l }) }
  | perform (inner : Exec) (fuel : Nat) (x : Context) (op : Op) (h : Host) (hp : p x op)
    (hi : ∀ x op h, LeadsBy p ((inner x op).run h).1.isSome h ((inner x op).run h).2) :
    LeadsBy p ((perform inner fuel x op).run h).1.isSome h ((perform inner fuel x op).run h).2

theorem LeadsBy.leads {e : Bool} (hl : LeadsBy p e h h') : Leads e h h' := by
  induction hl with
  | refl h => exact .refl h
  | cut h => exact .cut h
  | trans _ _ h₁₂ h₂₃ => exact .trans h₁₂ h₂₃
  | hardware d l h => exact .hardware d l h
  | perform inner fuel x op h _ _ ih => exact .perform inner fuel x op h ih

/-- Where application code asks for nothing, only the operations from outside have to be allowed. -/
theorem leadsBy_after? {ops : List Op} (hp : ∀ op ∈ ops, p {} op) (ha : after? 1 ops h = some h') :
    LeadsBy p true h h' := by
  induction ops generalizing h with
  | nil =>
    obtain rfl := Option.some.inj ha
    exact .refl h
  | cons op ops ih =>
    have hl : LeadsBy p ((exec 1 {} op).run h).1.isSome h ((exec 1 {} op).run h).2 :=
      .perform (exec 0) 0 {} op h (hp op List.mem_cons_self) fun _ _ h => .cut h
    unfold after? at ha
    cases hr : (exec 1 {} op).run h with
    | mk r h₁ =>
      rw [hr] at hl ha
      cases r with
      | none => cases ha
      | some _ => exact .trans hl (ih (fun op ho => hp op (List.mem_cons_of_mem _ ho)) ha)

end InetHost.Host
