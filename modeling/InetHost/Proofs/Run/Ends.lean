import InetHost.Proofs.Run.Leads

/-!
# Code that comes to its end

Some application code only talks: it sends, closes and asks, and does nothing that calls application code
again. Such code comes to its end.

* `Ends R h x`: code run at `h` comes to its end, at a host that `R` relates to `h`;
* `Op.talks`, `Talks`: the operations of such code, and a connection that has such code for what it reads;
* `Converses R`: what has to be shown of a relation between hosts for it to hold of such code, namely that
  it holds of chores, of the events around the code, and of sending and closing;
* **`Converses.read`**: it does hold of the code then, and the code comes to its end.
-/

namespace InetHost

/-- An operation that sends, closes or asks. -/
def Op.talks : Op → Bool
  | .send _ _ | .close _ | .sendDatagram _ _ | .stateOf _ | .pending _ | .ownerOf _ | .lookup _ _
  | .summary | .settings | .deviceState _ | .taskState _ => true
  | _ => false

/-- The application code for what a connection reads next; none for a service of the host's own. -/
def Connection.code (k : Connection) : List Op :=
  match k.service with
  | .echo | .page => []
  | .script _ read => Script.entry read k.reads

namespace Host

variable {α β : Type} {R : Host → Host → Prop} {h h' : Host}

/-- Code run at `h` comes to its end, at a host that `R` relates to `h`. -/
def Ends (R : Host → Host → Prop) (h : Host) (x : Run α) : Prop :=
  ∃ a h', x.run h = (some a, h') ∧ R h h'

theorem Ends.lift {x : Act α} (hx : Does R h x) : Ends R h (liftM x : Run α) :=
  ⟨_, _, run_lift x h, hx⟩

theorem Ends.get {f : Host → Run β} (hf : Ends R h (f h)) : Ends R h (get >>= f) := hf

theorem Ends.pure [Std.Refl R] (a : α) : Ends R h (pure a) := ⟨a, h, rfl, Std.Refl.refl h⟩

section Trans

variable [IsTrans Host R]

theorem Ends.bind {x : Run α} {f : α → Run β} (hx : Ends R h x)
    (hf : ∀ a h', x.run h = (some a, h') → Ends R h' (f a)) : Ends R h (x >>= f) := by
  obtain ⟨a, h₁, hr, h₁₂⟩ := hx
  obtain ⟨b, h₂, hr', h₂₃⟩ := hf a h₁ hr
  refine ⟨b, h₂, ?_, IsTrans.trans _ _ _ h₁₂ h₂₃⟩
  rw [run_bind, hr]
  exact hr'

theorem Ends.act {x : Act α} {f : α → Run β} (hx : Does R h x)
    (hf : Ends R (x.run h).2 (f (x.run h).1)) : Ends R h (liftM x >>= f) := by
  obtain ⟨b, h₂, hr, h₂₃⟩ := hf
  exact ⟨b, h₂, hr, IsTrans.trans _ _ _ hx h₂₃⟩

theorem Ends.forM [Std.Refl R] {l : List α} {f : α → Run Unit}
    (hf : ∀ a ∈ l, ∀ h, Ends R h (f a)) : Ends R h (l.forM f) := by
  induction l generalizing h with
  | nil => exact .pure ()
  | cons a l ih =>
    refine (hf a List.mem_cons_self h).bind fun _ h' _ => ?_
    exact ih fun b hb => hf b (List.mem_cons_of_mem a hb)

end Trans

/-! ## Talk -/

/-- What a connection reads is answered with talk. -/
def Talks (h : Host) (c : ConnId) : Prop := ∀ op ∈ (h.connection c).code, op.talks = true

/-- A relation that holds of everything a host does in answer to talk. -/
structure Converses (R : Host → Host → Prop) : Prop where
  refl : ∀ h, R h h
  trans : ∀ {h h₁ h₂}, R h h₁ → R h₁ h₂ → R h h₂
  chore : ∀ {h h'}, Chore (fun _ _ _ => False) h h' → R h h'
  call : ∀ {e : Event} (h : Host), e.isCall = true → Does R h (record e)
  send : ∀ s b h, Does R h (sendData s b)
  close : ∀ s h, Does R h (close s)

namespace Converses

variable (hR : Converses R)

include hR

theorem chores (hc : Chores (fun _ _ _ => False) h h') : R h h' := by
  induction hc with
  | refl => exact hR.refl h
  | tail _ hc ih => exact hR.trans ih (hR.chore hc)

theorem perform {op : Op} (ht : op.talks = true) (inner : Exec) (fuel : Nat) (x : Context) (h : Host) :
    Ends R h (perform inner fuel x op) := by
  have : IsTrans Host R := ⟨fun _ _ _ => hR.trans⟩
  have : Std.Refl R := ⟨hR.refl⟩
  unfold Host.perform
  cases op with
  | send t b =>
    dsimp only
    split
    · exact Ends.act (hR.send _ _ h) (.pure _)
    · exact .pure _
  | close t =>
    dsimp only
    split
    · exact Ends.act (hR.close _ h) (.pure _)
    · exact .pure _
  | sendDatagram f b =>
    dsimp only
    split
    · exact Ends.act (hR.chores (chores_sendDatagram _ _)) (.pure _)
    · exact .pure _
  | lookup d ip => exact Ends.act (hR.chores (chores_lookup d ip)) (.pure _)
  | stateOf | pending | ownerOf | summary | settings | deviceState | taskState =>
    exact .get (.pure _)
  | _ => cases ht

theorem runScript {ops : List Op} (ht : ∀ op ∈ ops, op.talks = true) (n : Nat) (x : Context)
    (h : Host) : Ends R h (runScript (exec (n + 1)) x ops) := by
  have : IsTrans Host R := ⟨fun _ _ _ => hR.trans⟩
  have : Std.Refl R := ⟨hR.refl⟩
  refine Ends.forM fun op hm h => ?_
  exact (hR.perform (ht op hm) (exec n) n x h).bind fun _ h' _ => Ends.lift (hR.call h' rfl)

theorem lend {x : Run Unit} (hx : ∀ h, Ends R h x) (d : DeviceId) (h : Host) :
    Ends R h (lend d x) := by
  have : IsTrans Host R := ⟨fun _ _ _ => hR.trans⟩
  refine Ends.act (x := modify _) (hR.chore (.lend _)) ((hx _).bind fun _ h' _ => ?_)
  exact Ends.lift (x := modify _) (hR.chore (.lend h'.lent.tail))

/-- **What a connection reads is answered with talk**, which comes to its end. -/
theorem read {c : ConnId} (ht : Talks h c) (n : Nat) (data : Bytes) :
    Ends R h (answerCall (exec (n + 1)) (.read c data)) := by
  have : IsTrans Host R := ⟨fun _ _ _ => hR.trans⟩
  have : Std.Refl R := ⟨hR.refl⟩
  change Ends R h (runRead (exec (n + 1)) c data)
  unfold runRead
  refine .get ?_
  dsimp only
  split
  · exact Ends.lift (Does.bind (hR.send _ data h)
      (hR.chores (chores_report _ (.streamEchoFailed (h.connection c).stream.peer))))
  · exact Ends.lift (Does.bind (hR.send _ page h)
      (hR.chores (chores_report _ (.pageFailed (h.connection c).stream.peer))))
  · rename_i accept read hs
    have hc : (h.connection c).code = Script.entry read (h.connection c).reads := by
      unfold Connection.code
      rw [hs]
    refine Ends.act (x := modify _) (hR.chore (.countRead c _)) (Ends.act (hR.call _ rfl) ?_)
    exact hR.lend (hR.runScript (hc ▸ ht) n _) _ _

end Converses

end Host

end InetHost
