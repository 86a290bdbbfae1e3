import InetHost.Proofs.Queue.Tasks
import Mathlib.Algebra.GroupWithZero.Nat

/-!
# Polls

Jobs are started by polls, and a job may poll a queue itself, even the one that it was taken from. The
journal tells when a poll ends and what it returns; a poll that has begun and not ended is in progress.

* `Polls going j`: the events of `j` are those of nested polls, and `going` are in progress after them;
* **`Polls.length_startedOn`**: every job of a queue was started by one poll;
* **`nested_leads`**: whatever happens, polls nest, and those that have begun within a run that came to
  its end have come to theirs;
* `drain_ends`, `perform_poll`: a poll that ends has found its queue empty and returns how many jobs it
  has run.
-/

namespace InetHost

/-! ## The polls of a journal -/

/-- A poll in progress. -/
structure Poll where
  queue : QueueId
  /-- The number of jobs that it has started. -/
  started : Nat
  deriving DecidableEq, Repr

/-- A job was started, or a poll ended. -/
def Event.isPoll : Event → Bool
  | .started _ _ | .drained _ _ => true
  | _ => false

/-- **The polls that are in progress after the events of a journal**, the innermost first. Only that one
starts jobs; when it ends it returns their number. -/
inductive Polls : List Poll → List Event → Prop
  | nil : Polls [] []
  | begin {going : List Poll} {j : List Event} (q : QueueId) (h : Polls going j) :
    Polls (⟨q, 0⟩ :: going) j
  | start {going : List Poll} {j : List Event} {q : QueueId} {n : Nat} (i : Job)
    (h : Polls (⟨q, n⟩ :: going) j) : Polls (⟨q, n + 1⟩ :: going) (.started q i :: j)
  | finish {going : List Poll} {j : List Event} {q : QueueId} {n : Nat}
    (h : Polls (⟨q, n⟩ :: going) j) : Polls going (.drained q n :: j)
  | other {going : List Poll} {j : List Event} {e : Event} (he : e.isPoll = false)
    (h : Polls going j) : Polls going (e :: j)

/-- The number that a poll of the queue returned. -/
def Event.returnedOn (q : QueueId) : Event → Nat
  | .drained p n => if p = q then n else 0
  | _ => 0

/-- What the polls of a queue returned, all together. -/
def returnedOn (q : QueueId) (j : List Event) : Nat := (j.map (Event.returnedOn q)).sum

/-- The number of jobs that polls in progress have started from a queue. -/
def goingOn (q : QueueId) (going : List Poll) : Nat :=
  (going.map fun p => if p.queue = q then p.started else 0).sum

theorem returnedOn_cons (q : QueueId) (e : Event) (j : List Event) :
    returnedOn q (e :: j) = e.returnedOn q + returnedOn q j := by
  simp [returnedOn]

theorem goingOn_cons (q : QueueId) (p : Poll) (going : List Poll) :
    goingOn q (p :: going) = (if p.queue = q then p.started else 0) + goingOn q going := by
  simp [goingOn]

theorem startedOn_other {e : Event} (he : e.isPoll = false) (q : QueueId) (j : List Event) :
    startedOn q (e :: j) = startedOn q j := by
  cases e <;> first | rfl | cases he

/-- **Every job of a queue was started by one poll**, which has returned or is in progress. -/
theorem Polls.length_startedOn {going : List Poll} {j : List Event} (h : Polls going j)
    (q : QueueId) : (startedOn q j).length = returnedOn q j + goingOn q going := by
  induction h with
  | nil => rfl
  | begin p h ih =>
    rw [ih, goingOn_cons]
    simp
  | @start going j p n i h ih =>
    rw [goingOn_cons] at ih ⊢
    rw [startedOn_started, List.length_append, ih, returnedOn_cons]
    by_cases hp : p = q <;> simp [hp, Event.returnedOn]
    omega
  | @finish going j p n h ih =>
    rw [goingOn_cons] at ih
    rw [returnedOn_cons]
    change (startedOn q j).length = (if p = q then n else 0) + _ + _
    rw [ih]
    dsimp only
    omega
  | @other going j e he h ih =>
    have hr : e.returnedOn q = 0 := by cases e <;> first | rfl | cases he
    rw [startedOn_other he, returnedOn_cons, hr, ih, Nat.zero_add]

theorem Polls.append {going : List Poll} {new j : List Event} (h : Polls going j)
    (hn : ∀ e ∈ new, e.isPoll = false) : Polls going (new ++ j) := by
  induction new with
  | nil => exact h
  | cons e new ih =>
    refine .other (hn e List.mem_cons_self) (ih ?_)
    intro e he
    exact hn e (List.mem_cons_of_mem _ he)

namespace Host

variable {α : Type} {h h' : Host} {q : QueueId}

/-! ## Where no queue is polled -/

/-- **No job was started, and no poll ended.** -/
def StartsNoJob (h h' : Host) : Prop :=
  ∃ new, h'.journal = new ++ h.journal ∧ ∀ e ∈ new, e.isPoll = false

instance : Std.Refl StartsNoJob := ⟨fun _ => ⟨[], rfl, List.forall_mem_nil _⟩⟩

instance : IsTrans Host StartsNoJob where
  trans _ _ _ := extends_trans

theorem KeepsQueues.startsNoJob (i : KeepsQueues h h') : StartsNoJob h h' := by
  obtain ⟨new, he, hn⟩ := i.journal
  refine ⟨new, he, fun e h => ?_⟩
  have := hn e h
  cases e <;> first | rfl | cases this

theorem startsNoJob_record {e : Event} (he : e.isPoll = false) : Does StartsNoJob h (record e) :=
  ⟨[e], rfl, fun _ hx => List.mem_singleton.mp hx ▸ he⟩

theorem startsNoJob_of_eq (hj : h'.journal = h.journal) : StartsNoJob h h' :=
  ⟨[], hj, List.forall_mem_nil _⟩

theorem Handling.startsNoJob (hh : Handling h h') : StartsNoJob h h' := by
  cases hh with
  | record e he => exact startsNoJob_record (by cases e <;> first | rfl | cases he)
  | put q j => exact startsNoJob_record rfl
  | flag | staged | hardware => exact startsNoJob_of_eq rfl

theorem startsNoJob_handlings (hh : Handlings h h') : StartsNoJob h h' := of_handlings Handling.startsNoJob hh

theorem Move.startsNoJob (hm : Move h h') : StartsNoJob h h' := by
  cases hm with
  | keepsQueues i => exact i.startsNoJob
  | offer d f => exact startsNoJob_handlings (handlings_offer d f)
  | put q j => exact Handling.startsNoJob (.put q j)
  | enqueue q t => exact startsNoJob_handlings (handlings_enqueue q t)
  | define id runs => exact startsNoJob_of_eq rfl

/-! ## Every run -/

/-- **Polls nest**: those in progress go on, and those that have begun have ended if the run has. -/
def Nested (e : Bool) (h h' : Host) : Prop :=
  ∀ going, Polls going h.journal →
    ∃ more, Polls (more ++ going) h'.journal ∧ (e = true → more = [])

theorem composes_nested : Composes Nested where
  refl _ going hg := ⟨[], hg, fun _ => rfl⟩
  cut _ going hg := ⟨[], hg, fun _ => rfl⟩
  trans := by
    intro e h h₁ h₂ n₁ n₂ going hg
    obtain ⟨more, hm, he⟩ := n₁ going hg
    obtain rfl := he rfl
    exact n₂ going hm

theorem nested_of_startsNoJob {x : Act α} (hx : Does StartsNoJob h x) : Does (Nested true) h x := by
  intro going hg
  obtain ⟨new, he, hn⟩ := hx
  exact ⟨[], he ▸ hg.append hn, fun _ => rfl⟩

theorem serves_nested : Serves Nested :=
  serves_of_deed composes_nested fun hd => by
    intro going hg
    obtain ⟨new, he, hn⟩ := (move_of_deed hd).startsNoJob
    exact ⟨[], he ▸ hg.append hn, fun _ => rfl⟩

section Inner

variable {inner : Exec} (hi : ∀ x op h, Within Nested h (inner x op))

include hi

theorem nested_runJob (j : Job) (h : Host) : Within Nested h (runJob inner j) := by
  cases j with
  | frame d b => exact serves_nested.runJob hi (j := .frame d b) nofun h
  | once id ops => exact serves_nested.runJob hi (j := .once id ops) nofun h
  | task t =>
    refine Within.act composes_nested (nested_of_startsNoJob (startsNoJob_of_eq rfl)) (Within.get ?_)
    dsimp only
    split
    · refine Within.get ?_
      split
      · exact nested_of_startsNoJob (startsNoJob_handlings (handlings_transmitNext _))
      · exact nested_of_startsNoJob (startsNoJob_record rfl)
    · exact serves_nested.runCode hi t _ _ _ _

/-- A poll that has started `n` jobs is in progress, and ends if it returns. -/
theorem polls_drain (q : QueueId) (fuel n : Nat) (h : Host) {going : List Poll}
    (hg : Polls (⟨q, n⟩ :: going) h.journal) :
    ∃ more, Polls (more ++ going) ((drain inner q fuel n).run h).2.journal ∧
      (((drain inner q fuel n).run h).1.isSome = true → more = []) := by
  induction fuel generalizing n h with
  | zero => exact ⟨[⟨q, n⟩], hg, nofun⟩
  | succ fuel ih =>
    cases hq : h.queue q with
    | nil =>
      rw [run_drain_empty hq]
      exact ⟨[], .finish hg, fun _ => rfl⟩
    | cons j rest =>
      obtain ⟨more, hm, he⟩ := nested_runJob hi j (h.taken q j rest) _ (.start j hg)
      rw [run_drain_next (run_next hq), run_bind]
      generalize (runJob inner j).run (h.taken q j rest) = r at hm he ⊢
      obtain ⟨a, h₁⟩ := r
      cases a with
      | none => exact ⟨more ++ [⟨q, n + 1⟩], by simpa using hm, nofun⟩
      | some _ =>
        obtain rfl := he rfl
        exact ih (n + 1) h₁ hm

end Inner

theorem nested_leads {e : Bool} (hl : Leads e h h') : Nested e h h' :=
  serves_nested.leads (fun _ hi q fuel h _ hg => polls_drain hi q fuel 0 h (.begin q hg)) hl

/-! ## What a poll returns -/

/-- **A poll that ends** has found its queue empty, and says after how many jobs. -/
theorem drain_ends {inner : Exec} {fuel n m : Nat} (hr : (drain inner q fuel n).run h = (some m, h')) :
    h'.queue q = [] ∧ h'.journal.head? = some (.drained q m) := by
  induction fuel generalizing n h with
  | zero => cases hr
  | succ fuel ih =>
    cases hq : h.queue q with
    | nil =>
      rw [run_drain_empty hq] at hr
      cases hr
      exact ⟨hq, rfl⟩
    | cons j rest =>
      rw [run_drain_next (run_next hq), run_bind] at hr
      generalize (runJob inner j).run (h.taken q j rest) = r at hr
      obtain ⟨a, h₁⟩ := r
      cases a with
      | none => cases hr
      | some _ => exact ih hr

theorem perform_poll {inner : Exec} {fuel : Nat} {x : Context} {r : Reply}
    (hr : (perform inner fuel x (.poll q)).run h = (some r, h')) :
    h'.queue q = [] ∧ ∃ n, r = .count n ∧ h'.journal.head? = some (.drained q n) := by
  change (Reply.count <$> drain inner q fuel 0).run h = _ at hr
  rw [← bind_pure_comp, run_bind] at hr
  cases hd : (drain inner q fuel 0).run h with
  | mk a h₁ =>
    rw [hd] at hr
    cases a with
    | none => cases hr
    | some n =>
      cases hr
      obtain ⟨he, hj⟩ := drain_ends hd
      exact ⟨he, n, rfl, hj⟩

end Host

end InetHost
