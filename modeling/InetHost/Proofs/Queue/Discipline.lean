import InetHost.Proofs.Queue.Polls

/-!
# The discipline of queues

* `Discipline`: what holds of the tasks, the queues and the polls of a host;
* **`discipline_leads`**: it holds of every host that was started and used, also while it is used;
* `busy`: a host whose jobs poll the queue that they were taken from and have a task run again.
-/

namespace InetHost.Host

variable {h h' : Host} {q : QueueId} {t : TaskId}

/-- **What holds of queues.** `ended` says whether everything that the host was used for has come to its
end. -/
structure Discipline (ended : Bool) (h : Host) : Prop where
  /-- A task is flagged if it waits on a queue, and only then. -/
  flag : ∀ t, (h.task t).queued = true ↔ ∃ q, .task t ∈ h.queue q
  /-- It waits in one place of one queue. -/
  once : ∀ {q t}, .task t ∈ h.queue q →
    (h.queue q).countP (Job.isTask t) = 1 ∧ ∀ p, .task t ∈ h.queue p → p = q
  /-- The jobs of a queue are started in the order in which they were put there, each of them once, and
  those that were not wait there. -/
  order : ∀ q, putOn q h.journal = startedOn q h.journal ++ h.queue q
  /-- A task is put on a queue unless it is flagged, … -/
  enqueue : ∀ inner fuel x id q t, h.taskNames.lookup id = some t → ∀ p,
    putOn p ((perform inner fuel x (.enqueue id q)).run h).2.journal = putOn p h.journal ++
      if q = p ∧ (h.task t).queued = false then [.task t] else []
  /-- … and other work always. -/
  spawn : ∀ inner fuel x q id ops p,
    putOn p ((perform inner fuel x (.spawn q id ops)).run h).2.journal = putOn p h.journal ++
      if q = p then [.once id ops] else []
  /-- A poll that ends has found its queue empty. It returns what the journal says that it does. -/
  poll : ∀ inner fuel x q r h', (perform inner fuel x (.poll q)).run h = (some r, h') →
    h'.queue q = [] ∧ ∃ n, r = .count n ∧ h'.journal.head? = some (.drained q n)
  /-- Polls nest, and every job that was started from a queue counts for one of its polls. -/
  polls : ∃ going, Polls going h.journal ∧ (ended = true → going = []) ∧ ∀ q,
    (startedOn q h.journal).length = returnedOn q h.journal + goingOn q going

/-! ## What is asked for -/

variable {inner : Exec} {fuel : Nat} {x : Context}

theorem putOn_enqueue (h : Host) (q : QueueId) (t : TaskId) (p : QueueId) :
    putOn p ((enqueue q t).run h).2.journal = putOn p h.journal ++
      if q = p ∧ (h.task t).queued = false then [.task t] else [] := by
  rw [run_enqueue]
  cases (h.task t).queued with
  | true => simp
  | false =>
    simp only [Bool.false_eq_true, if_false, and_true]
    exact putOn_put q (.task t)

theorem perform_enqueue {id : Label} (ht : h.taskNames.lookup id = some t) :
    ((perform inner fuel x (.enqueue id q)).run h).2 = ((enqueue q t).run h).2 := by
  unfold perform
  rw [run_get, ht]
  rfl

/-! ## Every run -/

/-- **The discipline of queues**, at all times. -/
theorem discipline_leads {s : Setup} {h₀ : Host} {ended : Bool} (hs : start s = .ok h₀)
    (hl : Leads ended h₀ h) : Discipline ended h := by
  have hd : Disciplined h := (disciplined_start hs).shifts (shifts_leads hl)
  have hp : Polls [] h₀.journal := by
    rw [(fresh_start hs).journal]
    exact .nil
  obtain ⟨going, hg, he⟩ := nested_leads hl [] hp
  rw [List.append_nil] at hg
  refine ⟨fun t => hd.queued_iff, hd.once, hd.order, ?_, ?_, ?_, going, hg, he, hg.length_startedOn⟩
  · intro inner fuel x id q t ht p
    rw [perform_enqueue ht, putOn_enqueue]
  · intro inner fuel x q id ops p
    exact putOn_put q (.once id ops)
  · intro inner fuel x q r h' hr
    exact perform_poll hr

/-! ## A busy host -/

/-- A job has a task run and polls the queue that it was taken from, on which another job and the task
wait by then. The task has itself run again, from a second queue, which it polls. In the end the task
and a job wait on that queue. -/
def busy? : Option Host :=
  after? 6
    [.define (.number 0) [[.enqueue (.number 0) 1, .poll 1, .poll 0], []],
      .spawn 0 (.number 1) [.enqueue (.number 0) 0, .enqueue (.number 0) 1, .poll 0],
      .spawn 0 (.number 2) [], .poll 0, .enqueue (.number 0) 1, .spawn 1 (.number 3) []]
    (attach { config := {} } talker)

/-- The host that did it. -/
def busy : Host := busy?.getD default

theorem busy_eq : busy? = some busy := by
  have hs : busy?.isSome = true := by decide +kernel
  obtain ⟨h, hh⟩ := Option.isSome_iff_exists.mp hs
  rw [busy, hh]
  rfl

theorem discipline_busy : ∃ h₀, start ⟨{}, [talker]⟩ = .ok h₀ ∧ Leads true h₀ busy ∧
    Discipline true busy ∧ (startedOn 0 busy.journal).length = 3 ∧ returnedOn 0 busy.journal = 3 ∧
    (busy.task 0).queued = true ∧ (busy.queue 1).length = 2 := by
  have hs : start ⟨{}, [talker]⟩ = .ok (attach { config := {} } talker) := rfl
  have hl : Leads true (attach { config := {} } talker) busy := leads_after? busy_eq
  exact ⟨_, hs, hl, discipline_leads hs hl, by decide +kernel, by decide +kernel,
    by decide +kernel, by decide +kernel⟩

end InetHost.Host
