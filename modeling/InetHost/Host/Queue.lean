import InetHost.Host.Basic

/-!
# Queues of deferred work

* `alterQueue`: one queue changes and the others do not (`getD_alterQueue`);
* `put`, `next?`: a queue is first in, first out;
* `enqueue`: a task goes on a queue unless it waits on one already;
* `dequeued`: a task that has left its queue may be put on one again.
-/

namespace InetHost.Host

/-! ## One queue of many -/

/-- The queues with number `q` changed by `f`; a queue that was never used is empty. -/
def alterQueue (f : List Job → List Job) : QueueId → List (List Job) → List (List Job)
  | 0, [] => [f []]
  | 0, l :: r => f l :: r
  | q + 1, [] => [] :: alterQueue f q []
  | q + 1, l :: r => l :: alterQueue f q r

theorem getD_alterQueue (f : List Job → List Job) (q p : QueueId) (qs : List (List Job)) :
    (alterQueue f q qs).getD p [] = if p = q then f (qs.getD q []) else qs.getD p [] := by
  induction q generalizing p qs with
  | zero => cases qs <;> cases p <;> simp [alterQueue]
  | succ q ih =>
    cases p with
    | zero => cases qs <;> simp [alterQueue]
    | succ p =>
      cases qs with
      | nil => simpa [alterQueue] using ih p []
      | cons l r => simpa [alterQueue] using ih p r

/-! ## Jobs -/

/-- Put a job at the end of a queue. -/
def put (q : QueueId) (j : Job) : Act Unit := do
  modify fun h => { h with queues := alterQueue (· ++ [j]) q h.queues }
  record (.put q j)

/-- Take the job at the front of a queue. -/
def next? (q : QueueId) : Act (Option Job) := do
  match (← get).queue q with
  | [] => return none
  | j :: rest =>
    modify fun h => { h with queues := alterQueue (fun _ => rest) q h.queues }
    record (.started q j)
    return some j

/-! ## Tasks -/

/-- Change a task. -/
def modifyTask (t : TaskId) (f : Task → Task) : Act Unit :=
  modify fun h => { h with tasks := h.tasks.modify t f }

/-- Put a task on a queue, unless it is on one. -/
def enqueue (q : QueueId) (t : TaskId) : Act Unit := do
  unless ((← get).task t).queued do
    modifyTask t ({ · with queued := true })
    put q (.task t)

/-- Take note that a task has left its queue. -/
def dequeued (t : TaskId) : Act Unit := modifyTask t ({ · with queued := false })

end InetHost.Host
