import InetHost.Buffer.Bounded

/-!
# A bounded buffer gives out what it took in

A bounded buffer is filled and drained in any order. It takes an input whole or not at all, never holds
more than its capacity, and gives out the inputs that it took, in their order.

* `Use`: what is done with a buffer; `after`, `run`: the buffer after one use and after many;
* `accepted`, `given`: the inputs that it took in, and what it gave out;
* `gives_append_content`, **`given_append_content`**: nothing is lost, doubled or overtaken, in one use and
  in many;
* `Fifo`: all that is so of a buffer of some capacity; **`fifo_run`**: it is so whatever was done with it.
-/

namespace InetHost.BoundedBuffer

/-- What is done with a buffer. -/
inductive Use where
  | extend (d : Bytes)
  | drain
  deriving DecidableEq

variable (b : BoundedBuffer)

/-! ## One use -/

/-- The buffer after a use; an input that it refuses leaves it as it was. -/
def after : Use → BoundedBuffer
  | .extend d => (b.extend? d).getD b
  | .drain => b.drain.2

/-- The input that a use brings in, if the buffer takes it. -/
def accepts : Use → List Bytes
  | .extend d => if (b.extend? d).isSome then [d] else []
  | .drain => []

/-- What a use brings out. -/
def gives : Use → List Bytes
  | .extend _ => []
  | .drain => [b.drain.1]

/-- **An input is taken if it fits into what is left.** -/
theorem isSome_extend?_iff (d : Bytes) : (b.extend? d).isSome ↔ d.length ≤ b.available := by
  have hl := b.length_add_available
  unfold extend?
  split
  · simp only [Option.isSome_some, true_iff]
    omega
  · simp only [Option.isSome_none, Bool.false_eq_true, false_iff]
    omega

variable {b}

theorem extend?_of_lt {d : Bytes} (h : b.available < d.length) : b.extend? d = none := by
  rw [← Option.not_isSome_iff_eq_none, isSome_extend?_iff]
  omega

theorem after_of_some {d : Bytes} {b' : BoundedBuffer} (h : b.extend? d = some b') :
    b.after (.extend d) = b' := by
  rw [after, h]
  rfl

theorem after_of_none {d : Bytes} (h : b.extend? d = none) : b.after (.extend d) = b := by
  rw [after, h]
  rfl

variable (b)

theorem capacity_after (u : Use) : (b.after u).capacity = b.capacity := by
  cases u with
  | drain => rfl
  | extend d =>
    cases hb : b.extend? d with
    | none => rw [after_of_none hb]
    | some b' => rw [after_of_some hb, (extend?_eq_some hb).2]

/-- A use brings out what stood first, and takes in what it brings at the end. -/
theorem gives_append_content (u : Use) :
    (b.gives u).flatten ++ (b.after u).content = b.content ++ (b.accepts u).flatten := by
  cases u with
  | drain => simp [gives, after, accepts, drain, empty]
  | extend d =>
    cases hb : b.extend? d with
    | none =>
      rw [after_of_none hb]
      simp [gives, accepts, hb]
    | some b' =>
      rw [after_of_some hb, (extend?_eq_some hb).1]
      simp [gives, accepts, hb]

/-! ## Many uses -/

/-- The buffer after some uses. -/
def run (l : List Use) : BoundedBuffer := l.foldl after b

/-- The inputs that were taken, in the order of the uses. -/
def accepted : BoundedBuffer → List Use → List Bytes
  | _, [] => []
  | b, u :: l => b.accepts u ++ accepted (b.after u) l

/-- What was given out, in the order of the uses. -/
def given : BoundedBuffer → List Use → List Bytes
  | _, [] => []
  | b, u :: l => b.gives u ++ given (b.after u) l

theorem capacity_run (l : List Use) : (b.run l).capacity = b.capacity := by
  induction l generalizing b with
  | nil => rfl
  | cons u l ih => exact (ih _).trans (b.capacity_after u)

/-- **Nothing is lost, doubled or overtaken.** -/
theorem given_append_content (l : List Use) :
    (b.given l).flatten ++ (b.run l).content = b.content ++ (b.accepted l).flatten := by
  induction l generalizing b with
  | nil => simp [given, accepted, run]
  | cons u l ih =>
    have hl : (given (b.after u) l).flatten ++ (b.run (u :: l)).content =
        (b.after u).content ++ (accepted (b.after u) l).flatten := ih (b.after u)
    simp only [given, accepted, List.flatten_append]
    rw [List.append_assoc, hl, ← List.append_assoc, gives_append_content, List.append_assoc]

/-! ## All that is so of a bounded buffer -/

/-- **A buffer of `n` bytes after the uses `l`**: it never holds more than that, takes its inputs whole and
gives them out in order. -/
structure Fifo (n : Nat) (l : List Use) (b : BoundedBuffer) : Prop where
  /-- What it holds and what is left make up its capacity. -/
  capacity : b.capacity = n ∧ b.content.length ≤ n ∧ b.content.length + b.available = n
  /-- It takes what fits into the rest, behind what it holds, … -/
  takes : ∀ d, ((b.extend? d).isSome ↔ d.length ≤ b.available) ∧
    ∀ b', b.extend? d = some b' → b'.content = b.content ++ d ∧ b'.capacity = n
  /-- … and what does not fit changes nothing. -/
  refuses : ∀ d, b.available < d.length → b.extend? d = none ∧ b.after (.extend d) = b
  /-- It gives out all that it holds, and is empty then. -/
  drained : b.drain = (b.content, empty n)
  /-- What it gave out and what it holds are the inputs that it took, in order. -/
  inOrder : ((empty n).given l).flatten ++ b.content = ((empty n).accepted l).flatten

/-- **So it is of every buffer, in whatever order it was filled and drained.** -/
theorem fifo_run (n : Nat) (l : List Use) : Fifo n l ((empty n).run l) := by
  have hn : ((empty n).run l).capacity = n := (empty n).capacity_run l
  have ho := (empty n).given_append_content l
  generalize (empty n).run l = b at hn ho
  have hl := b.length_add_available
  have hc := b.content_le
  rw [hn] at hl hc
  exact
    { capacity := ⟨hn, hc, hl⟩
      takes := fun d => ⟨b.isSome_extend?_iff d, fun b' hb => hn ▸ extend?_eq_some hb⟩
      refuses := fun d hd => ⟨extend?_of_lt hd, after_of_none (extend?_of_lt hd)⟩
      drained := by rw [drain, hn]
      inOrder := ho }

/-- A buffer of ten bytes is filled to the brim; two inputs are refused, one is empty, and it is drained
twice. -/
theorem fifo_brim :
    let l : List Use := [.extend [1, 2, 3, 4, 5], .extend [0, 0, 0, 0, 0, 0], .extend [6, 7], .extend [],
      .drain, .extend [8, 9, 10, 11, 12, 13, 14, 15, 16, 17], .extend [0], .drain, .extend [18]]
    let b := (empty 10).run l
    (empty 10).accepted l =
        [[1, 2, 3, 4, 5], [6, 7], [], [8, 9, 10, 11, 12, 13, 14, 15, 16, 17], [18]] ∧
      ((empty 10).given l).flatten ++ b.content = ((empty 10).accepted l).flatten ∧
      b.content = [18] ∧ (b.extend? [1, 2, 3, 4, 5, 6, 7, 8, 9]).isSome ∧
      b.extend? [1, 2, 3, 4, 5, 6, 7, 8, 9, 10] = none := by
  intro l b
  have hb : Fifo 10 l b := fifo_run 10 l
  exact ⟨by decide, hb.inOrder, by decide, (hb.takes _).1.mpr (by decide),
    (hb.refuses _ (by decide)).1⟩

end InetHost.BoundedBuffer
