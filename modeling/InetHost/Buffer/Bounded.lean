import InetHost.Text.Quoted

/-!
# Bounded buffers

`BoundedBuffer` collects at most `capacity` bytes. `extend?` takes all of an input or nothing,
`drain` gives the content out.
-/

namespace InetHost

/-- At most `capacity` bytes, in the order in which they came. -/
structure BoundedBuffer where
  capacity : Nat
  content : Bytes
  content_le : content.length ≤ capacity
  deriving DecidableEq

namespace BoundedBuffer

variable (b : BoundedBuffer)

/-- A buffer with nothing in it. -/
def empty (capacity : Nat) : BoundedBuffer := ⟨capacity, [], Nat.zero_le _⟩

instance : Inhabited BoundedBuffer := ⟨empty 0⟩

/-- The number of bytes that still fit. -/
def available : Nat := b.capacity - b.content.length

/-- Append all of `d`, if it fits. -/
def extend? (d : Bytes) : Option BoundedBuffer :=
  if h : b.content.length + d.length ≤ b.capacity then
    some ⟨b.capacity, b.content ++ d, by simpa using h⟩
  else none

/-- The content, and the buffer without it. -/
def drain : Bytes × BoundedBuffer := (b.content, empty b.capacity)

/-- Capacity and content by name. -/
def describe : String :=
  "FixedBuffer \x7b capacity: " ++ b.capacity.repr ++ ", buf: " ++ Text.quotedBytes b.content ++
    " \x7d"

variable {b} in
theorem extend?_eq_some {d : Bytes} {b' : BoundedBuffer} (h : b.extend? d = some b') :
    b'.content = b.content ++ d ∧ b'.capacity = b.capacity := by
  unfold extend? at h
  split at h
  · obtain rfl := Option.some.inj h
    exact ⟨rfl, rfl⟩
  · cases h

theorem length_add_available : b.content.length + b.available = b.capacity := by
  have := b.content_le
  simp only [available]
  omega

end BoundedBuffer

end InetHost
