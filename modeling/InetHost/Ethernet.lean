import InetHost.Address.Mac

/-!
# Ethernet frames

* `Frame`: two link addresses, the type of the content, and the content;
* `Frame.header`, `Frame.encode`, `Frame.decode?`: the frame on the wire (`decode_encode`).
-/

namespace InetHost.Ethernet

/-- The length of a frame's header. -/
def headerLength : Nat := 14

/-! ## Types of content -/

/-- The content is an IPv4 packet. -/
def ipv4Type : UInt16 := 0x0800

/-- The content is an ARP packet. -/
def arpType : UInt16 := 0x0806

/-- The content is an IPv6 packet. -/
def ipv6Type : UInt16 := 0x86dd

/-! ## Frames -/

/-- A frame. -/
structure Frame where
  dst : Mac
  src : Mac
  type : UInt16
  payload : Bytes
  deriving DecidableEq, Repr

/-- The bytes in front of a frame's content. -/
def header (dst src : Mac) (type : UInt16) : Bytes :=
  dst.octets ++ src.octets ++ Bytes.ofNat 2 type.toNat

@[simp] theorem length_header (dst src : Mac) (type : UInt16) :
    (header dst src type).length = headerLength := by
  simp [header, headerLength]

namespace Frame

/-- A frame as it stands on the wire. -/
def encode (f : Frame) : Bytes := header f.dst f.src f.type ++ f.payload

/-- Reads a frame; there is none in fewer bytes than a header has. -/
def decode? (b : Bytes) : Option Frame :=
  if b.length < headerLength then none
  else some
    { dst := Mac.ofBytes b
      src := Mac.ofBytes (b.drop 6)
      type := UInt16.ofNat (Bytes.field b 12 2)
      payload := b.drop headerLength }

/-- **What is written reads back.** -/
theorem decode_encode (f : Frame) : decode? f.encode = some f := by
  obtain ⟨dst, src, type, payload⟩ := f
  have ht : UInt16.ofNat (Bytes.toNat (Bytes.ofNat 2 type.toNat)) = type := by
    have := type.toNat_lt
    rw [Bytes.toNat_ofNat, Nat.mod_eq_of_lt (by omega), UInt16.ofNat_toNat]
  have hl : ¬ (header dst src type ++ payload).length < headerLength := by simp
  rw [decode?, encode, if_neg hl]
  simp only [Option.some.injEq, Frame.mk.injEq]
  exact ⟨rfl, rfl, ht, rfl⟩

end Frame

end InetHost.Ethernet
