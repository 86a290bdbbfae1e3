import InetHost.Proofs.Exchange.Intake
import InetHost.Proofs.Frame.Checksum

/-!
# Packets whose header was changed on the way

The checksum of a header is a sum modulo 65535, in which `0x0000` and `0xffff` count the same. A change
of one word is seen, unless it is from one of these to the other.

* `Corrupts`: packets that differ in one word of the header;
* `Corrupts.wordSum`, `Corrupts.wordSum_five`: what that changes in the sum;
* `Corrupts.not_reads`, `Corrupts.reads`: which changes are seen and which are not;
* `Discarded`: what is the case when a packet was discarded;
* **`Corrupts.checked`**: a packet with such a change is discarded, unless the change is not seen.
-/

namespace InetHost

/-! ## Words of a byte string -/

namespace Bytes

variable {b : Bytes} {i : Nat}

theorem field_zero_two (h : 2 ≤ b.length) : field b 0 2 = 256 * field b 0 1 + field b 1 1 := by
  obtain ⟨x, y, r, rfl⟩ : ∃ x y r, b = x :: y :: r := by
    match b, h with
    | x :: y :: r, _ => exact ⟨x, y, r, rfl⟩
  simp [field, slice, toNat]

end Bytes

namespace Checksum

/-- **The sum has two zeros.** Exchanging a word of it is not seen only between them. -/
theorem fold_eq_fold {m n x y : Nat} (hs : n + x = m + y) (hx : x < 65536) (hy : y < 65536)
    (hn : x ≠ y) (hf : fold n = fold m) : x = 0 ∧ y = 65535 ∨ x = 65535 ∧ y = 0 := by
  unfold fold at hf
  split at hf <;> split at hf <;> omega

theorem fold_eq_of_zeros {m n x y : Nat} (hs : n + x = m + y) (hm : 0 < m) (hn : 0 < n)
    (hz : x = 0 ∧ y = 65535 ∨ x = 65535 ∧ y = 0) : fold n = fold m := by
  unfold fold
  rw [if_neg (by omega), if_neg (by omega)]
  omega

/-- What the sum without one word is when another word is `n`. -/
theorem wordSum_around {a c : Bytes} {i j : Nat} (ha : a.length = 2 * i) (hj : j ≠ i) (n : Nat) :
    wordSum (a ++ Bytes.ofNat 2 n ++ c) j =
      wordSum (a ++ Bytes.ofNat 2 0 ++ c) j + n % 65536 := by
  have hl : (words a).length = i := by
    rw [length_words (by omega)]
    omega
  unfold wordSum
  rw [words_between ha, words_between ha]
  rcases Nat.lt_or_gt_of_ne hj with h | h
  · rw [List.eraseIdx_append_of_lt_length (by omega), List.eraseIdx_append_of_lt_length (by omega)]
    simp only [total_append, total_cons]
    omega
  · obtain ⟨k, hk⟩ : ∃ k, j - (words a).length = k + 1 := ⟨j - i - 1, by omega⟩
    rw [List.eraseIdx_append_of_length_le (by omega), List.eraseIdx_append_of_length_le (by omega),
      hk]
    simp only [List.eraseIdx_cons_succ, total_append, total_cons]
    omega

theorem first_le_wordSum {b : Bytes} {j : Nat} (hl : 2 ≤ b.length) (hj : j ≠ 0) :
    Bytes.field b 0 2 ≤ wordSum b j := by
  have hb := Bytes.eq_around (i := 0) hl
  have hf : Bytes.field b 0 2 < 65536 := Bytes.field_lt b 0 2
  have hs := wordSum_around (a := b.take 0) (c := b.drop 2) (i := 0) rfl hj (Bytes.field b 0 2)
  rw [← hb, Nat.mod_eq_of_lt hf] at hs
  omega

end Checksum

/-! ## A word that was changed -/

namespace Ipv4

open Checksum Packet

variable {i : Nat} {b b' : Bytes} {p : Packet}

/-- **A packet is another one but for the word with index `i` of its header.** The first byte, which
tells the version and where the header ends, is the same. -/
structure Corrupts (i : Nat) (b b' : Bytes) : Prop where
  inside : 2 * i + 2 ≤ headerOf b
  length : b'.length = b.length
  before : b'.take (2 * i) = b.take (2 * i)
  behind : b'.drop (2 * i + 2) = b.drop (2 * i + 2)
  changed : Bytes.field b (2 * i) 2 ≠ Bytes.field b' (2 * i) 2
  first : Bytes.field b' 0 1 = Bytes.field b 0 1

/-- The change is from one of the two words that count as zero to the other. -/
def Unseen (i : Nat) (b b' : Bytes) : Prop :=
  Bytes.field b (2 * i) 2 = 0x0000 ∧ Bytes.field b' (2 * i) 2 = 0xffff ∨
    Bytes.field b (2 * i) 2 = 0xffff ∧ Bytes.field b' (2 * i) 2 = 0x0000

theorem Packet.Reads.headerOf_le (hp : p.Reads b) : headerOf b ≤ b.length :=
  Nat.le_trans hp.total hp.present

theorem checksum_take {n : Nat} (hn : 20 ≤ n) (hl : n ≤ b.length) :
    (checksum (b.take n) 5).toNat = 65535 - fold (wordSum (b.take n) 5) := by
  have he : (b.take n).isEmpty = false := by
    rw [List.isEmpty_eq_false_iff, ← List.length_pos_iff, List.length_take]
    omega
  rw [checksum, he, ← toNat_complement]
  rfl

namespace Corrupts

variable (hc : Corrupts i b b')

include hc

theorem headerOf_eq : headerOf b' = headerOf b := by
  unfold headerOf
  rw [hc.first]

theorem field_eq {j w : Nat} (hj : j + w ≤ 2 * i ∨ 2 * i + 2 ≤ j) :
    Bytes.field b' j w = Bytes.field b j w := by
  rcases hj with h | h
  · exact Bytes.field_of_take hc.before h
  · exact Bytes.field_of_drop hc.behind h

theorem take_eq (hl : headerOf b ≤ b.length) : ∃ a c : Bytes, a.length = 2 * i ∧
    b.take (headerOf b) = a ++ Bytes.ofNat 2 (Bytes.field b (2 * i) 2) ++ c ∧
      b'.take (headerOf b) = a ++ Bytes.ofNat 2 (Bytes.field b' (2 * i) 2) ++ c := by
  have hi := hc.inside
  have hlen := hc.length
  have hs {x : Bytes} (hx : headerOf b ≤ x.length) :
      x.take (headerOf b) = x.take (2 * i) ++ Bytes.ofNat 2 (Bytes.field x (2 * i) 2) ++
        (x.drop (2 * i + 2)).take (headerOf b - (2 * i + 2)) := by
    have hw : (x.take (2 * i) ++ Bytes.ofNat 2 (Bytes.field x (2 * i) 2)).length = 2 * i + 2 := by
      rw [List.length_append, List.length_take, Bytes.length_ofNat]
      omega
    conv_lhs => rw [Bytes.eq_around (b := x) (i := 2 * i) (by omega)]
    rw [List.take_append, hw, List.take_of_length_le (by omega)]
  refine ⟨b.take (2 * i), (b.drop (2 * i + 2)).take (headerOf b - (2 * i + 2)), ?_, hs hl, ?_⟩
  · rw [List.length_take]
    omega
  · rw [hs (by omega), hc.before, hc.behind]

theorem wordSum (hl : headerOf b ≤ b.length) (hi : i ≠ 5) :
    Checksum.wordSum (b'.take (headerOf b)) 5 + Bytes.field b (2 * i) 2 =
      Checksum.wordSum (b.take (headerOf b)) 5 + Bytes.field b' (2 * i) 2 := by
  obtain ⟨a, c, ha, hb, hb'⟩ := hc.take_eq hl
  have hw : Bytes.field b (2 * i) 2 < 65536 := Bytes.field_lt b (2 * i) 2
  have hw' : Bytes.field b' (2 * i) 2 < 65536 := Bytes.field_lt b' (2 * i) 2
  rw [hb, hb', wordSum_around ha hi.symm, wordSum_around ha hi.symm (Bytes.field b (2 * i) 2),
    Nat.mod_eq_of_lt hw, Nat.mod_eq_of_lt hw']
  omega

theorem wordSum_five (hl : headerOf b ≤ b.length) (hi : i = 5) :
    Checksum.wordSum (b'.take (headerOf b)) 5 = Checksum.wordSum (b.take (headerOf b)) 5 := by
  obtain ⟨a, c, ha, hb, hb'⟩ := hc.take_eq hl
  subst hi
  rw [hb, hb', wordSum_between ha, wordSum_between ha]

/-! ### What a receiver sees -/

/-- **A change is seen** in the checksum field, and between two words that do not count the same. -/
theorem not_reads {p' : Packet} (hp : p.Reads b) (hu : i = 5 ∨ ¬ Unseen i b b') : ¬ p'.Reads b' := by
  intro hp'
  have hl := hp.headerOf_le
  have hs := (checksum_take hp.header hl).symm.trans hp.sum
  have hs' := (checksum_take hp'.header hp'.headerOf_le).symm.trans hp'.sum
  rw [hc.headerOf_eq] at hs'
  by_cases hi : i = 5
  · rw [hc.wordSum_five hl hi] at hs'
    subst hi
    exact hc.changed (hs.symm.trans hs')
  · have hf : Bytes.field b' 10 2 = Bytes.field b 10 2 := hc.field_eq (by omega)
    have ht := fold_lt (Checksum.wordSum (b.take (headerOf b)) 5)
    have ht' := fold_lt (Checksum.wordSum (b'.take (headerOf b)) 5)
    have hz := fold_eq_fold (hc.wordSum hl hi) (Bytes.field_lt b (2 * i) 2)
      (Bytes.field_lt b' (2 * i) 2) hc.changed (by omega)
    exact hu.elim hi (· hz)

/-- **A change between the two words that count as zero is not seen**, unless it is in the checksum or
the total length. -/
theorem reads (hp : p.Reads b) (h₅ : i ≠ 5) (h₁ : i ≠ 1) (hu : Unseen i b b') :
    ∃ p' : Packet, p'.Reads b' := by
  have hl := hp.headerOf_le
  have hh := hp.header
  have hv := hp.version
  have hz : i ≠ 0 := by
    rintro rfl
    have hb := Bytes.field_zero_two (b := b) (by omega)
    have hb' := Bytes.field_zero_two (b := b') (by rw [hc.length]; omega)
    have hf := hc.first
    simp only [Unseen, Nat.mul_zero] at hu
    omega
  have hf : Bytes.field b' 10 2 = Bytes.field b 10 2 := hc.field_eq (by omega)
  have ht : Bytes.field b' 2 2 = Bytes.field b 2 2 := hc.field_eq (by omega)
  have hpos {x : Bytes} (hx : headerOf b ≤ x.length) (hx₀ : Bytes.field x 0 1 = Bytes.field b 0 1) :
      0 < Checksum.wordSum (x.take (headerOf b)) 5 := by
    have hw := first_le_wordSum (b := x.take (headerOf b)) (j := 5)
      (by rw [List.length_take]; omega) (by decide)
    rw [Bytes.field_of_take (b := x) (n := headerOf b) (by rw [List.take_take, Nat.min_self]) (by omega),
      Bytes.field_zero_two (by omega)] at hw
    omega
  have hsum : (checksum (b'.take (headerOf b')) 5).toNat = Bytes.field b' 10 2 := by
    rw [hc.headerOf_eq, checksum_take hh (by rw [hc.length]; exact hl),
      fold_eq_of_zeros (hc.wordSum hl h₅) (hpos hl rfl) (hpos (by rw [hc.length]; exact hl) hc.first)
        hu, ← checksum_take hh hl, hp.sum, hf]
  refine ⟨⟨Ip.ofBytes (b'.drop 12), Ip.ofBytes (b'.drop 16), b'.getD 9 0,
    Bytes.slice b' (headerOf b') (Bytes.field b' 2 2 - headerOf b')⟩, ?_⟩
  exact
    { length := hc.length ▸ hp.length
      version := hc.first ▸ hv
      header := hc.headerOf_eq ▸ hh
      total := by rw [hc.headerOf_eq, ht]; exact hp.total
      present := by rw [ht, hc.length]; exact hp.present
      sum := hsum
      protocol := Bytes.getD_eq.mp rfl
      src := rfl
      dst := rfl
      payload := rfl }

end Corrupts

/-! ## What the host does -/

section

open Host

/-- **A packet that came in on device `d` was discarded.** Nothing is different but that the device owns
its address now, if nobody did, and that the journal says that something came in, and last what is wrong
with it. -/
structure Discarded (d : DeviceId) (f : Fault) (h h' : Host) : Prop where
  rest : h' = { h with owners := h'.owners, journal := h'.journal }
  owners : h'.owners = h.owners ∨
    h.owner? (h.device d).ip = none ∧ h'.owners = h.owners ++ [((h.device d).ip, d)]
  journal : ∃ new, h'.journal = .noticed (.badPacket f) :: (new ++ h.journal) ∧
    ∀ e ∈ new, e.isTrace = true

theorem discarded_register (d : DeviceId) (f : Fault) (h : Host) :
    Discarded d f h ((note (.badPacket f)).run ((register d).run h).2).2 := by
  unfold register
  rw [StateT.run_bind]
  change Discarded d f h ((note (.badPacket f)).run
    ((if (h.owner? (h.device d).ip).isNone then _ else _ : Act Unit).run _).2).2
  by_cases ho : (h.owner? (h.device d).ip).isNone
  · rw [if_pos ho]
    exact ⟨rfl, .inr ⟨Option.isNone_iff_eq_none.mp ho, rfl⟩,
      [.noticed (.registered (h.device d).ip), .presented d], rfl, by simp [Event.isTrace]⟩
  · rw [if_neg ho]
    exact ⟨rfl, .inl rfl, [.presented d], rfl, List.forall_mem_singleton.mpr rfl⟩

theorem discarded_receivePacket {f : Fault} (hf : decode b = .error f) (d : DeviceId) (h : Host) :
    ∃ h', Discarded d f h h' ∧ ∀ app, (receivePacket app d b).run h = (some (), h') := by
  refine ⟨_, discarded_register d f h, fun app => ?_⟩
  unfold receivePacket
  rw [run_act, hf]
  rfl

/-- **A change of one word of a header is seen.** The packet is discarded on every host and whatever
the application is, if the change is in the checksum, or not between the two words that count as zero.
Where it is between these, in no word that is compared or read, the packet passes. -/
theorem Corrupts.checked (hp : p.Reads b) (hc : Corrupts i b b') :
    ((i = 5 ∨ ¬ Unseen i b b') → ∃ f, decode b' = .error f ∧ ∀ d h, ∃ h', Discarded d f h h' ∧
      ∀ app, (receivePacket app d b').run h = (some (), h')) ∧
    (i ≠ 5 → i ≠ 1 → Unseen i b b' → ∃ p', decode b' = .ok p') := by
  constructor
  · intro hu
    cases hd : decode b' with
    | error f => exact ⟨f, rfl, discarded_receivePacket hd⟩
    | ok p' => exact absurd (decode_eq_ok.mp hd) (hc.not_reads hp hu)
  · intro h₅ h₁ hu
    obtain ⟨p', hp'⟩ := hc.reads hp h₅ h₁ hu
    exact ⟨p', decode_eq_ok.mpr hp'⟩

/-- A packet of 10.0.0.2 for 10.0.0.1 with four bytes of options, where `ident` and `life` stand in the
places of its identification and of its lifetime and protocol. -/
def letter (ident life : Nat) : Bytes :=
  [0x46, 0, 0, 26] ++ Bytes.ofNat 2 ident ++ [0, 0] ++ Bytes.ofNat 2 life ++
    [0x63, 0xcf, 10, 0, 0, 2, 10, 0, 0, 1, 1, 1, 1, 1, 104, 105]

theorem checked_letter :
    (∃ f, decode (letter 0 0x3f11) = .error f ∧ ∀ d h, ∃ h', Discarded d f h h' ∧
      ∀ app, (receivePacket app d (letter 0 0x3f11)).run h = (some (), h')) ∧
      ∃ p', decode (letter 0xffff 0x4011) = .ok p' := by
  have hp : Packet.Reads (letter 0 0x4011) ⟨⟨10, 0, 0, 2⟩, ⟨10, 0, 0, 1⟩, 17, [104, 105]⟩ :=
    decode_eq_ok.mp (by decide +kernel)
  have hl : Corrupts 4 (letter 0 0x4011) (letter 0 0x3f11) :=
    ⟨by decide, rfl, rfl, rfl, by decide, rfl⟩
  have hi : Corrupts 2 (letter 0 0x4011) (letter 0xffff 0x4011) :=
    ⟨by decide, rfl, rfl, rfl, by decide, rfl⟩
  have hu : ¬ Unseen 4 (letter 0 0x4011) (letter 0 0x3f11) := by
    unfold Unseen
    decide
  refine ⟨(hl.checked hp).1 (.inr hu), (hi.checked hp).2 (by decide) (by decide) (.inl ?_)⟩
  exact ⟨by decide, by decide⟩

end

end Ipv4

end InetHost
