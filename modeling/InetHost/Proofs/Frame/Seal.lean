import InetHost.Proofs.Frame.Checksum

/-!
# Messages that carry their checksum

A message is sealed by storing in one of its words the checksum of the others. The word makes no
difference to that checksum, and once it is stored the sum of all words is zero. The sum may begin
with words that stand before the message but are not sent with it.

* `withWord d k n`: the message `d` with `n` as its word `k`; `wordSum_withWord`, `total_words_withWord`: its
  sums;
* `pseudoHeader`, **`checksumBetween_eq`**: the sum of a transport message begins with the words of its
  pseudo-header;
* `Seals`: what is so of a word that seals a message; **`seals_word`**: every whole word does, whatever
  the sum begins with.
-/

namespace InetHost.Checksum

variable {d : Bytes} {k : Nat}

/-! ## A word that is stored -/

/-- The message `d` with `n` as its word `k`. -/
def withWord (d : Bytes) (k : Nat) (n : UInt16) : Bytes := Bytes.write d (2 * k) (Bytes.ofNat 2 n.toNat)

theorem length_withWord (hk : 2 * k + 2 ≤ d.length) (n : UInt16) : (withWord d k n).length = d.length :=
  Bytes.length_write hk

/-- **The word makes no difference to the sum of the others.** -/
theorem wordSum_withWord (hk : 2 * k + 2 ≤ d.length) (n : UInt16) :
    wordSum (withWord d k n) k = wordSum d k := by
  have ha : (d.take (2 * k)).length = 2 * k := List.length_take_of_le (by omega)
  have hd := wordSum_between ha (Bytes.field d (2 * k) 2) (d.drop (2 * k + 2))
  rw [← Bytes.eq_around hk] at hd
  rw [hd]
  exact wordSum_between ha n.toNat _

/-- The sum of all words is that of the others and the word. -/
theorem total_words_withWord (hk : 2 * k + 2 ≤ d.length) (n : UInt16) :
    total (words (withWord d k n)) = wordSum d k + n.toNat := by
  have ha : (d.take (2 * k)).length = 2 * k := List.length_take_of_le (by omega)
  have hs : wordSum (withWord d k n) k = _ := wordSum_between ha n.toNat (d.drop (2 * k + 2))
  have hw : words (withWord d k n) = _ := words_between ha n.toNat (d.drop (2 * k + 2))
  rw [← wordSum_withWord hk n, hs, hw, total_append, total_cons, Nat.mod_eq_of_lt n.toNat_lt]
  omega

/-! ## Sums with and without a word -/

theorem two_mul_length_words_le (b : Bytes) : 2 * (words b).length ≤ b.length + 1 := by
  induction b using words.induct with
  | case1 => exact Nat.zero_le _
  | case2 x => exact Nat.le_refl _
  | case3 x y r ih =>
    simp only [words, List.length_cons]
    omega

theorem wordSum_of_le {b : Bytes} {s : Nat} (hs : b.length ≤ 2 * s) : wordSum b s = total (words b) := by
  have hl := two_mul_length_words_le b
  rw [wordSum, List.eraseIdx_of_length_le (by omega)]

theorem wordSum_append {p : Bytes} (hp : p.length % 2 = 0) (b : Bytes) (s : Nat) :
    wordSum (p ++ b) (p.length / 2 + s) = total (words p) + wordSum b s := by
  have hl := length_words hp
  unfold wordSum
  rw [words_append hp, List.eraseIdx_append_of_length_le (by omega), hl, Nat.add_sub_cancel_left,
    total_append]

theorem checksum_of_pos {b : Bytes} (hb : 0 < b.length) (s : Nat) :
    checksum b s = complement (wordSum b s) := by
  rw [checksum, List.isEmpty_eq_false_iff.mpr (List.length_pos_iff.mp hb)]
  rfl

theorem complement_eq_zero {n : Nat} (h : fold n = 65535) : complement n = 0 := by
  rw [complement, h]
  rfl

/-! ## The pseudo-header -/

/-- What stands before a transport message of some length when it is summed, and is not sent. -/
def pseudoHeader (src dst : Ip) (protocol : UInt8) (length : Nat) : Bytes :=
  src.octets ++ dst.octets ++ [0, protocol] ++ Bytes.ofNat 2 length

theorem total_words_pseudoHeader (src dst : Ip) (protocol : UInt8) {n : Nat} (hn : n < 65536) :
    total (words (pseudoHeader src dst protocol n)) = pseudoSum src dst protocol n := by
  have hp : total (words [0, protocol]) = protocol.toNat := by simp [words, total]
  unfold pseudoHeader
  rw [words_append (by simp [Ip.octets]), words_append (by simp [Ip.octets]),
    words_append (by simp [Ip.octets]), words_ofNat, Nat.mod_eq_of_lt hn]
  simp only [total_append, hp]
  rfl

/-- **The checksum between two addresses is that of the message behind its pseudo-header.** -/
theorem checksumBetween_eq (src dst : Ip) (protocol : UInt8) {b : Bytes} (hb : b.length < 65536)
    (s : Nat) : checksumBetween src dst protocol b s =
      checksum (pseudoHeader src dst protocol b.length ++ b) (6 + s) := by
  have hl : (pseudoHeader src dst protocol b.length).length = 12 := rfl
  have hs := wordSum_append (p := pseudoHeader src dst protocol b.length) (by rw [hl]) b s
  rw [hl, total_words_pseudoHeader src dst protocol hb] at hs
  rw [checksum_of_pos (by rw [List.length_append, hl]; omega)]
  exact congrArg complement hs.symm

/-! ## Sealing a message -/

/-- **The word `k` of `d` seals it**, where messages are summed by `sum`. -/
structure Seals (sum : Bytes → Nat → UInt16) (d : Bytes) (k : Nat) : Prop where
  /-- What the word holds makes no difference to the sum without it. -/
  independent : ∀ n, sum (withWord d k n) k = sum d k
  /-- With that sum in the word, the sum over all words is zero. -/
  verifies : ∀ s, d.length ≤ 2 * s → sum (withWord d k (sum d k)) s = 0
  /-- All ones do as well where it is zero. -/
  ones : sum d k = 0 → ∀ s, d.length ≤ 2 * s → sum (withWord d k 0xffff) s = 0

/-- A sum that begins with any number is sealed by every word. -/
theorem seals_of_complement {sum : Bytes → Nat → UInt16} (extra : Nat) (hk : 2 * k + 2 ≤ d.length)
    (hs : ∀ b s, b.length = d.length → sum b s = complement (extra + wordSum b s)) :
    Seals sum d k := by
  have hd : sum d k = complement (extra + wordSum d k) := hs d k rfl
  have hw : ∀ n s, d.length ≤ 2 * s →
      sum (withWord d k n) s = complement (extra + wordSum d k + n.toNat) := by
    intro n s hl
    have hn := length_withWord hk n
    rw [hs _ s hn, wordSum_of_le (by omega), total_words_withWord hk, Nat.add_assoc]
  refine ⟨fun n => ?_, fun s hl => ?_, fun hz s hl => ?_⟩
  · rw [hs _ k (length_withWord hk n), wordSum_withWord hk, hd]
  · rw [hw _ s hl, hd, complement_eq_zero (fold_add_complement _)]
  · rw [hw _ s hl]
    exact complement_eq_zero (fold_add_ones (hd ▸ hz))

/-- **Every whole word of a message seals it**: alone, behind any words that are not sent with it, and
between two addresses, where these words are the pseudo-header. -/
theorem seals_word {d : Bytes} {k : Nat} (hk : 2 * k + 2 ≤ d.length) :
    Seals checksum d k ∧
      (∀ p : Bytes, p.length % 2 = 0 →
        Seals (fun b s => checksum (p ++ b) (p.length / 2 + s)) d k) ∧
      ∀ src dst protocol, Seals (checksumBetween src dst protocol) d k ∧
        (d.length < 65536 → ∀ s, checksumBetween src dst protocol d s =
          checksum (pseudoHeader src dst protocol d.length ++ d) (6 + s)) := by
  refine ⟨?_, fun p hp => ?_, fun src dst protocol => ⟨?_, checksumBetween_eq src dst protocol⟩⟩
  · refine seals_of_complement 0 hk fun b s hb => ?_
    rw [checksum_of_pos (by omega), Nat.zero_add]
  · refine seals_of_complement (total (words p)) hk fun b s hb => ?_
    rw [checksum_of_pos (by rw [List.length_append]; omega), wordSum_append hp]
  · refine seals_of_complement (pseudoSum src dst protocol d.length) hk fun b s hb => ?_
    rw [checksumBetween, hb]

/-- A header is sealed by its sixth word. A message of five bytes whose other words sum up to all ones is
sealed by its second word, with zero and with all ones, and behind two bytes that are not sent. -/
theorem seals_word_odd :
    let h : Bytes := [0x45, 0, 0x38, 0, 0, 0, 0, 0, 0, 0, 0, 0, 0xc0, 0xa8, 3, 2, 0xc0, 0xa8, 3, 1]
    let m : Bytes := [0x00, 0xff, 0x12, 0x34, 0xff]
    (2 * 5 + 2 ≤ h.length ∧ checksum h 5 = 0xfbaa ∧ checksum (withWord h 5 0xfbaa) 10 = 0) ∧
      (2 * 1 + 2 ≤ m.length ∧ checksum m 1 = 0 ∧ checksum (withWord m 1 0) 3 = 0 ∧
        checksum (withWord m 1 0xffff) 3 = 0) ∧
      checksum ([1, 2] ++ m) (1 + 1) = 0xfefd ∧
      checksum ([1, 2] ++ withWord m 1 0xfefd) (1 + 3) = 0 := by
  intro h m
  have hh := (seals_word (d := h) (k := 5) (by decide)).1
  have hc : checksum h 5 = 0xfbaa := by decide
  have hv := hh.verifies 10 (by decide)
  rw [hc] at hv
  obtain ⟨hm, hp, -⟩ := seals_word (d := m) (k := 1) (by decide)
  have hz : checksum m 1 = 0 := by decide
  have hw := hm.verifies 3 (by decide)
  rw [hz] at hw
  have hq : checksum ([1, 2] ++ m) (1 + 1) = 0xfefd := by decide
  have hx : checksum ([1, 2] ++ withWord m 1 (checksum ([1, 2] ++ m) (1 + 1))) (1 + 3) = 0 :=
    (hp [1, 2] rfl).verifies 3 (by decide)
  rw [hq] at hx
  exact ⟨⟨by decide, hc, hv⟩, ⟨by decide, hz, hw, hm.ones hz 3 (by decide)⟩, hq, hx⟩

end InetHost.Checksum
