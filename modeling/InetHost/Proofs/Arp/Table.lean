import InetHost.Arp.Table
import Mathlib.Data.List.Induction
import Mathlib.Data.List.Nodup

/-!
# What a table has been told

A table is told of pairs, one after another. It follows from the pairs alone what it holds then: the
first addresses that fit, each with the link address that was told of last.

* `Table.keys`, `Table.learn`: the addresses that are known, and how one more pair is taken;
* `told`, `firsts`, `latest`: the table after some pairs, and the same read off the pairs;
* **`keys_told`**, **`get?_told`**, **`isSome_insert?_told`**: the two agree.
-/

namespace InetHost.Arp

/-! ## One pair -/

namespace Table

/-- The addresses that a table knows, in the order in which they came. -/
def keys (t : Table) : List Ip := t.entries.map Prod.fst

/-- A table is told of a pair. -/
def learn (t : Table) (p : Ip × Mac) : Table := (t.insert? p.1 p.2).getD t

variable {t : Table} {ip : Ip} {p : Ip × Mac}

theorem length_keys (t : Table) : t.keys.length = t.size := List.length_map ..

theorem isSome_get? : (t.get? ip).isSome ↔ ip ∈ t.keys := by
  unfold get? keys
  rw [List.lookup_isSome_iff]
  simp

theorem get?_eq_none : t.get? ip = none ↔ ip ∉ t.keys := by
  rw [← isSome_get?, Option.not_isSome_iff_eq_none]

theorem map_fst_setEntry (ip : Ip) (mac : Mac) (l : List (Ip × Mac)) :
    (setEntry ip mac l).map Prod.fst =
      l.map Prod.fst ++ if ip ∈ l.map Prod.fst then [] else [ip] := by
  induction l with
  | nil => rfl
  | cons e r ih =>
    rw [setEntry]
    by_cases he : e.1 = ip
    · simp [he]
    · rw [if_neg he, List.map_cons, ih, List.map_cons]
      simp only [List.mem_cons, Ne.symm he, false_or, List.cons_append]

theorem capacity_learn (t : Table) (p : Ip × Mac) : (t.learn p).capacity = t.capacity := by
  unfold learn insert?
  split <;> rfl

/-- **A known address keeps its place, and a new one comes last** if there is room for it. -/
theorem keys_learn (ht : t.size ≤ t.capacity) (p : Ip × Mac) :
    (t.learn p).keys = (t.keys ++ if p.1 ∈ t.keys then [] else [p.1]).take t.capacity := by
  rw [← length_keys] at ht
  unfold learn insert?
  split
  · rename_i hr
    rw [isSome_get?, ← length_keys] at hr
    have hl : (t.keys ++ if p.1 ∈ t.keys then [] else [p.1]).length ≤ t.capacity := by
      by_cases hm : p.1 ∈ t.keys
      · simpa [hm] using ht
      · have hs : t.keys.length < t.capacity := hr.resolve_left hm
        simp only [hm, if_false, List.length_append, List.length_singleton]
        omega
    rw [List.take_of_length_le hl]
    exact map_fst_setEntry p.1 p.2 t.entries
  · rename_i hr
    rw [isSome_get?, ← length_keys, not_or] at hr
    have hl : t.keys.length = t.capacity := Nat.le_antisymm ht (Nat.not_lt.mp hr.2)
    rw [List.take_append_of_le_length (Nat.le_of_eq hl.symm), List.take_of_length_le ht]
    rfl

/-- **A pair is taken** if its address is known then. -/
theorem isSome_insert?_iff : (t.insert? p.1 p.2).isSome ↔ p.1 ∈ (t.learn p).keys := by
  unfold learn
  cases hi : t.insert? p.1 p.2 with
  | none => simpa using get?_eq_none.mp (insert?_eq_none_iff.mp hi).1
  | some t' =>
    rw [Option.getD_some, ← isSome_get?, get?_insert hi]
    simp

/-- **It is read back**, and every other address is as it was. -/
theorem get?_learn (t : Table) (p : Ip × Mac) (ip : Ip) : (t.learn p).get? ip =
    if ip ∈ (t.learn p).keys then if ip = p.1 then some p.2 else t.get? ip else none := by
  split
  · rename_i hm
    unfold learn at hm ⊢
    cases hi : t.insert? p.1 p.2 with
    | none =>
      rw [hi] at hm
      have hp : p.1 ∉ t.keys := get?_eq_none.mp (insert?_eq_none_iff.mp hi).1
      exact (if_neg (ne_of_mem_of_not_mem hm hp)).symm
    | some t' => exact get?_insert hi ip
  · rename_i hm
    exact get?_eq_none.mpr hm

theorem isSome_get?_learn (ht : (t.get? ip).isSome) (p : Ip × Mac) :
    ((t.learn p).get? ip).isSome := by
  unfold learn
  cases hi : t.insert? p.1 p.2 with
  | none => exact ht
  | some t' =>
    rw [Option.getD_some, get?_insert hi]
    split
    · rfl
    · exact ht

end Table

/-! ## All pairs -/

/-- The table that was told of some pairs. -/
def told (capacity : Nat) (l : List (Ip × Mac)) : Table := l.foldl Table.learn (.empty capacity)

/-- The first different addresses of some pairs, as many as fit. -/
def firsts (capacity : Nat) (l : List (Ip × Mac)) : List Ip :=
  (l.map Prod.fst).eraseDups.take capacity

/-- The link address that comes last for an address. -/
def latest (l : List (Ip × Mac)) (ip : Ip) : Option Mac := l.reverse.lookup ip

variable (capacity : Nat) (l : List (Ip × Mac)) (p : Ip × Mac)

theorem told_concat : told capacity (l ++ [p]) = (told capacity l).learn p :=
  List.foldl_concat ..

theorem latest_concat (ip : Ip) :
    latest (l ++ [p]) ip = if ip = p.1 then some p.2 else latest l ip := by
  unfold latest
  rw [List.reverse_concat]
  exact Table.lookup_entry ip p l.reverse

theorem eraseDups_concat (k : List Ip) (ip : Ip) :
    (k ++ [ip]).eraseDups = k.eraseDups ++ if ip ∈ k.eraseDups then [] else [ip] := by
  rw [List.eraseDups_append]
  by_cases hm : ip ∈ k <;> simp [hm, List.removeAll, List.eraseDups_cons]

/-- One more address comes last, if it is new and there is room for it. -/
theorem firsts_concat : firsts capacity (l ++ [p]) =
    (firsts capacity l ++ if p.1 ∈ firsts capacity l then [] else [p.1]).take capacity := by
  unfold firsts
  rw [List.map_append, List.map_singleton, eraseDups_concat]
  rcases Nat.lt_or_ge (l.map Prod.fst).eraseDups.length capacity with hl | hl
  · rw [List.take_of_length_le (Nat.le_of_lt hl)]
  · rw [List.take_append_of_le_length hl, List.take_append_of_le_length (by simp [hl]),
      List.take_take, Nat.min_self]

theorem length_firsts_le : (firsts capacity l).length ≤ capacity := List.length_take_le ..

theorem nodup_firsts : (firsts capacity l).Nodup := by
  induction l using List.reverseRecOn with
  | nil => simp [firsts]
  | append_singleton l p ih =>
    rw [firsts_concat]
    refine List.Nodup.sublist (List.take_sublist ..) ?_
    split
    · rwa [List.append_nil]
    · rename_i hm
      exact ih.append (List.nodup_singleton _) (by simpa using hm)

theorem capacity_told : (told capacity l).capacity = capacity := by
  induction l using List.reverseRecOn with
  | nil => rfl
  | append_singleton l p ih => rw [told_concat, Table.capacity_learn, ih]

/-- **The addresses that are known** are the first that came. -/
theorem keys_told : (told capacity l).keys = firsts capacity l := by
  induction l using List.reverseRecOn with
  | nil => simp [told, firsts, Table.empty, Table.keys]
  | append_singleton l p ih =>
    have hs : (told capacity l).size ≤ (told capacity l).capacity := by
      rw [← Table.length_keys, ih, capacity_told]
      exact length_firsts_le capacity l
    rw [told_concat, Table.keys_learn hs, firsts_concat, ih, capacity_told]

/-- **A pair is taken** if its address is among the first when it has come. -/
theorem isSome_insert?_told :
    ((told capacity l).insert? p.1 p.2).isSome ↔ p.1 ∈ firsts capacity (l ++ [p]) := by
  rw [Table.isSome_insert?_iff, ← told_concat, keys_told]

/-- **What is read back** is what was told last, for the addresses that came first. -/
theorem get?_told (ip : Ip) : (told capacity l).get? ip =
    if ip ∈ firsts capacity l then latest l ip else none := by
  induction l using List.reverseRecOn with
  | nil => simp [told, firsts, Table.empty, Table.get?]
  | append_singleton l p ih =>
    rw [told_concat, Table.get?_learn, ← told_concat, keys_told, latest_concat]
    by_cases hm : ip ∈ firsts capacity (l ++ [p])
    · rw [if_pos hm, if_pos hm]
      by_cases hp : ip = p.1
      · rw [if_pos hp, if_pos hp]
      · -- an address that comes first and is not the new one came before
        have hl : ip ∈ firsts capacity l := by
          rw [firsts_concat] at hm
          rcases List.mem_append.mp (List.mem_of_mem_take hm) with hm | hm
          · exact hm
          · split at hm
            · cases hm
            · exact absurd (List.mem_singleton.mp hm) hp
        rw [if_neg hp, if_neg hp, ih, if_pos hl]
    · rw [if_neg hm, if_neg hm]

end InetHost.Arp
