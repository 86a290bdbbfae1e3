import InetHost.Address.Ip
import InetHost.Address.Mac

/-!
# The table of resolved addresses

`Table` maps IPv4 addresses to link addresses. It holds at most `capacity` entries, in the order in
which they came: a known address takes its new link address, an unknown one is added while there is
room, and nothing is ever removed.

* `Table.get?`, `Table.insert?`, with **`get?_insert`**: an entry is read back, the others stay;
* `insert?_eq_none_iff`: only a full table refuses, and only a new address.
-/

namespace InetHost.Arp

/-- Resolved addresses. -/
structure Table where
  capacity : Nat
  entries : List (Ip × Mac)
  deriving DecidableEq, Repr, Inhabited

namespace Table

/-- The entries with `ip` at `mac`: in its old place, or at the end. -/
def setEntry (ip : Ip) (mac : Mac) : List (Ip × Mac) → List (Ip × Mac)
  | [] => [(ip, mac)]
  | e :: r => if e.1 = ip then (ip, mac) :: r else e :: setEntry ip mac r

variable (t : Table)

/-- A table without entries. -/
def empty (capacity : Nat) : Table := ⟨capacity, []⟩

/-- The number of entries. -/
def size : Nat := t.entries.length

/-- The link address of `ip`. -/
def get? (ip : Ip) : Option Mac := t.entries.lookup ip

/-- Note that `ip` is at `mac`; `none` where the table is full. -/
def insert? (ip : Ip) (mac : Mac) : Option Table :=
  if (t.get? ip).isSome ∨ t.size < t.capacity then
    some { t with entries := setEntry ip mac t.entries }
  else none

/-! ## Laws -/

variable {t}

theorem lookup_entry (p : Ip) (e : Ip × Mac) (r : List (Ip × Mac)) :
    (e :: r).lookup p = if p = e.1 then some e.2 else r.lookup p := by
  obtain ⟨q, m⟩ := e
  by_cases h : p = q
  · simp [h]
  · have h' : (p == q) = false := by simpa using h
    simp [List.lookup_cons, h, h']

theorem lookup_setEntry (ip p : Ip) (mac : Mac) (l : List (Ip × Mac)) :
    (setEntry ip mac l).lookup p = if p = ip then some mac else l.lookup p := by
  induction l with
  | nil => rw [setEntry, lookup_entry]
  | cons e r ih =>
    rw [setEntry, lookup_entry]
    by_cases he : e.1 = ip
    · rw [if_pos he, lookup_entry, he]
      split <;> rfl
    · rw [if_neg he, lookup_entry, ih]
      by_cases hp : p = ip
      · subst hp
        simp [Ne.symm he]
      · simp [hp]

theorem insert?_eq_none_iff {ip : Ip} {mac : Mac} :
    t.insert? ip mac = none ↔ t.get? ip = none ∧ t.capacity ≤ t.size := by
  unfold insert?
  cases h : t.get? ip <;> simp

/-- **An entry is read back, and the others stay.** -/
theorem get?_insert {t' : Table} {ip : Ip} {mac : Mac} (h : t.insert? ip mac = some t') (p : Ip) :
    t'.get? p = if p = ip then some mac else t.get? p := by
  unfold insert? at h
  split at h <;> simp only [Option.some.injEq, reduceCtorEq] at h
  subst h
  exact lookup_setEntry ip p mac t.entries

end Table

end InetHost.Arp
