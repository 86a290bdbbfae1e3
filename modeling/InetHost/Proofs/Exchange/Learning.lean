import InetHost.Proofs.Arp.Table
import InetHost.Proofs.Exchange.Sending

/-!
# What a host has learned

A host is told of link addresses, and its table holds what the journal says of it: the addresses that
came first and fit, each with the link address that came last.

* `tellings`: the pairs that a host was to store, one after another;
* `run_store`: what one more of them does;
* `Learns`, **`learns_leads`**: along every run the table changes by what is told, and by nothing else;
* **`Visited.arp_eq`**: so a host's table is `told` what its journal says;
* **`asked_lookup`**: who looks up what is not known asks one question.
-/

namespace InetHost

open Arp

/-! ## What a host is told -/

/-- The pair that a host was to store. -/
def Event.telling : Event → Option (Ip × Mac)
  | .stored ip mac _ => some (ip, mac)
  | _ => none

/-- The pairs that a host was to store, one after another. -/
def tellings (j : List Event) : List (Ip × Mac) := inOrder Event.telling j

theorem tellings_append (new j : List Event) : tellings (new ++ j) = tellings j ++ tellings new :=
  inOrder_both _ new j

theorem tellings_eq_nil {new : List Event} (hn : ∀ e ∈ new, e.telling = none) : tellings new = [] :=
  inOrder_eq_nil hn

theorem Event.telling_eq_none {e : Event} (he : e.onLink = false) : e.telling = none := by
  cases e <;> first | rfl | cases he

theorem Event.askedOf_eq_none_of_onLink {e : Event} (he : e.onLink = false) (d : DeviceId) :
    e.askedOf d = none := by
  cases e <;> first | rfl | cases he

namespace Host

variable {h h₁ h' : Host} {d : DeviceId} {ip : Ip}

/-! ## Storing -/

/-- **A pair is stored** if it is taken, and refused with a notice else. -/
theorem run_store (ip : Ip) (mac : Mac) (h : Host) :
    let k := (h.arp.insert? ip mac).isSome
    (store ip mac).run h = (k, { h with
      arp := h.arp.learn (ip, mac)
      journal := (if k then [] else [.noticed (.arpTableFull ip mac)]) ++
        .stored ip mac k :: h.journal }) := by
  unfold store Table.learn
  rw [act_get]
  cases h.arp.insert? ip mac <;> rfl

/-! ## Every run -/

/-- **A table changes by what is told**, and by nothing else. -/
structure Learns (h h' : Host) : Prop where
  config : h'.config = h.config
  table : ∃ new, h'.journal = new ++ h.journal ∧ h'.arp = (tellings new).foldl Table.learn h.arp

theorem KeepsLink.learns (q : KeepsLink h h') : Learns h h' := by
  obtain ⟨new, hj, hn⟩ := q.journal
  refine ⟨q.config, new, hj, ?_⟩
  rw [tellings_eq_nil fun e he => Event.telling_eq_none (hn e he)]
  exact q.arp

theorem Learns.trans (l₁ : Learns h h₁) (l₂ : Learns h₁ h') : Learns h h' := by
  obtain ⟨new₁, hj₁, ht₁⟩ := l₁.table
  obtain ⟨new₂, hj₂, ht₂⟩ := l₂.table
  refine ⟨l₂.config.trans l₁.config, new₂ ++ new₁, ?_, ?_⟩
  · rw [hj₂, hj₁, List.append_assoc]
  · rw [ht₂, ht₁, tellings_append, List.foldl_append]

theorem learns_record (e : Event) (he : e.telling = none) : Learns h ((record e).run h).2 := by
  refine ⟨rfl, [e], rfl, ?_⟩
  rw [tellings_eq_nil (List.forall_mem_singleton.mpr he)]
  rfl

theorem learns_store (ip : Ip) (mac : Mac) (h : Host) : Learns h ((store ip mac).run h).2 := by
  rw [run_store]
  refine ⟨rfl, _ ++ [.stored ip mac (h.arp.insert? ip mac).isSome], by rw [List.append_assoc]; rfl, ?_⟩
  split <;> rfl

theorem learns_chore {X : Host → DeviceId → Bytes → Prop} (hc : Chore X h h') : Learns h h' := by
  rcases chore_cases hc with hc | ⟨d, f, -, rfl⟩ | ⟨d, rfl⟩ | ⟨ip, mac, rfl⟩
  · exact hc.toKeepsLink.learns
  · obtain ⟨r, hr⟩ := offer_eq d f h
    exact (learns_record (.offered d f r) rfl).trans hr.toKeepsLink.learns
  · rcases register_eq d h with ⟨h', hc, he | ⟨-, he⟩⟩
    · rw [he]
      exact hc.toKeepsLink.learns
    · rw [he]
      exact ⟨hc.config, hc.toKeepsLink.learns.table⟩
  · exact learns_store ip mac h

theorem covers_learns : Covers fun _ => Learns where
  toServes := by
    refine serves_of_deed ⟨fun h => (KeepsLink.refl h).learns, fun h => (KeepsLink.refl h).learns,
      Learns.trans⟩ ?_
    intro h h' hd
    cases hd with
    | chore hc => exact learns_chore hc
    | enter e he => exact learns_record e (by cases e <;> first | rfl | cases he)
    | connections => exact ⟨rfl, [], rfl, rfl⟩
  polling hc := (keepsLinkAndBoard_polling hc).toKeepsLink.learns

/-- **Along every run** the table changes by what is told. -/
theorem learns_leads {e : Bool} (hl : Leads e h h') : Learns h h' := covers_learns.leads hl

theorem isSome_get?_foldl_learn {l : List (Ip × Mac)} {t : Table} (ht : (t.get? ip).isSome) :
    ((l.foldl Table.learn t).get? ip).isSome := by
  induction l generalizing t with
  | nil => exact ht
  | cons p l ih => exact ih (Table.isSome_get?_learn ht p)

theorem empty_start {s : Setup} (hs : start s = .ok h) : h.arp = .empty h.config.arpCapacity := by
  rw [(eq_of_start hs).2]
  refine foldl_attach (P := fun h => h.arp = .empty h.config.arpCapacity) (fun h v hf => ?_) s.devices rfl
  unfold attach
  split <;> exact hf

/-- **A host's table** is what it has been told. -/
theorem Visited.arp_eq (hv : Visited h) :
    h.arp = told h.config.arpCapacity (tellings h.journal) := by
  obtain ⟨s, h₀, e, hs, hl⟩ := hv
  have l := learns_leads hl
  obtain ⟨new, hj, ht⟩ := l.table
  rw [(fresh_start hs).journal, List.append_nil] at hj
  rw [ht, hj, empty_start hs, l.config]
  rfl

/-! ## Looking up -/

theorem asked_offer (d : DeviceId) (f : Bytes) (h : Host) (e : DeviceId) :
    asked e ((offer d f).run h).2.journal = asked e h.journal ++ if d = e then [f] else [] := by
  obtain ⟨r, hr⟩ := offer_eq d f h
  obtain ⟨new, hj, hn⟩ := hr.journal
  rw [hj, asked, inOrder_append fun x hx => Event.askedOf_eq_none_of_onLink (hn x hx) e]
  change asked e (.offered d f r :: h.journal) = _
  by_cases he : d = e <;> simp [Event.askedOf, he]

/-- **Who looks up what is not known asks one question**, and gets no address. -/
theorem asked_lookup (hu : h.arp.get? ip = none) (d e : DeviceId) :
    asked e ((lookup d ip).run h).2.journal = asked e h.journal ++
      if d = e then [h.arpFrame d .broadcast Arp.request .zero ip] else [] := by
  have ha := asked_offer d (h.arpFrame d .broadcast Arp.request .zero ip) h e
  rw [← run_askFor] at ha
  unfold lookup
  rw [act_get, hu]
  dsimp only
  rw [StateT.run_bind]
  generalize (askFor d ip).run h = r at ha ⊢
  obtain ⟨r, h'⟩ := r
  cases r with
  | ok _ => exact ha
  | error x =>
    refine Eq.trans ?_ ha
    change asked e (.noticed (.arpRequestFailed ip x) :: h'.journal) = _
    simp [Event.askedOf]

end Host

end InetHost
