import InetHost.Proofs.Exchange.Intake
import InetHost.Proofs.Exchange.Learning
import InetHost.Proofs.Queue.Ledger
import InetHost.Proofs.Run.Deed

/-!
# Listeners come and never go

A host keeps its listeners in two rolls, one for connections and one for datagrams. A roll grows at its
end only, so a listener keeps its number and its port.

* `acceptorRoll`, `subscriberRoll`: the rolls, without the counts of calls;
* `Enrols`, **`enrols_leads`**: along every run the rolls grow at their ends, and no port gets a second
  listener for connections;
* `mem_subscribersOf_iff`, `subscribersOf_subscribe`, `Enrols.subscribersOf`: the listeners of a port for
  datagrams;
* `run_listen_free`, `run_listen_taken`, `Enrols.acceptor?`, **`Visited.acceptor?_iff`**: the listener of a
  port for connections.
-/

namespace InetHost.Host

variable {h h₁ h' : Host} {port : UInt16} {a u : Nat}

/-! ## The rolls -/

/-- The listeners for connections, in the order in which they came. -/
def acceptorRoll (h : Host) : List (UInt16 × StreamService) :=
  h.acceptors.map fun l => (l.port, l.service)

/-- The listeners for datagrams, in the order in which they came. -/
def subscriberRoll (h : Host) : List (UInt16 × DatagramService) :=
  h.subscribers.map fun l => (l.port, l.service)

/-- **Listeners come and never go.** -/
structure Enrols (h h' : Host) : Prop where
  acceptors : h.acceptorRoll <+: h'.acceptorRoll
  subscribers : h.subscriberRoll <+: h'.subscriberRoll
  /-- No port gets a second listener for connections. -/
  distinct : (h.acceptorRoll.map (·.1)).Nodup → (h'.acceptorRoll.map (·.1)).Nodup

theorem enrols_of_eq (ha : h'.acceptorRoll = h.acceptorRoll)
    (hs : h'.subscriberRoll = h.subscriberRoll) : Enrols h h' := by
  refine ⟨ha ▸ List.prefix_rfl, hs ▸ List.prefix_rfl, fun hn => ?_⟩
  rwa [ha]

theorem Enrols.refl (h : Host) : Enrols h h := enrols_of_eq rfl rfl

theorem Enrols.trans (e₁ : Enrols h h₁) (e₂ : Enrols h₁ h') : Enrols h h' where
  acceptors := e₁.acceptors.trans e₂.acceptors
  subscribers := e₁.subscribers.trans e₂.subscribers
  distinct hn := e₂.distinct (e₁.distinct hn)

instance : Std.Refl Enrols := ⟨Enrols.refl⟩

instance : IsTrans Host Enrols := ⟨fun _ _ _ => Enrols.trans⟩

theorem getElem?_of_begins {α : Type} {l l' : List α} {i : Nat} {x : α} (hp : l <+: l')
    (hx : l[i]? = some x) : l'[i]? = some x := by
  obtain ⟨t, rfl⟩ := hp
  rw [List.getElem?_append_left (List.getElem?_eq_some_iff.mp hx).1, hx]

/-! ### One more listener -/

theorem acceptor?_eq (h : Host) (port : UInt16) :
    h.acceptor? port = h.acceptorRoll.findIdx? (·.1 == port) := by
  unfold acceptor? acceptorRoll
  rw [List.findIdx?_map]
  rfl

theorem acceptor?_eq_none : h.acceptor? port = none ↔ port ∉ h.acceptorRoll.map (·.1) := by
  rw [acceptor?_eq, List.findIdx?_eq_none_iff, List.mem_map]
  constructor
  · rintro hn ⟨l, hl, rfl⟩
    simpa using hn l hl
  · intro hn l hl
    exact beq_false_of_ne fun hp => hn ⟨l, hl, hp⟩

/-- **A port that has a listener for connections** gets no other, and nothing changes. -/
theorem run_listen_taken (ha : h.acceptor? port = some a) (service : StreamService) :
    (listen port service).run h = (.error .portTaken, h) := by
  unfold listen
  rw [act_get, ha]
  rfl

/-- **A port that has none** gets the listener. -/
theorem run_listen_free (ha : h.acceptor? port = none) (service : StreamService) :
    (listen port service).run h =
      (.ok (), { h with acceptors := h.acceptors ++ [⟨port, service, 0⟩] }) := by
  unfold listen
  rw [act_get, ha]
  rfl

theorem acceptorRoll_append (h : Host) (l : List Acceptor) :
    acceptorRoll { h with acceptors := h.acceptors ++ l } =
      h.acceptorRoll ++ l.map fun l => (l.port, l.service) :=
  List.map_append

theorem enrols_listen (port : UInt16) (service : StreamService) (h : Host) :
    Does Enrols h (listen port service) := by
  unfold Does
  cases ha : h.acceptor? port with
  | some a =>
    rw [run_listen_taken ha]
    exact .refl h
  | none =>
    rw [run_listen_free ha]
    have hn := acceptor?_eq_none.mp ha
    refine ⟨?_, List.prefix_rfl, fun hd => ?_⟩
    · rw [acceptorRoll_append]
      exact List.prefix_append _ _
    · rw [acceptorRoll_append, List.map_append]
      refine List.nodup_append.mpr ⟨hd, List.nodup_singleton _, ?_⟩
      rintro p hp q hq rfl
      obtain rfl : p = port := List.mem_singleton.mp hq
      exact hn hp

theorem subscriberRoll_subscribe (port : UInt16) (service : DatagramService) (h : Host) :
    ((subscribe port service).run h).2.subscriberRoll = h.subscriberRoll ++ [(port, service)] :=
  List.map_append

/-! ## Every run -/

theorem enrols_handling (hh : Handling h h') : Enrols h h' := by
  cases hh <;> exact enrols_of_eq rfl rfl

theorem enrols_chore {X : Host → DeviceId → Bytes → Prop} (hc : Chore X h h') : Enrols h h' := by
  cases hc with
  | offer d f => exact of_handlings enrols_handling (handlings_offer d f)
  | register d =>
    obtain ⟨os, j, hr⟩ := run_register d h
    rw [hr]
    exact enrols_of_eq rfl rfl
  | store ip mac =>
    rw [run_store]
    exact enrols_of_eq rfl rfl
  | listen port service => exact enrols_listen port service h
  | subscribe port service =>
    refine ⟨List.prefix_rfl, ?_, id⟩
    rw [subscriberRoll_subscribe]
    exact List.prefix_append _ _
  | enqueue q t => exact of_handlings enrols_handling (handlings_enqueue q t)
  | countAccept a n =>
    refine enrols_of_eq ?_ rfl
    refine Eq.trans (map_modify _ id ?_ _ _) (List.modify_id _ _)
    intro l
    rfl
  | countNotify u n =>
    refine enrols_of_eq rfl ?_
    refine Eq.trans (map_modify _ id ?_ _ _) (List.modify_id _ _)
    intro l
    rfl
  | _ => exact enrols_of_eq rfl rfl

theorem enrols_polling (hp : Polling h h') : Enrols h h' := by
  cases hp with
  | next q =>
    cases hq : h.queue q with
    | nil =>
      rw [run_next_empty hq]
      exact .refl h
    | cons j rest =>
      rw [run_next hq]
      exact enrols_of_eq rfl rfl
  | transmitNext d => exact of_handlings enrols_handling (handlings_transmitNext d)
  | dequeued | deserted | drained => exact enrols_of_eq rfl rfl

theorem covers_enrols : Covers fun _ => Enrols where
  toServes := by
    refine serves_of_deed ⟨Enrols.refl, Enrols.refl, Enrols.trans⟩ fun hd => ?_
    cases hd with
    | chore hc => exact enrols_chore hc
    | enter | connections => exact enrols_of_eq rfl rfl
  polling := enrols_polling

/-- **Along every run** the rolls grow at their ends. -/
theorem enrols_leads {e : Bool} (hl : Leads e h h') : Enrols h h' := covers_enrols.leads hl

/-! ## Listeners for datagrams -/

theorem length_subscriberRoll (h : Host) : h.subscriberRoll.length = h.subscribers.length :=
  List.length_map _

theorem subscribersOf_eq (h : Host) (port : UInt16) : h.subscribersOf port =
    (List.range h.subscriberRoll.length).filter fun u =>
      (h.subscriberRoll.getD u (0, .echo)).1 == port := by
  unfold subscribersOf
  rw [length_subscriberRoll]
  refine List.filter_congr fun u hu => ?_
  have hu := List.mem_range.mp hu
  unfold subscriberRoll
  simp [hu]

theorem mem_subscribersOf_iff :
    u ∈ h.subscribersOf port ↔ ∃ service, h.subscriberRoll[u]? = some (port, service) := by
  rw [subscribersOf_eq, List.mem_filter, List.mem_range]
  constructor
  · rintro ⟨hu, hp⟩
    refine ⟨h.subscriberRoll[u].2, ?_⟩
    rw [List.getElem?_eq_getElem hu]
    have hp : h.subscriberRoll[u].1 = port := by simpa [hu] using hp
    rw [← hp]
  · rintro ⟨service, hs⟩
    obtain ⟨hu, he⟩ := List.getElem?_eq_some_iff.mp hs
    exact ⟨hu, by simp [hu, he]⟩

/-- What is put at the end of a roll comes after the listeners of a port that are there. -/
theorem subscribersOf_of_append {l : List (UInt16 × DatagramService)}
    (hr : h'.subscriberRoll = h.subscriberRoll ++ l) : h'.subscribersOf port = h.subscribersOf port ++
      ((List.range l.length).filter fun u => (l.getD u (0, .echo)).1 == port).map
        (h.subscribers.length + ·) := by
  rw [subscribersOf_eq, subscribersOf_eq, hr, List.length_append, List.range_add, List.filter_append,
    List.filter_map, length_subscriberRoll]
  congr 1
  · refine List.filter_congr fun u hu => ?_
    have hu : u < h.subscriberRoll.length := by
      rw [length_subscriberRoll]
      exact List.mem_range.mp hu
    rw [List.getD_append _ _ _ _ hu]
  · congr 1
    refine List.filter_congr fun u _ => ?_
    have hl : h.subscriberRoll.length ≤ h.subscribers.length + u := by
      rw [length_subscriberRoll]
      exact Nat.le_add_right _ _
    rw [Function.comp_apply, List.getD_append_right _ _ _ _ hl, length_subscriberRoll,
      Nat.add_sub_cancel_left]

/-- **The listeners of a port stay**, and others come after them. -/
theorem Enrols.subscribersOf (e : Enrols h h') (port : UInt16) :
    h.subscribersOf port <+: h'.subscribersOf port := by
  obtain ⟨l, hl⟩ := e.subscribers
  rw [subscribersOf_of_append hl.symm]
  exact List.prefix_append _ _

/-- **A new listener comes last** at its port, and at no other. -/
theorem subscribersOf_subscribe (p port : UInt16) (service : DatagramService) (h : Host) :
    ((subscribe p service).run h).2.subscribersOf port =
      h.subscribersOf port ++ if p = port then [h.subscribers.length] else [] := by
  rw [subscribersOf_of_append (subscriberRoll_subscribe p service h)]
  congr 1
  by_cases hp : p = port
  · simp [hp]
  · simp [hp]

/-! ## Listeners for connections -/

theorem Enrols.acceptor? (e : Enrols h h') (ha : h.acceptor? port = some a) :
    h'.acceptor? port = some a := by
  obtain ⟨l, hl⟩ := e.acceptors
  rw [acceptor?_eq] at ha ⊢
  rw [← hl, List.findIdx?_append, ha]
  rfl

theorem nodup_start {s : Setup} (hs : start s = .ok h) : (h.acceptorRoll.map (·.1)).Nodup := by
  have hn : h.acceptors = [] := by
    rw [(eq_of_start hs).2]
    refine foldl_attach (P := fun h => h.acceptors = []) (fun h v hf => ?_) s.devices rfl
    unfold attach
    split <;> exact hf
  unfold acceptorRoll
  rw [hn]
  exact List.nodup_nil

/-- A port has one listener for connections at most. -/
theorem Visited.nodup (hv : Visited h) : (h.acceptorRoll.map (·.1)).Nodup := by
  obtain ⟨s, h₀, e, hs, hl⟩ := hv
  exact (enrols_leads hl).distinct (nodup_start hs)

theorem Visited.acceptor?_iff (hv : Visited h) :
    h.acceptor? port = some a ↔ ∃ service, h.acceptorRoll[a]? = some (port, service) := by
  rw [acceptor?_eq, List.findIdx?_eq_some_iff_getElem]
  constructor
  · rintro ⟨ha, hp, -⟩
    refine ⟨h.acceptorRoll[a].2, ?_⟩
    rw [List.getElem?_eq_getElem ha, ← eq_of_beq hp]
  · rintro ⟨service, hs⟩
    obtain ⟨ha, he⟩ := List.getElem?_eq_some_iff.mp hs
    refine ⟨ha, by simp [he], fun j hj hp => ?_⟩
    -- a listener before it for the same port would be a second one
    have hlt := List.pairwise_iff_getElem.mp (List.pairwise_map.mp hv.nodup) j a (Nat.lt_trans hj ha) ha hj
    exact hlt (by rw [eq_of_beq hp, he])

end InetHost.Host
