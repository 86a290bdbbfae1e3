import InetHost.Proofs.Exchange.Reading
import InetHost.Proofs.Queue.Books
import InetHost.Proofs.Run.Stint

/-!
# Who owns an address

An address belongs to the first device that was presented with it. That it has an owner is reported once,
and it keeps the owner.

* `presentations`, `registrations`: the devices that were presented, and the addresses that were reported to
  have an owner, one after another;
* `Unpresented`: nobody was presented; **`Stint.unpresented`**: nobody is in a stint;
* `Elsewhere inner`: what is presented is presented by operations inside, or by frames that were deferred;
  **`elsewhere_perform`**: so it is with every operation, once it has presented its device;
* `Enrolled`, **`Visited.enrolled`**: the owners of a host are those that its journal tells;
* **`owner?_leads`**: an owner stays.
-/

namespace InetHost

/-- The device that was presented. -/
def Event.presentation : Event → Option DeviceId
  | .presented d => some d
  | _ => none

/-- The address that was reported to have an owner. -/
def Event.registration : Event → Option Ip
  | .noticed (.registered ip) => some ip
  | _ => none

/-- The devices that were presented, one after another. -/
def presentations (j : List Event) : List DeviceId := inOrder Event.presentation j

/-- The addresses that were reported to have an owner, one after another. -/
def registrations (j : List Event) : List Ip := inOrder Event.registration j

theorem Event.presentation_eq_none {e : Event} (he : e.isPlain = true) : e.presentation = none := by
  cases e <;> first | rfl | cases he

theorem Event.registration_eq_none {e : Event} (he : e.isPlain = true) : e.registration = none := by
  cases e with
  | noticed n => cases n <;> first | rfl | cases he
  | _ => rfl

namespace Host

variable {h h₁ h' : Host} {d : DeviceId} {ip : Ip} {inner : Exec}

/-! ## Nobody is presented -/

/-- **Nobody was presented**, and nobody became an owner. -/
structure Unpresented (h h' : Host) : Prop where
  presentations : presentations h'.journal = presentations h.journal
  registrations : registrations h'.journal = registrations h.journal
  owners : h'.owners = h.owners
  ip : ∀ d, (h'.device d).ip = (h.device d).ip

theorem Plainly.unpresented (p : Plainly h h') : Unpresented h h' := by
  obtain ⟨new, hj, hn⟩ := p.journal
  refine ⟨?_, ?_, p.owners, p.ip⟩
  · rw [hj]
    exact inOrder_append fun e he => Event.presentation_eq_none (hn e he)
  · rw [hj]
    exact inOrder_append fun e he => Event.registration_eq_none (hn e he)

/-- **Nobody is presented in a stint.** -/
theorem Stint.unpresented (ht : Stint h h') : Unpresented h h' := by
  cases ht with
  | plain hp => exact hp.unpresented
  | segment c d s t data =>
    have hu : Unpresented h ((sendPacket (.withRoom headroom (Tcp.encode s t data)) Ipv4.tcp
      s.peer.ip d).run h).2 := plainly_sendPacket.unpresented
    unfold sendSegment
    rw [StateT.run_bind]
    generalize (sendPacket _ Ipv4.tcp s.peer.ip d).run h = r at hu ⊢
    -- what was sent is entered in the journal, and tells of no device
    exact ⟨hu.presentations, hu.registrations, hu.owners, hu.ip⟩

/-- **What is presented in a run is presented elsewhere**: by an operation that application code asks for,
or by a frame that was deferred. -/
inductive Elsewhere (inner : Exec) : Bool → Host → Host → Prop
  | nobody {h h' : Host} (hu : Unpresented h h') : Elsewhere inner true h h'
  | cut (h : Host) : Elsewhere inner false h h
  | trans {e : Bool} {h h₁ h₂ : Host} (h₁₂ : Elsewhere inner true h h₁) (h₂₃ : Elsewhere inner e h₁ h₂) :
    Elsewhere inner e h h₂
  | asked (x : Context) (op : Op) (h : Host) :
    Elsewhere inner ((inner x op).run h).1.isSome h ((inner x op).run h).2
  | deferred {h : Host} {q : QueueId} {d : DeviceId} {b : Bytes}
    (hj : h.journal.head? = some (.started q (.frame d b))) (hb : Ethernet.isPacket b = true) :
    Elsewhere inner true h ((register d).run h).2

theorem tracks_elsewhere (inner : Exec) : Tracks (Elsewhere inner) where
  refl _ := .nobody ⟨rfl, rfl, rfl, fun _ => rfl⟩
  cut := .cut
  trans := .trans
  stint ht := .nobody ht.unpresented
  deferred := .deferred

/-- **An operation presents its device**, if it has one, and nobody else does but elsewhere. -/
theorem elsewhere_perform (inner : Exec) (fuel : Nat) (x : Context) (op : Op) (h : Host) :
    Since (Elsewhere inner) (h.presenting (op.presents x)) h (perform inner fuel x op) :=
  (tracks_elsewhere inner).perform .asked ((tracks_elsewhere inner).refl _) fuel

/-! ## Owners -/

/-- **The owners of a host are those that its journal tells.** -/
structure Enrolled (h : Host) : Prop where
  /-- An address belongs to the first device with it that was presented. -/
  first : ∀ ip, h.owner? ip = (presentations h.journal).find? fun d => (h.device d).ip = ip
  /-- Every owner was reported, in the order in which they came. -/
  told : registrations h.journal = h.owners.map Prod.fst
  /-- No address has two owners. -/
  distinct : (h.owners.map Prod.fst).Nodup

theorem isSome_owner? : (h.owner? ip).isSome ↔ ip ∈ h.owners.map Prod.fst := by
  unfold owner?
  simp

/-- An address is reported once to have an owner, if it has one. -/
theorem Enrolled.count (he : Enrolled h) (ip : Ip) :
    (registrations h.journal).count ip = if (h.owner? ip).isSome then 1 else 0 := by
  rw [he.told]
  split
  · rename_i ho
    exact List.count_eq_one_of_mem he.distinct (isSome_owner?.mp ho)
  · rename_i ho
    exact List.count_eq_zero_of_not_mem (mt isSome_owner?.mpr ho)

theorem Unpresented.enrolled (hu : Unpresented h h') (he : Enrolled h) : Enrolled h' where
  first ip := by
    have ho : h'.owner? ip = h.owner? ip := congrArg (List.lookup ip) hu.owners
    rw [ho, he.first, hu.presentations]
    simp only [hu.ip]
  told := by rw [hu.registrations, he.told, hu.owners]
  distinct := hu.owners ▸ he.distinct

/-- **One more presentation** is entered in the journal, … -/
theorem presentations_register (d : DeviceId) (h : Host) :
    presentations ((register d).run h).2.journal = presentations h.journal ++ [d] := by
  rcases register_cases d h with ⟨-, hr⟩ | ⟨-, hr⟩
  · rw [hr]
    exact inOrder_cons Event.presentation (.presented d) h.journal
  · rw [hr]
    exact inOrder_both Event.presentation [_, .presented d] h.journal

/-- … and changes no owner. It makes one, if the address of the device has none. -/
theorem owner?_register (d : DeviceId) (ip : Ip) (h : Host) :
    ((register d).run h).2.owner? ip =
      (h.owner? ip).or (if (h.device d).ip = ip then some d else none) := by
  rcases register_cases d h with ⟨ho, hr⟩ | ⟨ho, hr⟩
  · rw [hr]
    change h.owner? ip = _
    split
    · rename_i hi
      rw [← hi]
      obtain ⟨e, he⟩ := Option.isSome_iff_exists.mp ho
      rw [he]
      rfl
    · exact Option.or_none.symm
  · rw [hr]
    unfold owner?
    rw [List.lookup_append]
    congr 1
    by_cases hi : (h.device d).ip = ip
    · simp [hi]
    · simp [List.lookup_cons, hi, beq_false_of_ne (Ne.symm hi)]

theorem registrations_register (d : DeviceId) (h : Host) : ∃ l,
    ((register d).run h).2.owners = h.owners ++ l ∧
      registrations ((register d).run h).2.journal = registrations h.journal ++ l.map Prod.fst ∧
      (l = [] ∨ l = [((h.device d).ip, d)] ∧ h.owner? (h.device d).ip = none) := by
  rcases register_cases d h with ⟨-, hr⟩ | ⟨ho, hr⟩
  · rw [hr]
    exact ⟨[], (List.append_nil _).symm, inOrder_both Event.registration [.presented d] h.journal, .inl rfl⟩
  · rw [hr]
    exact ⟨_, rfl, inOrder_both Event.registration [_, .presented d] h.journal, .inr ⟨rfl, ho⟩⟩

theorem Enrolled.register (he : Enrolled h) (d : DeviceId) : Enrolled ((register d).run h).2 where
  first ip := by
    obtain ⟨os, j, hr⟩ := run_register d h
    have hd : ∀ e, ((Host.register d).run h).2.device e = h.device e := fun e => by
      rw [hr]
      rfl
    rw [owner?_register, he.first, presentations_register, List.find?_append]
    simp only [hd]
    congr 1
    by_cases hi : (h.device d).ip = ip <;> simp [hi]
  told := by
    obtain ⟨l, ho, ht, -⟩ := registrations_register d h
    rw [ho, ht, he.told, List.map_append]
  distinct := by
    obtain ⟨l, ho, -, rfl | ⟨rfl, hn⟩⟩ := registrations_register d h
    · rw [ho, List.append_nil]
      exact he.distinct
    · rw [ho, List.map_append, List.nodup_append]
      refine ⟨he.distinct, List.nodup_singleton _, fun a ha b hb hab => ?_⟩
      -- an address that has an owner would not get another
      rw [hab, List.mem_singleton.mp hb] at ha
      have hs := isSome_owner?.mpr ha
      rw [hn] at hs
      cases hs

/-! ## Every run -/

/-- **An owner stays**, whatever happens. -/
theorem owner?_leads {e : Bool} (hl : Leads e h h') (ho : h.owner? ip = some d) :
    h'.owner? ip = some d := by
  refine preserved_leads (P := fun h => h.owner? ip = some d) (fun ht ho => ?_) (fun e h ho => ?_) hl ho
  · rw [← ho]
    exact congrArg (List.lookup ip) ht.unpresented.owners
  · rw [owner?_register, ho]
    rfl

theorem enrolled_leads {e : Bool} (hl : Leads e h h') (he : Enrolled h) : Enrolled h' :=
  preserved_leads (fun ht => ht.unpresented.enrolled) (fun d _ he => he.register d) hl he

/-- **Every host has such owners**, whatever it was used for. -/
theorem Visited.enrolled (hv : Visited h) : Enrolled h := by
  obtain ⟨s, h₀, e, hs, hl⟩ := hv
  have hf := fresh_start hs
  refine enrolled_leads hl ⟨fun ip => ?_, ?_, ?_⟩
  · unfold owner?
    rw [hf.owners, hf.journal]
    rfl
  · rw [hf.owners, hf.journal]
    rfl
  · rw [hf.owners]
    exact List.nodup_nil

end Host

end InetHost
