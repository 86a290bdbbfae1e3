import InetHost.Proofs.Stream.Switchboard

/-!
# What chores leave alone

Most of what a host does touches neither its connections nor what it knows of the link. Three things
do: a frame is offered, a device is registered, a link address is stored.

* `KeepsLink`: addresses, owners and the configuration stay, and no event of the link is entered;
* `KeepsLinkAndBoard`: nor does the switchboard change;
* **`chore_cases`**: a chore leaves link and switchboard as they are, or is one of the three things;
* **`board_chores`**: chores leave the switchboard as it is.
-/

namespace InetHost

/-- A frame is offered, or a link address is to be stored. -/
def Event.onLink : Event → Bool
  | .offered _ _ _ | .stored _ _ _ => true
  | _ => false

theorem Event.onLink_of_isCall {e : Event} (he : e.isCall = true) : e.onLink = false := by
  cases e <;> first | rfl | cases he

namespace Host

variable {h h₁ h₂ : Host}

/-! ## The link and the switchboard -/

/-- **Nothing happened on the link.** -/
structure KeepsLink (h h' : Host) : Prop where
  config : h'.config = h.config
  arp : h'.arp = h.arp
  owners : h'.owners = h.owners
  mac : ∀ d, (h'.device d).mac = (h.device d).mac
  ip : ∀ d, (h'.device d).ip = (h.device d).ip
  journal : ∃ new, h'.journal = new ++ h.journal ∧ ∀ e ∈ new, e.onLink = false

theorem keepsLink_of_eq (hc : h₁.config = h.config) (ha : h₁.arp = h.arp) (ho : h₁.owners = h.owners)
    (hd : h₁.devices = h.devices) (hj : h₁.journal = h.journal) : KeepsLink h h₁ := by
  have hd' : ∀ d, h₁.device d = h.device d := fun d => congrArg (·.getD d default) hd
  exact ⟨hc, ha, ho, fun d => by rw [hd'], fun d => by rw [hd'], [], hj, List.forall_mem_nil _⟩

theorem KeepsLink.refl (h : Host) : KeepsLink h h := keepsLink_of_eq rfl rfl rfl rfl rfl

theorem KeepsLink.trans (q₁ : KeepsLink h h₁) (q₂ : KeepsLink h₁ h₂) : KeepsLink h h₂ where
  config := q₂.config.trans q₁.config
  arp := q₂.arp.trans q₁.arp
  owners := q₂.owners.trans q₁.owners
  mac d := (q₂.mac d).trans (q₁.mac d)
  ip d := (q₂.ip d).trans (q₁.ip d)
  journal := extends_trans q₁.journal q₂.journal

instance : Std.Refl KeepsLink := ⟨KeepsLink.refl⟩

instance : IsTrans Host KeepsLink := ⟨fun _ _ _ => KeepsLink.trans⟩

theorem keepsLink_record {e : Event} (he : e.onLink = false) : Does KeepsLink h (record e) :=
  ⟨rfl, rfl, rfl, fun _ => rfl, fun _ => rfl, [e], rfl, fun _ hx => List.mem_singleton.mp hx ▸ he⟩

/-- Two hosts have the same switchboard. -/
def SameBoard (h h' : Host) : Prop := h'.board = h.board

instance : Std.Refl SameBoard := ⟨fun _ => rfl⟩

instance : IsTrans Host SameBoard := ⟨fun _ _ _ h₁₂ h₂₃ => h₂₃.trans h₁₂⟩

theorem sameBoard_record {e : Event} (he : e.onBoard = false) : Does SameBoard h (record e) := by
  change _ = _
  rw [board_record, if_neg (by simp [he])]

/-- **Nothing happened on the link or to connections.** -/
structure KeepsLinkAndBoard (h h' : Host) : Prop extends KeepsLink h h' where
  board : SameBoard h h'

instance : Std.Refl KeepsLinkAndBoard := ⟨fun h => ⟨.refl h, rfl⟩⟩

instance : IsTrans Host KeepsLinkAndBoard :=
  ⟨fun _ _ _ c₁ c₂ => ⟨c₁.toKeepsLink.trans c₂.toKeepsLink, c₂.board.trans c₁.board⟩⟩

theorem keepsLinkAndBoard_record {e : Event} (hl : e.onLink = false) (hb : e.onBoard = false) :
    Does KeepsLinkAndBoard h (record e) :=
  ⟨keepsLink_record hl, sameBoard_record hb⟩

theorem keepsLinkAndBoard_of_eq (hc : h₁.config = h.config) (ha : h₁.arp = h.arp) (ho : h₁.owners = h.owners)
    (hd : h₁.devices = h.devices) (hj : h₁.journal = h.journal) (hb : SameBoard h h₁) :
    KeepsLinkAndBoard h h₁ :=
  ⟨keepsLink_of_eq hc ha ho hd hj, hb⟩

theorem keepsLinkAndBoard_devices {d : DeviceId} {f : Device → Device}
    (hf : ∀ v, (f v).mac = v.mac ∧ (f v).ip = v.ip) :
    KeepsLinkAndBoard h { h with devices := h.devices.modify d f } := by
  have hg : ∀ {α : Type} (g : Device → α), (∀ v, g (f v) = g v) → ∀ d',
      g ((h.devices.modify d f).getD d' default) = g (h.device d') := fun g hg d' => by
    have hm := List.getD_map (h.devices.modify d f) default g (n := d')
    rw [map_modify g id hg, List.modify_id, List.getD_map] at hm
    exact hm.symm
  have hb : SameBoard h { h with devices := h.devices.modify d f } := by
    unfold SameBoard board
    rw [map_modify _ id fun v => (hf v).2, List.modify_id]
  exact ⟨⟨rfl, rfl, rfl, hg _ fun v => (hf v).1, hg _ fun v => (hf v).2, [], rfl,
    List.forall_mem_nil _⟩, hb⟩

/-! ## Acts that leave both alone -/

theorem keepsLinkAndBoard_note (n : Notice) : Does KeepsLinkAndBoard h (note n) :=
  keepsLinkAndBoard_record rfl rfl

theorem keepsLinkAndBoard_modifyStaged (d : DeviceId) (f : List Bytes → List Bytes) :
    Does KeepsLinkAndBoard h (modifyStaged d f) :=
  keepsLinkAndBoard_devices fun _ => ⟨rfl, rfl⟩

theorem keepsLinkAndBoard_transmit (d : DeviceId) (f : Bytes) : Does KeepsLinkAndBoard h (transmit d f) := by
  refine Does.get (Does.bind (x := useHardware d) (keepsLinkAndBoard_devices fun _ => ⟨rfl, rfl⟩) ?_)
  refine Does.bind (keepsLinkAndBoard_record rfl rfl) ?_
  split
  · exact Does.pure _
  · exact Does.bind (keepsLinkAndBoard_record rfl rfl) (Does.pure _)

theorem keepsLinkAndBoard_put (q : QueueId) (j : Job) : Does KeepsLinkAndBoard h (put q j) :=
  Does.bind (x := modify _) (keepsLinkAndBoard_of_eq rfl rfl rfl rfl rfl rfl)
    (keepsLinkAndBoard_record rfl rfl)

theorem keepsLinkAndBoard_modifyTask (t : TaskId) (f : Task → Task) :
    Does KeepsLinkAndBoard h (modifyTask t f) :=
  keepsLinkAndBoard_of_eq rfl rfl rfl rfl rfl rfl

theorem keepsLinkAndBoard_enqueue (q : QueueId) (t : TaskId) : Does KeepsLinkAndBoard h (enqueue q t) := by
  refine Does.get ?_
  split
  · exact Does.pure _
  · exact Does.bind (keepsLinkAndBoard_modifyTask t _) (keepsLinkAndBoard_put q _)

theorem keepsLinkAndBoard_transmitNext (d : DeviceId) : Does KeepsLinkAndBoard h (transmitNext d) := by
  refine Does.get ?_
  dsimp only
  split
  · exact Does.pure _
  · split
    · exact Does.pure _
    · refine Does.bind (keepsLinkAndBoard_modifyStaged d _) (Does.bind (keepsLinkAndBoard_transmit d _) ?_)
      split
      · split
        · exact Does.pure _
        · exact keepsLinkAndBoard_enqueue _ _
      · refine Does.bind (keepsLinkAndBoard_note _) ?_
        split
        · exact Does.pure _
        · exact keepsLinkAndBoard_enqueue _ _

theorem keepsLinkAndBoard_listen (port : UInt16) (service : StreamService) :
    Does KeepsLinkAndBoard h (listen port service) := by
  refine Does.get ?_
  split
  · exact Does.pure _
  · exact Does.bind (x := modify _) (keepsLinkAndBoard_of_eq rfl rfl rfl rfl rfl rfl) (Does.pure _)

theorem keepsLinkAndBoard_next (q : QueueId) : Does KeepsLinkAndBoard h (next? q) := by
  refine Does.get ?_
  split
  · exact Does.pure _
  · refine Does.bind (x := modify _) (keepsLinkAndBoard_of_eq rfl rfl rfl rfl rfl rfl) ?_
    exact Does.bind (keepsLinkAndBoard_record rfl rfl) (Does.pure _)

theorem keepsLinkAndBoard_reads (c : ConnId) (n : Nat) :
    KeepsLinkAndBoard h { h with connections := h.connections.modify c ({ · with reads := n }) } := by
  have hl : (h.connections.modify c ({ · with reads := n })).map (·.line) =
      h.connections.map (·.line) := by
    refine Eq.trans (map_modify _ id ?_ _ _) (List.modify_id _ _)
    intro k
    rfl
  have hb : SameBoard h { h with connections := h.connections.modify c ({ · with reads := n }) } :=
    congrArg (fun l => ({ h.board with lines := l } : Switchboard)) hl
  exact keepsLinkAndBoard_of_eq rfl rfl rfl rfl rfl hb

/-! ## The three others -/

/-- A frame is offered, and what follows leaves link and switchboard alone. -/
theorem offer_eq (d : DeviceId) (f : Bytes) (h : Host) :
    ∃ r, KeepsLinkAndBoard ((record (.offered d f r)).run h).2 ((offer d f).run h).2 := by
  unfold offer
  rw [act_get]
  dsimp only
  cases (h.device d).staging with
  | none => exact ⟨(h.device d).failure, keepsLinkAndBoard_transmit d f⟩
  | some s =>
    have hs : ∀ h, Does KeepsLinkAndBoard h (do
        modifyStaged d (· ++ [f])
        enqueue s.queue s.task
        return .ok () : Act (Except NetError Unit)) := fun h =>
      Does.bind (keepsLinkAndBoard_modifyStaged d _) (Does.bind (keepsLinkAndBoard_enqueue _ _) (Does.pure _))
    exact ⟨none, hs _⟩

theorem register_eq (d : DeviceId) (h : Host) :
    ∃ h', KeepsLinkAndBoard h h' ∧ (((register d).run h).2 = h' ∨ h.owner? (h.device d).ip = none ∧
      ((register d).run h).2 = { h' with owners := h'.owners ++ [((h.device d).ip, d)] }) := by
  have hp : ∀ {h : Host}, Does KeepsLinkAndBoard h (record (.presented d)) :=
    keepsLinkAndBoard_record rfl rfl
  cases ho : h.owner? (h.device d).ip with
  | some d' =>
    refine ⟨_, hp, .inl ?_⟩
    change ((if (h.owner? (h.device d).ip).isNone then _ else _ : Act Unit) _).2 = _
    rw [ho]
    rfl
  | none =>
    have hn : Does KeepsLinkAndBoard h (do
        record (.presented d)
        note (.registered (h.device d).ip) : Act Unit) :=
      Does.bind hp (keepsLinkAndBoard_note _)
    refine ⟨_, hn, .inr ⟨rfl, ?_⟩⟩
    change ((if (h.owner? (h.device d).ip).isNone then _ else _ : Act Unit) _).2 = _
    rw [ho]
    rfl

theorem store_eq (ip : Ip) (mac : Mac) (h : Host) :
    (∃ t, h.arp.insert? ip mac = some t ∧
      ((store ip mac).run h).2 = ((record (.stored ip mac true)).run { h with arp := t }).2) ∨
    KeepsLinkAndBoard ((record (.stored ip mac false)).run h).2 ((store ip mac).run h).2 := by
  unfold store
  rw [act_get]
  cases h.arp.insert? ip mac with
  | some t => exact .inl ⟨t, rfl, rfl⟩
  | none => exact .inr (keepsLinkAndBoard_note _)

/-! ## Chores -/

variable {X : Host → DeviceId → Bytes → Prop} {h' : Host}

/-- **A chore leaves link and switchboard alone**, or something happens on the link. -/
theorem chore_cases (hc : Chore X h h') : KeepsLinkAndBoard h h' ∨
    (∃ d f, (Framed h d f ∨ X h d f) ∧ h' = ((offer d f).run h).2) ∨
    (∃ d, h' = ((register d).run h).2) ∨ ∃ ip mac, h' = ((store ip mac).run h).2 := by
  cases hc with
  | record e he =>
    refine .inl (keepsLinkAndBoard_record ?_ ?_) <;> cases e <;> first | rfl | cases he
  | offer d f hf => exact .inr (.inl ⟨d, f, hf, rfl⟩)
  | register d => exact .inr (.inr (.inl ⟨d, rfl⟩))
  | store ip mac => exact .inr (.inr (.inr ⟨ip, mac, rfl⟩))
  | listen port service => exact .inl (keepsLinkAndBoard_listen port service)
  | put q j => exact .inl (keepsLinkAndBoard_put q j)
  | enqueue q t => exact .inl (keepsLinkAndBoard_enqueue q t)
  | device d f hf => exact .inl (keepsLinkAndBoard_devices fun v => ⟨(hf v).1, (hf v).2.1⟩)
  | countRead c n => exact .inl (keepsLinkAndBoard_reads c n)
  | subscribe | defineTask | countRun | countAccept | countNotify | lend =>
    exact .inl (keepsLinkAndBoard_of_eq rfl rfl rfl rfl rfl rfl)

theorem keepsLinkAndBoard_polling (hp : Polling h h') : KeepsLinkAndBoard h h' := by
  cases hp with
  | next q => exact keepsLinkAndBoard_next q
  | dequeued t => exact keepsLinkAndBoard_modifyTask t _
  | transmitNext d => exact keepsLinkAndBoard_transmitNext d
  | deserted | drained => exact keepsLinkAndBoard_record rfl rfl

theorem sameBoard_chore (hc : Chore X h h') : SameBoard h h' := by
  rcases chore_cases hc with hc | ⟨d, f, -, rfl⟩ | ⟨d, rfl⟩ | ⟨ip, mac, rfl⟩
  · exact hc.board
  · obtain ⟨r, hr⟩ := offer_eq d f h
    exact hr.board.trans (sameBoard_record rfl)
  · rcases register_eq d h with ⟨h', hc, he | ⟨-, he⟩⟩
    · rw [he]
      exact hc.board
    · rw [he]
      exact hc.board
  · rcases store_eq ip mac h with ⟨t, -, he⟩ | hc
    · rw [he]
      exact sameBoard_record rfl
    · exact hc.board.trans (sameBoard_record rfl)

/-- **Chores leave the switchboard as it is.** -/
theorem board_chores (hc : Chores X h h') : h'.board = h.board := by
  induction hc with
  | refl => rfl
  | tail _ hc ih => exact (sameBoard_chore hc).trans ih

end Host

end InetHost
