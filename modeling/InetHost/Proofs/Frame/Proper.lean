import InetHost.Proofs.Frame.WellFormed
import InetHost.Proofs.Stream.Growth

/-!
# What frames rest on

A frame is right because of what a host holds: a device is the owner of its own address only, and a
connection lies between an address of its device and another. The table of link addresses holds what
the journal says.

* `resolved`: the link addresses that were stored last;
* `Placed`: every connection has the address of its device;
* `Proper`: what holds of a host at all times; `KeepsProper`: a step to such a host;
* **`Proper.chores`**: chores are such steps.
-/

namespace InetHost

/-! ## What the journal says -/

/-- The link address that is stored for an address. -/
def Event.resolves (ip : Ip) : Event → Option Mac
  | .stored ip' mac kept => if kept = true ∧ ip = ip' then some mac else none
  | _ => none

/-- The link address that was stored last for an address. -/
def resolved (j : List Event) (ip : Ip) : Option Mac := j.findSome? (Event.resolves ip)

theorem resolved_append {new : List Event} (hn : ∀ e ∈ new, e.onLink = false) (j : List Event) :
    resolved (new ++ j) = resolved j := by
  funext ip
  unfold resolved
  rw [List.findSome?_append, List.findSome?_eq_none_iff.mpr, Option.none_or]
  intro e he
  have hl := hn e he
  cases e with
  | stored => cases hl
  | _ => rfl

theorem resolved_stored (j : List Event) (ip' : Ip) (mac : Mac) (ip : Ip) :
    resolved (.stored ip' mac true :: j) ip = if ip = ip' then some mac else resolved j ip := by
  unfold resolved
  rw [List.findSome?_cons, Event.resolves]
  by_cases h : ip = ip'
  · rw [if_pos ⟨rfl, h⟩, if_pos h]
  · rw [if_neg fun hk => h hk.2, if_neg h]

/-! ## Connections and their devices -/

namespace Switchboard

variable {v w : Switchboard} {c : ConnId}

/-- **Every connection has the address of its device.** -/
structure Placed (v : Switchboard) : Prop where
  registered : ∀ s c, v.stream? s = some c → c < v.lines.length
  located : ∀ c < v.lines.length, v.address (v.line c).device = (v.line c).stream.here.ip

theorem Placed.log (h : Placed v) (e : Event) : Placed (v.log e) := ⟨h.registered, h.located⟩

theorem Placed.acts (h : Placed v) (ha : Acts c v w) : Placed w where
  registered s c' hs := by
    rw [ha.length]
    exact h.registered s c' (ha.registry s c' hs)
  located c' hc := by
    rw [ha.length] at hc
    unfold address
    rw [ha.addresses, ha.device, ha.stream]
    exact h.located c' hc

theorem Placed.place (h : Placed v) {s : Stream} {d : DeviceId} (hd : v.address d = s.here.ip)
    (isn : Tcp.SeqNum) (k : Tcp.Control) : Placed (v.place s d isn k) := by
  have hl := lines_place s d isn k v
  have hn : (v.place s d isn k).lines.length = v.lines.length + 1 := by simp [hl]
  constructor
  · intro s' c hs
    rw [hn]
    rw [stream?_place] at hs
    split_ifs at hs
    · rw [← Option.some.inj hs]
      exact Nat.lt_succ_self _
    · exact Nat.lt_succ_of_lt (h.registered s' c hs)
  · intro c hc
    unfold address line
    rw [addresses_place, hl]
    rw [hn] at hc
    rcases Nat.lt_succ_iff_lt_or_eq.mp hc with hc | rfl
    · rw [List.getD_append _ _ _ _ hc]
      exact h.located c hc
    · rw [List.getD_append_right _ _ _ _ (Nat.le_refl _), Nat.sub_self]
      exact hd

end Switchboard

namespace Host

open Switchboard

variable {h h₁ h₂ : Host} {c : ConnId}

/-! ## Proper hosts -/

/-- A frame that a host may send through a device. -/
def Sends (h : Host) (d : DeviceId) (f : Bytes) : Prop :=
  WellFormed h.config.ttl (h.device d).mac (h.device d).ip h.arp.get? f

/-- A frame is well-formed when it is offered, or it is the application's. -/
def OffersWell (h : Host) (j : List Event) : Event → Prop
  | .offered d f _ => j.head? = some (.crafting d) ∨
      WellFormed h.config.ttl (h.device d).mac (h.device d).ip (resolved j) f
  | _ => True

/-- **What holds of a host at all times.** -/
structure Proper (h : Host) : Prop where
  placed : Placed h.board
  table : h.arp.get? = resolved h.journal
  owned : ∀ e ∈ h.owners, (h.device e.2).ip = e.1
  frames : Justified (OffersWell h) h.journal

theorem offersWell_of_onLink {e : Event} (he : e.onLink = false) (j : List Event) :
    OffersWell h j e := by
  cases e with
  | offered => cases he
  | _ => trivial

/-- The configuration and the addresses of a host stay, and connections are only added. -/
structure KeepsSettings (h h' : Host) : Prop where
  config : h'.config = h.config
  mac : ∀ d, (h'.device d).mac = (h.device d).mac
  ip : ∀ d, (h'.device d).ip = (h.device d).ip
  length : h.connections.length ≤ h'.connections.length

theorem keepsSettings_of_eq (hc : h₁.config = h.config) (hd : h₁.devices = h.devices)
    (hk : h₁.connections = h.connections) : KeepsSettings h h₁ := by
  have hd' : ∀ d, h₁.device d = h.device d := fun d => congrArg (·.getD d default) hd
  exact ⟨hc, fun d => by rw [hd'], fun d => by rw [hd'], by simp [hk]⟩

theorem KeepsSettings.offersWell (hk : KeepsSettings h h₁) : OffersWell h₁ = OffersWell h := by
  funext j e
  cases e with
  | offered d f r =>
    dsimp only [OffersWell]
    rw [hk.config, hk.mac, hk.ip]
  | _ => rfl

/-- **A step to a proper host.** -/
structure KeepsProper (h h' : Host) : Prop extends KeepsSettings h h' where
  proper : Proper h'

theorem Proper.refl (hp : Proper h) : KeepsProper h h :=
  ⟨keepsSettings_of_eq rfl rfl rfl, hp⟩

theorem KeepsProper.trans (g₁ : KeepsProper h h₁) (g₂ : KeepsProper h₁ h₂) : KeepsProper h h₂ where
  config := g₂.config.trans g₁.config
  mac d := (g₂.mac d).trans (g₁.mac d)
  ip d := (g₂.ip d).trans (g₁.ip d)
  length := Nat.le_trans g₁.length g₂.length
  proper := g₂.proper

/-- Where nothing happens on the link, only the connections matter. -/
theorem Proper.of_keepsLink (hp : Proper h) (hq : KeepsLink h h₁)
    (hl : h.connections.length ≤ h₁.connections.length) (hb : Placed h₁.board) : KeepsProper h h₁ := by
  have hk : KeepsSettings h h₁ := ⟨hq.config, hq.mac, hq.ip, hl⟩
  obtain ⟨new, hj, hn⟩ := hq.journal
  refine ⟨hk, hb, ?_, fun e he => ?_, ?_⟩
  · rw [hq.arp, hj, resolved_append hn]
    exact hp.table
  · rw [hq.ip]
    exact hp.owned e (hq.owners ▸ he)
  · rw [hk.offersWell, hj]
    exact hp.frames.append fun e he => offersWell_of_onLink (hn e he)

theorem Proper.acts (hp : Proper h) (hq : KeepsLink h h₁) (ha : Acts c h.board h₁.board) :
    KeepsProper h h₁ := by
  have hl := ha.length
  rw [length_lines_board, length_lines_board] at hl
  exact hp.of_keepsLink hq (Nat.le_of_eq hl.symm) (hp.placed.acts ha)

theorem Proper.of_keepsLinkAndBoard (hp : Proper h) (hc : KeepsLinkAndBoard h h₁) : KeepsProper h h₁ := by
  have hb : h₁.board = h.board := hc.board
  refine hp.acts (c := 0) hc.toKeepsLink ?_
  rw [hb]
  exact .refl 0 _

theorem Proper.enter (hp : Proper h) {e : Event}
    (ht : resolved (e :: h.journal) = resolved h.journal) (ho : OffersWell h h.journal e) :
    Does KeepsProper h (record e) := by
  refine ⟨keepsSettings_of_eq rfl rfl rfl, ?_, hp.table.trans ht.symm, hp.owned, hp.frames.cons ho⟩
  rw [board_record]
  split_ifs
  · exact hp.placed.log e
  · exact hp.placed

theorem Proper.record (hp : Proper h) {e : Event} (he : e.onLink = false) :
    Does KeepsProper h (record e) := by
  have hn : ∀ e' ∈ [e], e'.onLink = false := by simp [he]
  exact hp.enter (resolved_append hn h.journal) (offersWell_of_onLink he _)

/-! ## The link -/

theorem Proper.offer (hp : Proper h) {d : DeviceId} {f : Bytes}
    (hf : h.journal.head? = some (.crafting d) ∨ h.Sends d f) : Does KeepsProper h (offer d f) := by
  obtain ⟨r, hr⟩ := offer_eq d f h
  have hg : Does KeepsProper h (Host.record (.offered d f r)) := by
    refine hp.enter rfl ?_
    unfold Sends at hf
    rw [hp.table] at hf
    exact hf
  exact KeepsProper.trans hg (hg.proper.of_keepsLinkAndBoard hr)

theorem Proper.register (hp : Proper h) (d : DeviceId) : Does KeepsProper h (register d) := by
  rcases register_eq d h with ⟨h', hc, he | ⟨-, he⟩⟩
  · have hg := hp.of_keepsLinkAndBoard hc
    rw [← he] at hg
    exact hg
  · have hg := hp.of_keepsLinkAndBoard hc
    refine hg.trans ?_
    rw [he]
    refine ⟨keepsSettings_of_eq rfl rfl rfl, hg.proper.placed, hg.proper.table, ?_, hg.proper.frames⟩
    intro e hm
    rcases List.mem_append.mp hm with hm | hm
    · exact hg.proper.owned e hm
    · rw [List.mem_singleton.mp hm]
      exact hc.ip d

theorem Proper.store (hp : Proper h) (ip : Ip) (mac : Mac) : Does KeepsProper h (store ip mac) := by
  rcases store_eq ip mac h with ⟨t, ht, he⟩ | hc
  · -- the table and the journal change in two steps, and agree only after both
    have hg : KeepsProper h ((Host.record (.stored ip mac true)).run { h with arp := t }).2 := by
      refine ⟨keepsSettings_of_eq rfl rfl rfl, ?_, ?_, hp.owned, hp.frames.cons trivial⟩
      · rw [board_record]
        exact hp.placed
      · funext p
        refine (Arp.Table.get?_insert ht p).trans ?_
        rw [hp.table]
        exact (resolved_stored h.journal ip mac p).symm
    rw [← he] at hg
    exact hg
  · have hg : Does KeepsProper h (Host.record (.stored ip mac false)) := hp.enter rfl trivial
    exact KeepsProper.trans hg (hg.proper.of_keepsLinkAndBoard hc)

/-! ## Chores -/

theorem mem_of_owner? {ip : Ip} {d : DeviceId} (ho : h.owner? ip = some d) :
    (ip, d) ∈ h.owners := by
  obtain ⟨l₁, l₂, hl, -⟩ := List.lookup_eq_some_iff.mp ho
  rw [hl]
  exact List.mem_append_right _ List.mem_cons_self

theorem Framed.sends (hp : Proper h) {d : DeviceId} {f : Bytes} (hf : Framed h d f) :
    h.journal.head? = some (.crafting d) ∨ h.Sends d f := by
  cases hf with
  | arp dst op mac ip ho => exact .inr (wellFormed_arpFrame ho _)
  | echo dst mac b _ hr => exact .inr (wellFormed_packetFrame hr (message_echoReply _ dst b))
  | datagram fl mac data ho _ hr =>
    have hl := hr.short
    rw [Udp.length_encode] at hl
    refine .inr (wellFormed_packetFrame hr ?_)
    rw [hp.owned _ (mem_of_owner? ho)]
    refine message_datagram fl ?_
    unfold Ipv4.headerLength Ipv4.maxLength at hl
    omega
  | crafted _ hc => exact .inl hc

variable {X : Host → DeviceId → Bytes → Prop} (hX : ∀ {h d f}, X h d f → h.Sends d f)

include hX

theorem Proper.chore (hp : Proper h) (hc : Chore X h h₁) : KeepsProper h h₁ := by
  rcases chore_cases hc with hc | ⟨d, f, hf, rfl⟩ | ⟨d, rfl⟩ | ⟨ip, mac, rfl⟩
  · exact hp.of_keepsLinkAndBoard hc
  · exact hp.offer (hf.elim (Framed.sends hp) fun hx => .inr (hX hx))
  · exact hp.register d
  · exact hp.store ip mac

/-- **Chores lead from proper hosts to proper hosts.** -/
theorem Proper.chores (hp : Proper h) (hc : Chores X h h₁) : KeepsProper h h₁ := by
  induction hc with
  | refl => exact hp.refl
  | tail _ hc ih => exact ih.trans (ih.proper.chore hX hc)

end Host

end InetHost
