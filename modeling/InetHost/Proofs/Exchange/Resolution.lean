import InetHost.Proofs.Exchange.Reading
import InetHost.Proofs.Exchange.Sending
import Mathlib.Logic.Function.Basic

/-!
# Resolving an address on a link

Stations on a link hear what one of them puts on it. One that does not know the link address of another
asks, and only the other answers.

* `Station`, `Link`, `Link.Broadcast`: hosts on a link, and a frame that all others hear;
* `Link.Poses`: a station is about to ask for the address of another;
* `Resolution`: what happens then;
* **`exists_resolution`**: it happens on every link, with any number of stations;
* `smallLink`: a link of three on which it does.
-/

namespace InetHost

/-! ## Stations on a link -/

/-- A host with the device by which it is on a link. -/
structure Station where
  host : Host
  device : DeviceId

namespace Station

variable (s : Station)

/-- The link address of a station. -/
def mac : Mac := (s.host.device s.device).mac

/-- The address of a station. -/
def ip : Ip := (s.host.device s.device).ip

/-- The device of a station works. -/
def Works : Prop := Host.Works (s.host.device s.device)

/-- The question of a station who has `ip`. -/
def question (ip : Ip) : Bytes := s.host.arpFrame s.device .broadcast Arp.request .zero ip

/-- The answer of a station to another at `mac` and `ip`. -/
def answer (mac : Mac) (ip : Ip) : Bytes :=
  s.host.arpFrame s.device (if mac = .zero then .broadcast else mac) Arp.reply mac ip

/-- A station hears a frame, and its host comes to `h`. -/
def Hears (app : Application) (f : Bytes) (h : Host) : Prop :=
  (Host.receiveFrame app s.device f).run s.host = (some (), h)

end Station

/-- The stations on a link. -/
abbrev Link (ι : Type) := ι → Station

section

variable {ι : Type} [DecidableEq ι]

/-- The host of station `i` has come to `h`. -/
def Link.goOn (l : Link ι) (i : ι) (h : Host) : Link ι := Function.update l i ⟨h, (l i).device⟩

/-- **All stations but `i` hear a frame.** -/
def Link.Broadcast (app : ι → Application) (f : Bytes) (i : ι) (l l' : Link ι) : Prop :=
  l' i = l i ∧ ∀ k, k ≠ i → (l' k).device = (l k).device ∧ (l k).Hears (app k) f (l' k).host

/-- **A station is about to ask for the address of another.** It does not know the other's link address
and has room for it, the devices of both work, and no other station has one of the two addresses. -/
structure Link.Poses (l : Link ι) (i j : ι) : Prop where
  asker : Host.Visited (l i).host
  holder : Host.Visited (l j).host
  distinct : (l i).ip ≠ (l j).ip
  others : ∀ k, k ≠ i → k ≠ j → (l k).ip ≠ (l i).ip ∧ (l k).ip ≠ (l j).ip
  asks : (l i).Works
  answers : (l j).Works
  unknown : (l i).host.arp.get? (l j).ip = none
  room : (l i).host.arp.size < (l i).host.arp.capacity

/-- **Station `i` resolves the address of station `j`.** Its host comes to `a` when it asks, that of `j`
comes to `b` when it answers, and the first comes to `a'` when it hears the answer. -/
structure Resolution (app : ι → Application) (l : Link ι) (i j : ι) (a b a' : Host) : Prop where
  /-- The station gets no address, but sends one question. -/
  misses : (Host.lookup (l i).device (l j).ip).run (l i).host = (none, a)
  question : Host.Sent (l i).device ((l i).question (l j).ip) (l i).host a
  /-- All others hear it, and nothing changes but that `j` answers it: … -/
  heard : Link.Broadcast app ((l i).question (l j).ip) i (l.goOn i a) ((l.goOn i a).goOn j b)
  /-- … it sends one frame, to the link address of the one that asked, if that is anybody's, … -/
  answer : Host.Sent (l j).device ((l j).answer (l i).mac (l i).ip) (l j).host b
  addressed : Mac.ofBytes ((l j).answer (l i).mac (l i).ip) =
    if (l i).mac = .zero then .broadcast else (l i).mac
  /-- … and stores nothing itself. -/
  keeps : b.arp = (l j).host.arp
  /-- All others hear the answer, and nothing changes but that `i` stores it. -/
  told : Link.Broadcast app ((l j).answer (l i).mac (l i).ip) j ((l.goOn i a).goOn j b)
    (((l.goOn i a).goOn j b).goOn i a')
  stores : ∀ ip, a'.arp.get? ip =
    if ip = (l j).ip then some (l j).mac else (l i).host.arp.get? ip
  silent : a'.journal = .stored (l j).ip (l j).mac true :: a.journal
  /-- From then on the host knows the address and does not ask, until it stores another. -/
  known : ∀ {e h d}, Host.Leads e a' h →
    (∀ mac, .stored (l j).ip mac true ∉ h.eventsAfter a'.journal.length) →
    (Host.lookup d (l j).ip).run h = (some (l j).mac, h)

end

namespace Host

variable {h h' : Host} {d : DeviceId} {ip : Ip}

/-! ## Asking -/

theorem run_lookup_unknown (hu : h.arp.get? ip = none)
    (ho : ((offer d (h.arpFrame d .broadcast Arp.request .zero ip)).run h).1 = .ok ()) :
    (lookup d ip).run h =
      (none, ((offer d (h.arpFrame d .broadcast Arp.request .zero ip)).run h).2) := by
  rw [← run_askFor] at ho ⊢
  have hr : (askFor d ip).run h = (.ok (), ((askFor d ip).run h).2) := Prod.ext ho rfl
  unfold lookup
  rw [act_get, hu]
  dsimp only
  rw [StateT.run_bind, hr]
  rfl

/-! ## Hearing -/

section

variable {op : UInt16} {mac tm : Mac} {si ti : Ip}

theorem decode_packet (p : Arp.Packet) : Arp.Packet.decode? p.encode = some p := by
  have hd := Arp.Packet.decode_encode p []
  rwa [List.append_nil] at hd

theorem run_receiveArp_aside (hi : ti ≠ (h.device d).ip) :
    (receiveArp d (Arp.Packet.encode ⟨op, mac, si, tm, ti⟩)).run h = ((), h) := by
  unfold receiveArp
  rw [decode_packet]
  dsimp only
  rw [act_get, if_neg hi]
  rfl

theorem run_receiveArp_request (hi : ti = (h.device d).ip)
    (ht : (tell d mac si).run h = (.ok (), h')) :
    (receiveArp d (Arp.Packet.encode ⟨Arp.request, mac, si, tm, ti⟩)).run h = ((), h') := by
  unfold receiveArp
  rw [decode_packet]
  dsimp only
  rw [act_get, if_pos hi, if_pos rfl, StateT.run_bind, ht]
  rfl

theorem run_receiveArp_reply (hi : ti = (h.device d).ip) :
    (receiveArp d (Arp.Packet.encode ⟨Arp.reply, mac, si, tm, ti⟩)).run h =
      ((), ((store si mac).run h).2) := by
  unfold receiveArp
  rw [decode_packet]
  dsimp only
  rw [act_get, if_pos hi, if_neg (by decide), if_pos rfl]
  rfl

end

/-- Where there is room, a link address is stored, and nothing else happens. -/
theorem Proper.stores (p : Proper h) (hr : h.arp.size < h.arp.capacity) (ip : Ip) (mac : Mac) :
    ∃ h', ((Host.store ip mac).run h).2 = h' ∧ Proper h' ∧
      h'.journal = .stored ip mac true :: h.journal ∧
      ∀ i, h'.arp.get? i = if i = ip then some mac else h.arp.get? i := by
  have g : KeepsProper h ((Host.store ip mac).run h).2 := p.store ip mac
  cases hi : h.arp.insert? ip mac with
  | none => exact absurd (Arp.Table.insert?_eq_none_iff.mp hi).2 (Nat.not_le.mpr hr)
  | some t =>
    have hs : ((Host.store ip mac).run h).2 =
        { h with arp := t, journal := .stored ip mac true :: h.journal } := by
      unfold Host.store
      rw [act_get, hi]
      rfl
    refine ⟨_, rfl, g.proper, ?_, fun i => ?_⟩
    · rw [hs]
    · rw [hs]
      exact Arp.Table.get?_insert hi i

/-! ## Knowing -/

theorem resolves_eq_none {e : Event} (he : ∀ mac, e ≠ .stored ip mac true) :
    e.resolves ip = none := by
  cases e with
  | stored ip' mac kept =>
    refine if_neg ?_
    rintro ⟨rfl, rfl⟩
    exact he mac rfl
  | _ => rfl

/-- What a proper host knows it knows until it stores something else. -/
theorem Proper.knows (p : Proper h) {e : Bool} (hl : Leads e h h')
    (hn : ∀ mac, .stored ip mac true ∉ h'.eventsAfter h.journal.length) :
    h'.arp.get? ip = h.arp.get? ip := by
  have p' : Proper h' := (covers_keepsProper.leads hl p).proper
  obtain ⟨new, hj⟩ := suffix_leads hl
  have he : h'.eventsAfter h.journal.length = new.reverse := by
    unfold eventsAfter
    rw [← hj]
    simp
  have hf : new.findSome? (Event.resolves ip) = none := by
    rw [List.findSome?_eq_none_iff]
    intro x hx
    refine resolves_eq_none fun mac hm => hn mac ?_
    rw [he, ← hm]
    exact List.mem_reverse.mpr hx
  rw [p'.table, p.table, ← hj]
  unfold resolved
  rw [List.findSome?_append, hf, Option.none_or]

end Host

/-! ## On the link -/

namespace Station

open Host

variable {app : Application} {s t : Station} {ip : Ip} {mac : Mac} {h : Host}

theorem asks (hv : Visited s.host) (hw : s.Works) (hu : s.host.arp.get? ip = none) :
    ∃ a, (lookup s.device ip).run s.host = (none, a) ∧
      Sent s.device (s.question ip) s.host a ∧ KeepsProper s.host a ∧ a.arp = s.host.arp := by
  have ho := sent_offer hv.stored hw (s.question ip)
  have hf : s.host.Sends s.device (s.question ip) := wellFormed_arpFrame (.inl rfl) _
  exact ⟨_, run_lookup_unknown hu ho.1, ho.2, hv.proper.offer (.inr hf), arp_offer ..⟩

theorem answers (hv : Visited s.host) (hw : s.Works) (mac : Mac) (ip : Ip) :
    ∃ b, (offer s.device (s.answer mac ip)).run s.host = (.ok (), b) ∧
      Sent s.device (s.answer mac ip) s.host b ∧ b.arp = s.host.arp := by
  have ho := sent_offer hv.stored hw (s.answer mac ip)
  exact ⟨_, Prod.ext ho.1 rfl, ho.2, arp_offer ..⟩

/-- A question for another address changes nothing, … -/
theorem hears_question_aside (hi : t.ip ≠ ip) : t.Hears app (s.question ip) t.host := by
  unfold Hears question
  rw [run_receiveFrame_arp, run_receiveArp_aside hi.symm]

/-- … and one for a station's own is answered. -/
theorem hears_question (hi : t.ip = ip)
    (ho : (offer t.device (t.answer s.mac s.ip)).run t.host = (.ok (), h)) :
    t.Hears app (s.question ip) h := by
  have ht : (tell t.device s.mac s.ip).run t.host = (.ok (), h) := (run_tell ..).trans ho
  unfold Station.mac Station.ip at ht
  unfold Hears question
  rw [run_receiveFrame_arp, run_receiveArp_request hi.symm ht]

/-- An answer to another address changes nothing, … -/
theorem hears_answer_aside (hi : t.ip ≠ ip) : t.Hears app (s.answer mac ip) t.host := by
  unfold Hears answer
  rw [run_receiveFrame_arp, run_receiveArp_aside hi.symm]

/-- … and one to a station's own is stored. -/
theorem hears_answer (hi : t.ip = ip) :
    t.Hears app (s.answer mac ip) ((store s.ip s.mac).run t.host).2 := by
  unfold Hears answer
  rw [run_receiveFrame_arp, run_receiveArp_reply hi.symm]
  rfl

end Station

section

open Host

variable {ι : Type} [DecidableEq ι] {l : Link ι} {i j : ι}

theorem Link.goOn_self (l : Link ι) (i : ι) (h : Host) : l.goOn i h i = ⟨h, (l i).device⟩ :=
  Function.update_self ..

theorem Link.goOn_of_ne {k : ι} (hk : k ≠ i) (l : Link ι) (h : Host) : l.goOn i h k = l k :=
  Function.update_of_ne hk ..

/-- A frame that all others hear changes one of them, if it changes no other. -/
theorem Link.broadcast_goOn {app : ι → Application} {f : Bytes} {h : Host} (hij : j ≠ i)
    (hj : (l j).Hears (app j) f h) (hk : ∀ k, k ≠ i → k ≠ j → (l k).Hears (app k) f (l k).host) :
    Link.Broadcast app f i l (l.goOn j h) := by
  refine ⟨Link.goOn_of_ne hij.symm l h, fun k hki => ?_⟩
  by_cases hkj : k = j
  · subst hkj
    rw [Link.goOn_self]
    exact ⟨rfl, hj⟩
  · rw [Link.goOn_of_ne hkj]
    exact ⟨rfl, hk k hki hkj⟩

/-- **An address is resolved** on every link. -/
theorem exists_resolution (app : ι → Application) (hl : l.Poses i j) :
    ∃ a b a', Resolution app l i j a b a' := by
  have hij : j ≠ i := by
    rintro rfl
    exact hl.distinct rfl
  obtain ⟨a, hm, hq, g, ha⟩ := Station.asks hl.asker hl.asks hl.unknown
  obtain ⟨b, hb, hr, hk⟩ := Station.answers hl.holder hl.answers (l i).mac (l i).ip
  obtain ⟨a', hs, p', hj, hg⟩ := g.proper.stores (ha ▸ hl.room) (l j).ip (l j).mac
  rw [ha] at hg
  refine ⟨a, b, a', hm, hq, ?_, hr, rfl, hk, ?_, hg, hj, ?_⟩
  · -- the question, of which all but the holder take no notice
    refine Link.broadcast_goOn hij ?_ fun k hki hkj => ?_
    · rw [Link.goOn_of_ne hij]
      exact Station.hears_question rfl hb
    · rw [Link.goOn_of_ne hki]
      exact Station.hears_question_aside (hl.others k hki hkj).2
  · -- the answer, of which all but the asker take no notice
    refine Link.broadcast_goOn hij.symm ?_ fun k hkj hki => ?_
    · have hi : Station.ip ⟨a, (l i).device⟩ = (l i).ip := g.ip (l i).device
      rw [Link.goOn_of_ne hij.symm, Link.goOn_self, ← hs]
      exact Station.hears_answer hi
    · rw [Link.goOn_of_ne hkj, Link.goOn_of_ne hki]
      exact Station.hears_answer_aside (hl.others k hki hkj).1
  · intro e h d hle hn
    refine run_lookup ?_
    rw [p'.knows hle hn, hg, if_pos rfl]

end

/-! ## A small link -/

/-- The device of a station on a small link. -/
def member (k : Fin 3) : DeviceSetup :=
  { mac := ⟨2, 0, 0, 0, 0, UInt8.ofNat k⟩, ip := ⟨10, 0, 0, UInt8.ofNat (k + 1)⟩ }

/-- Three stations that have just been started. -/
def smallLink : Link (Fin 3) := fun k => ⟨Host.attach { config := {} } (member k), 0⟩

theorem exists_resolution_smallLink : smallLink.Poses 0 1 ∧ ∃ a b a',
    Resolution (fun _ => Host.answerCall (Host.exec 1)) smallLink 0 1 a b a' ∧
      (Host.lookup 0 (smallLink 1).ip).run a' = (some (smallLink 1).mac, a') := by
  have hv : ∀ k, Host.Visited (smallLink k).host := fun k =>
    ⟨⟨{}, [member k]⟩, _, true, rfl, .refl _⟩
  have hp : smallLink.Poses 0 1 :=
    ⟨hv 0, hv 1, by decide +kernel, by decide +kernel, fun _ => rfl, fun _ => rfl, rfl,
      by decide +kernel⟩
  obtain ⟨a, b, a', hr⟩ := exists_resolution (fun _ => Host.answerCall (Host.exec 1)) hp
  refine ⟨hp, a, b, a', hr, hr.known (.refl a') fun mac => ?_⟩
  simp [Host.eventsAfter]

end InetHost
