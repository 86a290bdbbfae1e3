import InetHost.Proofs.Exchange.Reading
import InetHost.Proofs.Exchange.Sending

/-!
# Datagrams from host to host

What one host sends in a datagram is what the listeners of another are told, and so is the answer.

* `Ready`: a host can send a datagram;
* `callAll`, `Reaches`: the listeners of a port are told of what is in a frame, in turn;
* `Passes`: a datagram is sent in one frame, and the frame reaches the listeners of another host;
* **`datagrams_pass`**: whatever two hosts were used for, datagrams pass between them both ways;
* `caller`, `callee`: two hosts between which they do.
-/

namespace InetHost.Host

variable {a b : Host} {d e : DeviceId} {f : Flow} {data frame : Bytes}

/-! ## Sending and receiving -/

/-- **A host can send a datagram** through a device that works and owns the source address, to where
it knows the way. -/
structure Ready (a : Host) (d : DeviceId) (f : Flow) (data : Bytes) : Prop where
  owner : a.owner? f.src.ip = some d
  works : Works (a.device d)
  resolved : (a.arp.get? f.dst.ip).isSome
  short : data.length ≤ a.config.maxDatagram

/-- Some listeners are told of a datagram, in turn; without any there is a notice. -/
def callAll (app : Application) (f : Flow) (data : Bytes) : List Nat → Run Unit
  | [] => note (.noListener f)
  | us => us.forM fun u => app (.notify u f data)

/-- **A frame reaches the listeners** of a datagram's port. -/
structure Reaches (b : Host) (e : DeviceId) (f : Flow) (data frame : Bytes) : Prop where
  /-- When its device has been registered, the host calls the port's listeners, whatever the application
  is, and does nothing else. -/
  calls : ∀ app, (receiveFrame app e frame).run b =
    (callAll app f data (b.subscribersOf f.dst.port)).run ((register e).run b).2
  /-- These are all listeners that the port has, … -/
  listeners : ∀ u, u ∈ b.subscribersOf f.dst.port ↔
    u < b.subscribers.length ∧ (b.subscribers.getD u default).port = f.dst.port
  /-- … in the order in which they came. -/
  order : (b.subscribersOf f.dst.port).Pairwise (· < ·)

/-- **A datagram passes from a host to another**: it is sent in one frame, and this frame reaches the
listeners. -/
def Passes (a : Host) (d : DeviceId) (b : Host) (e : DeviceId) (f : Flow) (data : Bytes) : Prop :=
  ∃ frame a', (sendDatagram f data).run a = (.ok (), a') ∧ Sent d frame a a' ∧
    Reaches b e f data frame

theorem mem_subscribersOf {port : UInt16} {u : Nat} : u ∈ b.subscribersOf port ↔
    u < b.subscribers.length ∧ (b.subscribers.getD u default).port = port := by
  simp [subscribersOf]

theorem pairwise_subscribersOf (b : Host) (port : UInt16) :
    (b.subscribersOf port).Pairwise (· < ·) :=
  List.pairwise_lt_range.filter _

theorem Ready.short_encode (hr : Ready a d f data) :
    Ipv4.headerLength + (Udp.encode f data).length ≤ Ipv4.maxLength := by
  have hm := a.config.mtu.toNat_lt
  have hs := hr.short
  rw [Udp.length_encode]
  unfold Config.maxDatagram at hs
  unfold Ipv4.headerLength Udp.headerLength Ipv4.maxLength
  omega

/-- A datagram leaves in one frame. -/
theorem Ready.run_sendDatagram (hr : Ready a d f data) {mac : Mac}
    (hm : a.arp.get? f.dst.ip = some mac) :
    (sendDatagram f data).run a =
      (offer d (a.packetFrame d Ipv4.udp f.dst.ip mac (Udp.encode f data))).run a := by
  unfold sendDatagram
  rw [act_get, hr.owner]
  dsimp only
  rw [if_neg (Nat.not_lt.mpr hr.short)]
  exact run_sendPacket ⟨hm, hr.short_encode⟩ Ipv4.udp d

theorem Ready.passes (hr : Ready a d f data) (p : Proper a) (v : Stored a)
    (he : (b.device e).ip = f.dst.ip) : Passes a d b e f data := by
  obtain ⟨mac, hm⟩ := Option.isSome_iff_exists.mp hr.resolved
  have ho := sent_offer v hr.works (a.packetFrame d Ipv4.udp f.dst.ip mac (Udp.encode f data))
  have hd : (a.device d).ip = f.src.ip := p.owned _ (mem_of_owner? hr.owner)
  refine ⟨_, _, (hr.run_sendDatagram hm).trans (Prod.ext ho.1 rfl), ho.2, ?_, ?_, ?_⟩
  · intro app
    rw [run_receiveFrame_datagram hr.short_encode hd he]
    cases b.subscribersOf f.dst.port <;> rfl
  · exact fun u => mem_subscribersOf
  · exact pairwise_subscribersOf b _

/-! ## Both ways -/

/-- **Datagrams pass between two hosts both ways**, whatever they were used for, and whatever they are
used for between a datagram and its answer. -/
theorem datagrams_pass (ha : Visited a) (hb : Visited b) (hr : Ready a d f data)
    (he : (b.device e).ip = f.dst.ip) :
    Passes a d b e f data ∧
      ∀ {x y a' b' d' e' answer}, Leads x a a' → Leads y b b' → Ready b' e' f.reverse answer →
        (a.device d').ip = f.src.ip → Passes b' e' a' d' f.reverse answer := by
  refine ⟨hr.passes ha.proper ha.stored he, ?_⟩
  intro x y a' b' d' e' answer hla hlb hr' hd
  have p : Proper b' := (covers_keepsProper.leads hlb hb.proper).proper
  have v : Stored b' := hb.stored.shifts (shifts_leads hlb)
  have hi : (a'.device d').ip = (a.device d').ip := (covers_keepsProper.leads hla ha.proper).ip d'
  exact hr'.passes p v (hi.trans hd)

/-! ## An enquiry and its answer -/

/-- A host that knows another and has a listener for its answers. -/
def caller : Host :=
  talked [.register 0, .store ⟨10, 0, 0, 2⟩ ⟨2, 0, 0, 0, 0, 2⟩, .subscribe 4000 (.number 0) []]

/-- A device beside the talker's. -/
def neighbour : DeviceSetup := { mac := ⟨2, 0, 0, 0, 0, 2⟩, ip := ⟨10, 0, 0, 2⟩ }

/-- A host that knows the caller and has two listeners for its questions. -/
def callee? : Option Host :=
  after? 3
    [.register 0, .store talker.ip talker.mac, .subscribe 53 (.number 0) [],
      .subscribe 7 (.number 1) [], .subscribe 53 (.number 2) []]
    (attach { config := {} } neighbour)

/-- The host that is called. -/
def callee : Host := callee?.getD default

theorem callee_eq : callee? = some callee := by
  have hs : callee?.isSome = true := by decide +kernel
  obtain ⟨h, hh⟩ := Option.isSome_iff_exists.mp hs
  rw [callee, hh]
  rfl

/-- The way of the enquiry. -/
def enquiry : Flow := ⟨⟨talker.ip, 4000⟩, ⟨neighbour.ip, 53⟩⟩

theorem datagrams_pass_enquiry : Visited caller ∧ Visited callee ∧
    Ready caller 0 enquiry [1, 2, 3] ∧ Ready callee 0 enquiry.reverse [4, 5] ∧
    callee.subscribersOf 53 = [0, 2] ∧ caller.subscribersOf 4000 = [0] ∧
    Passes caller 0 callee 0 enquiry [1, 2, 3] ∧
    Passes callee 0 caller 0 enquiry.reverse [4, 5] := by
  have ha : Visited caller := visited_talked (by decide +kernel)
  have hb : Visited callee := ⟨⟨{}, [neighbour]⟩, _, true, rfl, leads_after? callee_eq⟩
  have hw : ∀ {v : Device}, v.failure = none → Works v := fun hf _ => hf
  have hr : Ready caller 0 enquiry [1, 2, 3] :=
    ⟨by decide +kernel, hw (by decide +kernel), by decide +kernel, by decide +kernel⟩
  have hr' : Ready callee 0 enquiry.reverse [4, 5] :=
    ⟨by decide +kernel, hw (by decide +kernel), by decide +kernel, by decide +kernel⟩
  have he : (callee.device 0).ip = enquiry.dst.ip := by decide +kernel
  have hd : (caller.device 0).ip = enquiry.src.ip := by decide +kernel
  obtain ⟨hp, hp'⟩ := datagrams_pass ha hb hr he
  exact ⟨ha, hb, hr, hr', by decide +kernel, by decide +kernel, hp,
    hp' (.refl caller) (.refl callee) hr' hd⟩

end InetHost.Host
