import InetHost.Proofs.Exchange.Echo
import InetHost.Proofs.Stream.Rest

/-!
# Acknowledgements are not acknowledged

A host at rest sends nothing when a segment comes in that only acknowledges, or whose data is dropped, or
whose SYN comes too late. Two hosts that only acknowledge what the other has sent soon fall silent.

* `Settled`: what the connections of a host at rest have in common;
* `Settled.hushes_segment`, `Settled.hushes_frame`: the host sends nothing when such a segment comes in, by
  itself or in a frame;
* `Acknowledges`: a frame with a segment that only acknowledges; `AtRest.hears_acknowledgement`: it comes in,
  and the host is at rest again;
* `Pair`, `Passes`, `Runs`: two hosts and the frames on their way to each of them; **`Runs.falls_silent`**:
  where these only acknowledge, they become fewer until none is left;
* **`AtRest.no_ack_loops`**: all of it.
-/

namespace InetHost.Host

open Tcp

variable {h h₁ h' : Host} {d : DeviceId} {s : Stream} {c : ConnId} {b : Bytes} {g : Segment} {src : Ip}
  {app : Application} {n : Nat}

/-! ## Settled hosts -/

/-- No connection owes an acknowledgement, and those that are alive were opened. -/
structure Settled (h : Host) : Prop where
  paid : ∀ c, (h.connection c).control.owesAck = false
  opened : ∀ s c, h.stream? s = some c → c < h.connections.length

theorem AtRest.settled (hr : AtRest h) : Settled h :=
  ⟨hr.owes_nothing, fun _ _ hc => (hr.visited.registered hc).1⟩

theorem Settled.of_eq (hs : Settled h) (hc : h'.connections = h.connections)
    (hr : h'.streams = h.streams) : Settled h' := by
  have hk : ∀ c, h'.connection c = h.connection c := fun c => congrArg (·.getD c default) hc
  refine ⟨fun c => ?_, fun s c hs' => ?_⟩
  · rw [hk]
    exact hs.paid c
  · rw [hc]
    refine hs.opened s c ?_
    unfold stream? at hs' ⊢
    rwa [hr] at hs'

/-! ## Segments -/

theorem Hushes.after {x y : Application → Run Unit} (hx : Hushes x h₁) (hm : SendsNothing h h₁)
    (hy : ∀ app, (y app).run h = (x app).run h₁) : Hushes y h := by
  obtain ⟨h₂, hr, hm₂⟩ := hx
  exact ⟨h₂, fun app => (hy app).trans (hr app), hm.trans hm₂⟩

theorem Traced.sendsNothing (ht : Traced h h') : SendsNothing h h' := by
  obtain ⟨new, rfl, hn⟩ := ht
  refine ⟨_, _, _, new, rfl, fun e he => ?_⟩
  have ht := hn e he
  cases e <;> first | rfl | cases ht

theorem Settled.hushes_segment (hs : Settled h) (hg : g.Reads b)
    (he : s = ⟨⟨(h.device d).ip, g.dstPort⟩, ⟨src, g.srcPort⟩⟩) (hc : h.stream? s = some c)
    (hu : (h.connection c).control.Unanswered g) : Hushes (receiveSegment · d b src) h := by
  have hx : Hushes (receiveOn · c g) ((record (.arrived s g)).run h).2 :=
    hushes_receiveOn (hs.opened s c hc) (hs.paid c) hu
  exact hx.after (sendsNothing_record rfl h) (run_receiveSegment_registered hc hg he)

theorem Settled.hushes_bare (hs : Settled h) (hg : g.Reads b) (hr : g.flags.has .rst = false)
    (hy : g.flags.has .syn = false) (hf : g.flags.has .fin = false) (hp : g.payload = [])
    (d : DeviceId) (src : Ip) : Hushes (receiveSegment · d b src) h := by
  cases hc : h.stream? ⟨⟨(h.device d).ip, g.dstPort⟩, ⟨src, g.srcPort⟩⟩ with
  | some c => exact hs.hushes_segment hg rfl hc (.bare hr hy hf hp)
  | none =>
    have hi : Ignores (receiveSegment · d b src) h := by
      refine ignores_receiveSegment fun g' hg' hw => ?_
      obtain rfl : g = g' :=
        Except.ok.inj ((Segment.decode_eq_ok.mpr hg).symm.trans (Segment.decode_eq_ok.mpr hg'))
      rcases hw with hw | ⟨hw, -⟩
      · rw [hc] at hw
        cases hw
      · cases hy.symm.trans hw
    obtain ⟨h', hr', ht⟩ := hi
    exact ⟨h', hr', ht.sendsNothing⟩

/-! ## Frames -/

theorem sendsNothing_register (d : DeviceId) (h : Host) : Does SendsNothing h (register d) := by
  unfold register
  refine Does.bind (sendsNothing_record rfl h) (Does.get ?_)
  dsimp only
  split_ifs
  · refine Does.bind (sendsNothing_record rfl _) ⟨_, _, _, [], rfl, List.forall_mem_nil _⟩
  · exact Does.pure ()

theorem hushes_frame {f : Ethernet.Frame} {p : Ipv4.Packet} (hf : f.Reads b) (ht : f.type = 0x0800)
    (hp : p.Reads f.payload) (hq : p.protocol = 6)
    (hx : Hushes (receiveSegment · d p.payload p.src) ((register d).run h).2) :
    Hushes (receiveFrame · d b) h :=
  hx.after (sendsNothing_register d h) fun app => run_receiveFrame_segment hf ht hp hq app

theorem Settled.register (hs : Settled h) (d : DeviceId) : Settled ((register d).run h).2 := by
  obtain ⟨os, j, hr⟩ := run_register d h
  rw [hr]
  exact hs.of_eq rfl rfl

theorem Settled.hushes_frame (hs : Settled h) (hb : Carries h d b (.segment s g))
    (hc : h.stream? s = some c) (hu : (h.connection c).control.Unanswered g) :
    Hushes (receiveFrame · d b) h := by
  obtain ⟨os, j, hr⟩ := run_register d h
  have hs' := hs.register d
  cases hb with
  | segment hf ht hp hq hg hw =>
    refine Host.hushes_frame hf ht hp hq ?_
    rw [hr] at hs' ⊢
    exact hs'.hushes_segment hg rfl hc hu

/-- **A frame with a segment that only acknowledges.** -/
def Acknowledges (b : Bytes) : Prop :=
  ∃ s g, Brings s b g ∧ g.flags.has .rst = false ∧ g.flags.has .syn = false ∧
    g.flags.has .fin = false ∧ g.payload = []

theorem Settled.hushes_acknowledgement (hs : Settled h) (hb : Acknowledges b) (d : DeviceId) :
    Hushes (receiveFrame · d b) h := by
  obtain ⟨s, g, hb, hr, hy, hf, hp⟩ := hb
  obtain ⟨f, p, hf', ht, hp', hq, -, hg⟩ := hb.reads
  exact Host.hushes_frame hf' ht hp' hq ((hs.register d).hushes_bare hg hr hy hf hp d p.src)

/-- **An acknowledgement comes in**, and the host is at rest again without having sent anything. -/
theorem AtRest.hears_acknowledgement (hr : AtRest h) (hb : Acknowledges b) (d : DeviceId) (n : Nat) :
    ∃ h', (exec (n + 1) {} (.receive d (.bytes b))).run h = (some .done, h') ∧ SendsNothing h h' ∧
      AtRest h' := by
  have hs : Settled { h with lent := d :: h.lent } := hr.settled.of_eq rfl rfl
  obtain ⟨h₁, hx, os, cs, ss, new, rfl, hn⟩ := hs.hushes_acknowledgement hb d
  have he : (exec (n + 1) {} (.receive d (.bytes b))).run h = (some .done,
      { h with owners := os, connections := cs, streams := ss, journal := new ++ h.journal }) := by
    change (do lend d (receiveFrame (answerCall (exec n)) d b); return Reply.done : Run Reply).run h = _
    rw [run_bind, run_lend (hx (answerCall (exec n)))]
    rfl
  have hl := leads_exec (n + 1) {} (.receive d (.bytes b)) h
  rw [he] at hl
  exact ⟨_, he, ⟨os, cs, ss, new, rfl, hn⟩, hr.leads hl⟩

end Host

/-! ## Two hosts -/

/-- Two hosts, and the frames that are on their way to each of them, with the device on which a frame
is going to come in. -/
structure Pair where
  host : Bool → Host
  onWay : Bool → List (DeviceId × Bytes)

namespace Pair

open Host

variable {x y z : Pair} {n : Nat}

/-- The number of frames that are on their way. -/
def underWay (x : Pair) : Nat := (x.onWay true).length + (x.onWay false).length

/-- The pair after a frame is no longer on its way to `p`: the host is at `h`, and the frames `more` are on
their way to the other. -/
def goOn (x : Pair) (p : Bool) (h : Host) (rest more : List (DeviceId × Bytes)) : Pair where
  host := Function.update x.host p h
  onWay := Function.update (Function.update x.onWay p rest) (!p) (x.onWay (!p) ++ more)

/-- **A frame comes in or is lost.** What a host sends when a frame comes in may reach the other host, on
any device and any number of times. -/
inductive Passes (x : Pair) : Pair → Prop
  | comes {p : Bool} {d : DeviceId} {b : Bytes} {l l' more : List (DeviceId × Bytes)} {r : Option Reply}
    {h : Host} (n : Nat) (hp : x.onWay p = l ++ (d, b) :: l')
    (hr : (exec (n + 1) {} (.receive d (.bytes b))).run (x.host p) = (r, h))
    (hm : ∀ y ∈ more, ∃ new e o, h.journal = new ++ (x.host p).journal ∧ .offered e y.2 o ∈ new) :
    Passes x (x.goOn p h (l ++ l') more)
  | lost {p : Bool} {y : DeviceId × Bytes} {l l' : List (DeviceId × Bytes)}
    (hp : x.onWay p = l ++ y :: l') : Passes x (x.goOn p (x.host p) (l ++ l') [])

/-- So many frames came in or were lost, one after another. -/
inductive Runs : Nat → Pair → Pair → Prop
  | refl (x : Pair) : Runs 0 x x
  | tail {n : Nat} {x y z : Pair} (hr : Runs n x y) (hp : Passes y z) : Runs (n + 1) x z

/-- **Both hosts only acknowledge**: they are at rest, and what is on its way only acknowledges. -/
structure OnlyAcks (x : Pair) : Prop where
  rest : ∀ p, AtRest (x.host p)
  acks : ∀ p, ∀ y ∈ x.onWay p, Acknowledges y.2

/-- One frame less is on its way where nothing was sent. -/
theorem underWay_goOn {p : Bool} {y : DeviceId × Bytes} {l l' : List (DeviceId × Bytes)}
    (hp : x.onWay p = l ++ y :: l') (h : Host) :
    (x.goOn p h (l ++ l') []).underWay + 1 = x.underWay := by
  unfold underWay goOn
  cases p with
  | true =>
    simp [hp]
    omega
  | false =>
    simp [hp]
    omega

theorem OnlyAcks.goOn (ha : OnlyAcks x) {p : Bool} {y : DeviceId × Bytes} {l l' : List (DeviceId × Bytes)}
    (hp : x.onWay p = l ++ y :: l') {h : Host} (hr : AtRest h) : OnlyAcks (x.goOn p h (l ++ l') []) := by
  have hs : ∀ z ∈ l ++ l', Acknowledges z.2 := by
    intro z hz
    refine ha.acks p z ?_
    rw [hp]
    exact List.mem_append.mpr ((List.mem_append.mp hz).imp_right (List.mem_cons_of_mem y))
  have hl : ∀ q, ∀ z ∈ Function.update x.onWay p (l ++ l') q, Acknowledges z.2 :=
    (Function.forall_update_iff x.onWay fun _ l => ∀ z ∈ l, Acknowledges z.2).mpr
      ⟨hs, fun q _ => ha.acks q⟩
  refine ⟨(Function.forall_update_iff x.host fun _ h => AtRest h).mpr ⟨hr, fun q _ => ha.rest q⟩,
    (Function.forall_update_iff (Function.update x.onWay p (l ++ l'))
      fun _ l => ∀ z ∈ l, Acknowledges z.2).mpr ⟨?_, fun q _ => hl q⟩⟩
  rw [List.append_nil]
  exact ha.acks (!p)

/-- **A step of the two.** A frame that only acknowledges is not answered. -/
theorem OnlyAcks.passes (ha : OnlyAcks x) (hp : Passes x y) :
    OnlyAcks y ∧ y.underWay + 1 = x.underWay ∧ ∀ q, SendsNothing (x.host q) (y.host q) := by
  have hu : ∀ {p h}, SendsNothing (x.host p) h →
      ∀ q, SendsNothing (x.host q) (Function.update x.host p h q) :=
    fun hm => (Function.forall_update_iff x.host fun q h => SendsNothing (x.host q) h).mpr
      ⟨hm, fun q _ => SendsNothing.refl _⟩
  cases hp with
  | @comes p d b l l' more r h n ho hr hm =>
    have hb : Acknowledges b := by
      refine ha.acks p (d, b) ?_
      rw [ho]
      exact List.mem_append_right l List.mem_cons_self
    obtain ⟨h', hr', hmute, hrest⟩ := (ha.rest p).hears_acknowledgement hb d n
    obtain rfl : h = h' := congrArg Prod.snd (hr.symm.trans hr')
    -- nothing was offered to a device, so nothing new is on its way
    obtain rfl : more = [] := by
      rw [List.eq_nil_iff_forall_not_mem]
      intro z hz
      obtain ⟨new, e, o, hj, he⟩ := hm z hz
      obtain ⟨os, cs, ss, new', rfl, hn⟩ := hmute
      obtain rfl := List.append_cancel_right hj
      cases hn _ he
    exact ⟨ha.goOn ho hrest, underWay_goOn ho h, hu hmute⟩
  | @lost p z l l' ho =>
    exact ⟨ha.goOn ho (ha.rest p), underWay_goOn ho _, hu (SendsNothing.refl _)⟩

/-- **Two hosts that only acknowledge fall silent**: with every frame that comes in there is one less on
its way, and neither sends anything. -/
theorem Runs.falls_silent (hr : Runs n x y) (ha : OnlyAcks x) :
    OnlyAcks y ∧ y.underWay + n = x.underWay ∧ ∀ q, SendsNothing (x.host q) (y.host q) := by
  induction hr with
  | refl x => exact ⟨ha, rfl, fun q => SendsNothing.refl _⟩
  | tail hr hp ih =>
    obtain ⟨hy, hn, hm⟩ := ih ha
    obtain ⟨hz, hn', hm'⟩ := hy.passes hp
    refine ⟨hz, ?_, fun q => (hm q).trans (hm' q)⟩
    omega

end Pair

namespace Host

open Tcp

variable {h : Host}

/-! ## No loops -/

/-- **A host does not acknowledge acknowledgements.** -/
structure Reticent (h : Host) : Prop where
  /-- No connection owes one. -/
  paid : ∀ c, (h.connection c).control.owesAck = false
  /-- A segment that only acknowledges, whose data is dropped or whose SYN comes too late is taken, and
  nothing is sent; … -/
  segment : ∀ {d b src g s c}, Segment.decode b = .ok g →
    s = ⟨⟨(h.device d).ip, g.dstPort⟩, ⟨src, g.srcPort⟩⟩ → h.stream? s = some c →
    (h.connection c).control.Unanswered g → Hushes (receiveSegment · d b src) h
  /-- … so is a frame with such a segment. -/
  frame : ∀ {d b g s c}, Carries h d b (.segment s g) → h.stream? s = some c →
    (h.connection c).control.Unanswered g → Hushes (receiveFrame · d b) h
  /-- With another host that only acknowledges, as this one does, it falls silent: there are no more
  steps than frames on their way, and neither host sends anything. -/
  pair : ∀ {x y : Pair} {p n}, x.host p = h → x.OnlyAcks → Pair.Runs n x y →
    y.underWay + n = x.underWay ∧ ∀ q, SendsNothing (x.host q) (y.host q)

/-- **Acknowledgements are never answered with acknowledgements.** -/
theorem AtRest.no_ack_loops (hr : AtRest h) : Reticent h where
  paid := hr.owes_nothing
  segment hg he hc hu := hr.settled.hushes_segment (Segment.decode_eq_ok.mp hg) he hc hu
  frame hb hc hu := hr.settled.hushes_frame hb hc hu
  pair _ ha hx := (hx.falls_silent ha).2

/-- Data that comes before the connection is open is dropped, and nothing is sent. -/
theorem reticent_respondent : AtRest respondent ∧
    respondent.stream? respondent.stream = some 0 ∧ (respondent.connection 0).control.owesAck = false ∧
    ∃ b, Segment.decode b = .ok ⟨4000, echoPort, 100, 0, .psh, [104, 105]⟩ ∧
      (respondent.connection 0).control.Unanswered ⟨4000, echoPort, 100, 0, .psh, [104, 105]⟩ ∧
      Hushes (receiveSegment · 0 b ⟨10, 0, 0, 2⟩) respondent := by
  have hr : AtRest respondent := atRest_talked (by decide +kernel)
  have hc : respondent.stream? respondent.stream = some 0 := by decide +kernel
  have hs : respondent.stream =
      ⟨⟨(respondent.device 0).ip, echoPort⟩, ⟨⟨10, 0, 0, 2⟩, 4000⟩⟩ := by decide +kernel
  have hg : Segment.decode (Tcp.encode ⟨respondent.stream.peer, respondent.stream.here⟩
      ⟨100, 0, .psh, 1000⟩ [104, 105]) = .ok ⟨4000, echoPort, 100, 0, .psh, [104, 105]⟩ := by rfl
  have hu : (respondent.connection 0).control.Unanswered
      ⟨4000, echoPort, 100, 0, .psh, [104, 105]⟩ :=
    .dropped (by decide) (by decide) (by decide) (.inl (by decide +kernel))
  exact ⟨hr, hc, hr.no_ack_loops.paid 0, _, hg, hu, hr.no_ack_loops.segment hg hs hc hu⟩

end Host

end InetHost
