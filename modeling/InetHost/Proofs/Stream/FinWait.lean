import InetHost.Proofs.Stream.Closing
import InetHost.Proofs.Tcp.SeqNum

/-!
# Waiting for the acknowledgement of a FIN

A connection whose FIN has gone out goes by the order of the sequence numbers: the number of an
acknowledgement has to reach the connection's own next number. So it has to lie less than half of the
circle ahead of it, less one step more.

* `Tcp.State.reached`: the state after an acknowledgement that lies some way ahead of the next number;
  **`Control.Hears.reach`**: it is heard so;
* **`Visited.serialOrder`**: how a host orders sequence numbers, and how its connections go by that order;
* **`waiting_facing`**: two numbers that lie `2 ^ 31 - 1` apart are before each other, and such an
  acknowledgement of a FIN is not heard.
-/

namespace InetHost

open Tcp

/-- The state of a connection that waited for the acknowledgement of its FIN, after an acknowledgement whose
number lies `n` ahead of its next one. -/
def Tcp.State.reached (n : SeqNum) : State := if n.toNat < 2 ^ 31 - 1 then .finWait2 else .finWait1

/-- **An acknowledgement is heard** by how far ahead it lies. -/
theorem Tcp.Control.Hears.reach {k : Control} {g : Segment} {st : Option State} {n : SeqNum}
    (hh : k.Hears g st) (hs : k.state = .finWait1) (hy : g.flags.has .syn = false)
    (ha : g.flags.has .ack = true) (hn : g.ack = k.next + n) : st = some (State.reached n) := by
  have hc : SeqNum.covers g.ack k.next = true ↔ n.toNat < 2 ^ 31 - 1 := by
    rw [hn, SeqNum.covers_eq_true, SeqNum.ahead_add_left]
  unfold State.reached
  cases hh with
  | covered _ hg => rw [if_pos (hc.mp hg.2.2)]
  | stale _ hg => rw [if_neg fun hl => hg ⟨hy, ha, hc.mpr hl⟩]
  | again hs' => cases hs.symm.trans hs'
  | ends hs' | waits hs' => rcases hs' with hs' | hs' <;> cases hs.symm.trans hs'

namespace Host

variable {h : Host} {c : ConnId} {d : DeviceId} {s : Stream} {b : Bytes} {src : Ip} {g : Segment}
  {n : SeqNum}

/-- **An acknowledgement comes in for a connection** that waits for the acknowledgement of its FIN; its
number lies `n` ahead of the connection's next one. -/
structure Acknowledgement (h : Host) (d : DeviceId) (b : Bytes) (src : Ip) (g : Segment) (s : Stream)
    (c : ConnId) (n : SeqNum) : Prop where
  decodes : Segment.decode b = .ok g
  ends : s = ⟨⟨(h.device d).ip, g.dstPort⟩, ⟨src, g.srcPort⟩⟩
  registered : h.stream? s = some c
  waits : (h.connection c).control.state = .finWait1
  rst : g.flags.has .rst = false
  syn : g.flags.has .syn = false
  ack : g.flags.has .ack = true
  ahead : g.ack = (h.connection c).control.next + n

/-- **How a host orders sequence numbers**, and how its connections go by that order where they wait for
the acknowledgement of a FIN. -/
structure SerialOrder (h : Host) : Prop where
  /-- A number is after another if it lies ahead of it by less than half of the circle and a step. -/
  after : ∀ a b, SeqNum.compare a b = .gt ↔ 1 ≤ (a - b).toNat ∧ (a - b).toNat ≤ 2 ^ 31 - 2
  same : ∀ a b, SeqNum.compare a b = .eq ↔ a = b
  /-- Numbers that are closer to each other than that are in the same order from both sides. -/
  ordered : ∀ a b, SeqNum.apart a b < 2 ^ 31 - 1 →
    SeqNum.compare b a = (SeqNum.compare a b).swap
  /-- All others are before each other. -/
  facing : ∀ a b, 2 ^ 31 - 1 ≤ SeqNum.apart a b →
    SeqNum.compare a b = .lt ∧ SeqNum.compare b a = .lt
  /-- The order is the same all around the circle. -/
  turned : ∀ a b n, SeqNum.compare (a + n) (b + n) = SeqNum.compare a b
  /-- First of all the acknowledgement of a segment is heard. Its data and its FIN come after that. -/
  heard : ∀ {d b src g s c n}, h.Acknowledgement d b src g s c n → ∃ o h₁,
    InState h₁ s c (some (State.reached n)) ∧ o.teardown = false ∧
      ∀ app, (receiveSegment app d b src).run h = (handOn app c o).run h₁
  /-- If there is no data and no FIN, that is all that becomes of the connection. -/
  bare : ∀ {d b src g s c n}, h.Acknowledgement d b src g s c n → g.flags.has .fin = false →
    g.payload = [] → ∃ h', InState h' s c (some (State.reached n)) ∧
      ∀ app, (receiveSegment app d b src).run h = (some (), h')

theorem mem_closingStates_of_finWait1 {st : State} (hs : st = .finWait1) :
    st ∈ Control.closingStates := by
  rw [hs]
  decide

theorem Acknowledgement.stationed (x : h.Acknowledgement d b src g s c n) (hv : Visited h) :
    Stationed ((record (.arrived s g)).run h).2 s c :=
  (hv.stationed x.registered).record (.arrived s g)

theorem Acknowledgement.heard (x : h.Acknowledgement d b src g s c n) (hv : Visited h) : ∃ o h₁,
    InState h₁ s c (some (State.reached n)) ∧ o.teardown = false ∧
      ∀ app, (receiveSegment app d b src).run h = (handOn app c o).run h₁ := by
  obtain ⟨st, hh, hi, ht⟩ :=
    (x.stationed hv).hears (mem_closingStates_of_finWait1 x.waits) x.rst
  obtain rfl := hh.reach x.waits x.syn x.ack x.ahead
  exact ⟨_, _, hi, ht,
    run_receiveSegment_registered x.registered (Segment.decode_eq_ok.mp x.decodes) x.ends⟩

theorem Acknowledgement.bare (x : h.Acknowledgement d b src g s c n) (hv : Visited h)
    (hf : g.flags.has .fin = false) (hp : g.payload = []) : ∃ h',
      InState h' s c (some (State.reached n)) ∧
        ∀ app, (receiveSegment app d b src).run h = (some (), h') := by
  obtain ⟨st, h', hh, hi, hrun⟩ :=
    (x.stationed hv).hears_bare (mem_closingStates_of_finWait1 x.waits) x.rst hf hp
  obtain rfl := hh.reach x.waits x.syn x.ack x.ahead
  refine ⟨h', hi, fun app => ?_⟩
  rw [run_receiveSegment_registered x.registered (Segment.decode_eq_ok.mp x.decodes) x.ends, hrun]

/-- **Numbers less than `2 ^ 31 - 1` apart are in one order from both sides**, and connections that wait for
the acknowledgement of their FIN go by it. -/
theorem Visited.serialOrder (hv : Visited h) : SerialOrder h where
  after a b := by
    have hg := SeqNum.compare_eq_gt (a := a) (b := b)
    unfold SeqNum.ahead at hg
    rw [hg]
    omega
  same _ _ := SeqNum.compare_eq_eq
  ordered _ _ := SeqNum.compare_swap
  facing _ _ := SeqNum.compare_facing
  turned := SeqNum.compare_add
  heard x := x.heard hv
  bare x := x.bare hv

/-! ### Numbers that face each other -/

/-- A host that has closed its connection first. -/
def waiting : Host := talked
  [.store ⟨10, 0, 0, 2⟩ ⟨2, 0, 0, 0, 0, 2⟩, .serveEcho, fromPeer ⟨99, 0, .syn, 1000⟩ [],
    fromPeer ⟨100, 2, .ack, 1000⟩ [], .close (.stream peerStream)]

theorem visited_waiting : Visited waiting := visited_talked (by decide +kernel)

/-- An acknowledgement that lies some way ahead of the next number. -/
def waiting.ack (n : SeqNum) : Segment := ⟨4000, echoPort, 100, 3 + n, .ack, []⟩

theorem waiting_waits : waiting.stream? peerStream = some 0 ∧
    (waiting.connection 0).control.state = .finWait1 ∧ (waiting.connection 0).control.next = 3 ∧
    peerStream = ⟨⟨(waiting.device 0).ip, echoPort⟩, ⟨⟨10, 0, 0, 2⟩, 4000⟩⟩ := by
  decide +kernel

theorem acknowledges_waiting (n : SeqNum) :
    ∃ b, waiting.Acknowledgement 0 b ⟨10, 0, 0, 2⟩ (waiting.ack n) peerStream 0 n := by
  obtain ⟨hc, hs, hn, he⟩ := waiting_waits
  have hr := Segment.reads_encode ⟨peerStream.peer, peerStream.here⟩ ⟨100, 3 + n, .ack, 1000⟩ []
  obtain ⟨hf, hy, ha⟩ : Flags.ack.has .rst = false ∧ Flags.ack.has .syn = false ∧
      Flags.ack.has .ack = true := by decide
  refine ⟨_, Segment.decode_eq_ok.mpr hr, he, hc, hs, hf, hy, ha, ?_⟩
  rw [hn]
  rfl

theorem serialOrder_waiting : Visited waiting ∧ ∃ b h',
    waiting.Acknowledgement 0 b ⟨10, 0, 0, 2⟩ (waiting.ack 0x7ffffffe) peerStream 0 0x7ffffffe ∧
    InState h' peerStream 0 (some .finWait2) ∧
    ∀ app, (receiveSegment app 0 b ⟨10, 0, 0, 2⟩).run waiting = (some (), h') := by
  obtain ⟨b, x⟩ := acknowledges_waiting 0x7ffffffe
  obtain ⟨h', hi, hrun⟩ := visited_waiting.serialOrder.bare x (by decide) rfl
  exact ⟨visited_waiting, b, h', x, hi, hrun⟩

/-- **Two numbers that lie `2 ^ 31 - 1` apart are before each other**, and an acknowledgement that lies as
far ahead of the next number is not heard. -/
theorem waiting_facing : SeqNum.apart (3 + 0x7fffffff) 3 = 2 ^ 31 - 1 ∧
    SeqNum.compare (3 + 0x7fffffff) 3 = .lt ∧ SeqNum.compare 3 (3 + 0x7fffffff) = .lt ∧
    Visited waiting ∧ ∃ b h',
      waiting.Acknowledgement 0 b ⟨10, 0, 0, 2⟩ (waiting.ack 0x7fffffff) peerStream 0 0x7fffffff ∧
      (∀ app, (receiveSegment app 0 b ⟨10, 0, 0, 2⟩).run waiting = (some (), h')) ∧
      h'.stateOf peerStream = some .finWait1 := by
  obtain ⟨b, x⟩ := acknowledges_waiting 0x7fffffff
  obtain ⟨h', ⟨hp, hs⟩, hrun⟩ := x.bare visited_waiting (by decide) rfl
  have hf : h'.stateOf peerStream = some .finWait1 := by
    unfold stateOf
    rw [hp.registered, Option.map_some, hs]
    decide
  exact ⟨by decide, by decide, by decide, visited_waiting, b, h', x, hrun, hf⟩

end Host

end InetHost
