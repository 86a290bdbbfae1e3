import InetHost.Proofs.Stream.Life
import InetHost.Proofs.Stream.Solo
import InetHost.Proofs.Stream.Tally

/-!
# Connections are independent

Two segments of different connections may come in in either order, if the applications keep to their
connections: it is the same for either connection, and for everything else but the order in which things
wait.

* `Incoming`: a segment of a connection whose application keeps to it;
* `SameDoings`: the same happened on a connection from one host to another as between two others;
* **`Visited.independent`**: the order of two segments does not matter.
-/

namespace InetHost.Host

open Tcp

variable {h : Host} {c c₁ c₂ : ConnId} {s s₁ s₂ : Stream} {d d₁ d₂ : DeviceId} {b b₁ b₂ : Bytes}
  {src src₁ src₂ : Ip}

/-- **A segment of a connection** whose application keeps to it. -/
structure Incoming (h : Host) (c : ConnId) (s : Stream) (d : DeviceId) (b : Bytes) (src : Ip) : Prop where
  registered : h.stream? s = some c
  keeps : (h.connection c).KeepsTo
  segment : ∃ g, Segment.decode b = .ok g ∧ s = ⟨⟨(h.device d).ip, g.dstPort⟩, ⟨src, g.srcPort⟩⟩

/-- **From `h` to `h₁` the same happened on a connection as from `h'` to `h₁'`**, and nothing happened on
another. Jobs are put on queues only where they do not wait there already, so they are left out. -/
def SameDoings (c : ConnId) (h h₁ h' h₁' : Host) : Prop :=
  ∃ new new', h₁.journal = new ++ h.journal ∧ h₁'.journal = new' ++ h'.journal ∧
    new.filter (! ·.isPut) = new'.filter (! ·.isPut) ∧
    ∀ e ∈ new ++ new', e.about = none ∨ e.about = some c

theorem Visited.engaged (hv : Visited h) (hd : ∀ d, (h.device d).Steady) (r : Incoming h c s d b src) :
    Engaged c s h := by
  obtain ⟨hl, hs⟩ := hv.lives.registered s c r.registered
  refine ⟨hd, ?_, ?_, r.keeps, .inl r.registered⟩
  · rwa [show h.board.lines.length = h.connections.length from List.length_map _] at hl
  · rwa [line_board] at hs

/-- Devices that share a task share its queue. -/
theorem Visited.sorted (hv : Visited h) : h.outbox.Sorted := by
  obtain ⟨s, h₀, e, hs, hl⟩ := hv
  have hk : Known h := ((disciplined_start hs).shifts (shifts_leads hl)).toKnown
  intro d e w x hw hx ht
  rw [staging_outbox] at hw hx
  obtain ⟨w₀, hw₀, rfl⟩ := Option.map_eq_some_iff.mp hw
  obtain ⟨x₀, hx₀, rfl⟩ := Option.map_eq_some_iff.mp hx
  have hq : w₀.queue = x₀.queue := (hk.postable_staging hw₀).home hx₀ ht.symm
  exact hq

theorem Engaged.sameDoings {h' : Host} (p : Engaged c s h) (p' : Engaged c s h') (al : Resembles c s h h')
    (l : List (Stroke c s)) : SameDoings c h (Host.plays l h) h' (Host.plays l h') := by
  obtain ⟨new, hj, hn, hf⟩ := p.journal_plays l
  obtain ⟨new', hj', hn', hf'⟩ := p'.journal_plays l
  refine ⟨new, new', hj, hj', ?_, List.forall_mem_append.mpr ⟨hn, hn'⟩⟩
  simp only [al.face] at hf'
  rw [hf, hf']

/-- **Connections are independent.** Two segments of different connections may be taken in either
order. -/
theorem Visited.independent (hv : Visited h) (hd : ∀ d, (h.device d).Steady)
    (r₁ : Incoming h c₁ s₁ d₁ b₁ src₁) (r₂ : Incoming h c₂ s₂ d₂ b₂ src₂) (hs : s₁ ≠ s₂) (n : Nat) :
    ∃ h₁ h₁₂ h₂ h₂₁,
      (exec (n + 2) {} (.receiveSegment d₁ (.bytes b₁) src₁)).run h = (some .done, h₁) ∧
      (exec (n + 2) {} (.receiveSegment d₂ (.bytes b₂) src₂)).run h₁ = (some .done, h₁₂) ∧
      (exec (n + 2) {} (.receiveSegment d₂ (.bytes b₂) src₂)).run h = (some .done, h₂) ∧
      (exec (n + 2) {} (.receiveSegment d₁ (.bytes b₁) src₁)).run h₂ = (some .done, h₂₁) ∧
      h₁₂.tally = h₂₁.tally ∧ SameDoings c₁ h h₁ h₂ h₂₁ ∧ SameDoings c₂ h h₂ h₁ h₁₂ := by
  have p₁ := hv.engaged hd r₁
  have p₂ := hv.engaged hd r₂
  have hc : c₁ ≠ c₂ := by
    rintro rfl
    exact hs (p₁.stream.symm.trans p₂.stream)
  obtain ⟨g₁, hg₁, hs₁⟩ := r₁.segment
  obtain ⟨g₂, hg₂, hs₂⟩ := r₂.segment
  obtain ⟨l₁, hx₁⟩ := p₁.exec r₁.registered hg₁ hs₁ n
  obtain ⟨l₂, hx₂⟩ := p₂.exec r₂.registered hg₂ hs₂ n
  -- the strokes of one segment are nothing to the connection of the other
  obtain ⟨p₁₂, a₁₂⟩ := p₂.aside hc hs l₁
  obtain ⟨p₂₁, a₂₁⟩ := p₁.aside hc.symm hs.symm l₂
  exact ⟨plays l₁ h, plays l₂ (plays l₁ h), plays l₂ h, plays l₁ (plays l₂ h),
    hx₁ h (.refl ..) p₁, hx₂ _ a₁₂ p₁₂, hx₂ h (.refl ..) p₂, hx₁ _ a₂₁ p₂₁,
    tally_plays_plays hv.sorted hc l₁ l₂, p₁.sameDoings p₂₁ a₂₁ l₁, p₂.sameDoings p₁₂ a₁₂ l₂⟩

/-- A segment from a port of 10.0.0.2. -/
def fromPort (port : UInt16) (t : Header) (data : Bytes) : Bytes :=
  encode ⟨⟨⟨10, 0, 0, 2⟩, port⟩, ⟨talker.ip, echoPort⟩⟩ t data

/-- A host with two connections of a listener that sends back what it reads and closes. -/
def pair : Host :=
  talked [.store ⟨10, 0, 0, 2⟩ ⟨2, 0, 0, 0, 0, 2⟩,
    .listen echoPort [] [[.send .current .received, .close .current]],
    .receiveSegment 0 (.bytes (fromPort 4000 ⟨99, 0, .syn, 1000⟩ [])) ⟨10, 0, 0, 2⟩,
    .receiveSegment 0 (.bytes (fromPort 4001 ⟨499, 0, .syn, 1000⟩ [])) ⟨10, 0, 0, 2⟩]

/-- The ends of a connection with a port of 10.0.0.2. -/
def pair.stream (port : UInt16) : Stream := ⟨⟨talker.ip, echoPort⟩, ⟨⟨10, 0, 0, 2⟩, port⟩⟩

/-- Data and a FIN for one of the connections, and a RST for the other. -/
theorem independent_pair : ∃ h₁ h₁₂ h₂ h₂₁,
    (exec 2 {} (.receiveSegment 0 (.bytes (fromPort 4000 ⟨100, 2, .fin ||| .ack, 1000⟩ [104, 105]))
      ⟨10, 0, 0, 2⟩)).run pair = (some .done, h₁) ∧
    (exec 2 {} (.receiveSegment 0 (.bytes (fromPort 4001 ⟨500, 0, .rst, 0⟩ [])) ⟨10, 0, 0, 2⟩)).run h₁ =
      (some .done, h₁₂) ∧
    (exec 2 {} (.receiveSegment 0 (.bytes (fromPort 4001 ⟨500, 0, .rst, 0⟩ [])) ⟨10, 0, 0, 2⟩)).run
      pair = (some .done, h₂) ∧
    (exec 2 {} (.receiveSegment 0 (.bytes (fromPort 4000 ⟨100, 2, .fin ||| .ack, 1000⟩ [104, 105]))
      ⟨10, 0, 0, 2⟩)).run h₂ = (some .done, h₂₁) ∧
    h₁₂.tally = h₂₁.tally ∧ SameDoings 0 pair h₁ h₂ h₂₁ ∧ SameDoings 1 pair h₂ h₁ h₁₂ := by
  have hv : Visited pair := visited_talked (by decide +kernel)
  have hs : pair.devices = [{ mac := talker.mac, ip := talker.ip }] := by decide +kernel
  have hd : ∀ d, (pair.device d).Steady := by
    intro d _ o ho
    unfold device at ho
    rw [hs] at ho
    cases d with
    | zero => cases ho
    | succ d => cases ho
  have ha : (pair.device 0).ip = talker.ip := by decide +kernel
  have r₁ : Incoming pair 0 (pair.stream 4000) 0
      (fromPort 4000 ⟨100, 2, .fin ||| .ack, 1000⟩ [104, 105]) ⟨10, 0, 0, 2⟩ :=
    ⟨by decide +kernel, by decide +kernel, ⟨4000, echoPort, 100, 2, .fin ||| .ack, [104, 105]⟩, by rfl,
      by rw [ha]; rfl⟩
  have r₂ : Incoming pair 1 (pair.stream 4001) 0 (fromPort 4001 ⟨500, 0, .rst, 0⟩ []) ⟨10, 0, 0, 2⟩ :=
    ⟨by decide +kernel, by decide +kernel, ⟨4001, echoPort, 500, 0, .rst, []⟩, by rfl,
      by rw [ha]; rfl⟩
  exact hv.independent hd r₁ r₂ (by decide) 0

end InetHost.Host
