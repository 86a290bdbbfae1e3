import InetHost.Proofs.Stream.Stroke

/-!
# What sending touches

A host that sends something offers frames to its devices. Whatever comes of it, nothing else of the host
changes.

* `Dispatch h h'`: from `h` to `h'` frames were offered and nothing else happened;
* **`dispatch_sendPacket`**: so it is when a packet is sent, or an address asked for in its place;
* `Emission`, `emissions`: the segments that a host tried to send, one after another;
* `Posts l h h'`: from `h` to `h'` the host tried to send `l` and did nothing else;
* **`posts_sendSegment`**, `posts_answer`: a segment is tried once;
* `passage`: what comes of a segment; **`result_sendSegment`**, `utters_sendSegment`: so it is.
-/

namespace InetHost

/-- A frame was offered, given to the hardware or put on the wire, a job was put on a queue, or a fact was
reported. -/
def Event.isDispatch : Event → Bool
  | .offered _ _ _ | .transmitted _ _ _ | .wire _ _ | .put _ _ | .noticed _ => true
  | _ => false

namespace Host

open Tcp

variable {h h₁ h' : Host}

theorem works_of_result {v : Device} (hr : v.face.result = .ok ()) : Works v := by
  intro hs
  unfold Device.face Face.result at hr
  rw [hs] at hr
  cases hf : v.failure with
  | none => rfl
  | some r =>
    rw [hf] at hr
    cases hr

/-! ## Dispatches -/

/-- **Frames were offered, and nothing else happened.** -/
def Dispatch (h h' : Host) : Prop :=
  ∃ ds ts qs new,
    h' = { h with devices := ds, tasks := ts, queues := qs, journal := new ++ h.journal } ∧
      (∀ e ∈ new, e.isDispatch = true) ∧
      ∀ d, (h'.device d).mac = (h.device d).mac ∧ (h'.device d).ip = (h.device d).ip

theorem Dispatch.refl (h : Host) : Dispatch h h :=
  ⟨_, _, _, [], rfl, List.forall_mem_nil _, fun _ => ⟨rfl, rfl⟩⟩

theorem Dispatch.trans (r : Dispatch h h₁) (r' : Dispatch h₁ h') : Dispatch h h' := by
  obtain ⟨ds, ts, qs, new, rfl, hn, hd⟩ := r
  obtain ⟨ds', ts', qs', new', rfl, hn', hd'⟩ := r'
  refine ⟨ds', ts', qs', new' ++ new, ?_, List.forall_mem_append.mpr ⟨hn', hn⟩, fun d => ?_⟩
  · rw [List.append_assoc]
  · exact ⟨(hd' d).1.trans (hd d).1, (hd' d).2.trans (hd d).2⟩

instance : Std.Refl Dispatch := ⟨Dispatch.refl⟩

instance : IsTrans Host Dispatch := ⟨fun _ _ _ => Dispatch.trans⟩

theorem dispatch_note (n : Notice) (h : Host) : Does Dispatch h (note n) :=
  ⟨_, _, _, [.noticed n], rfl, List.forall_mem_singleton.mpr rfl, fun _ => ⟨rfl, rfl⟩⟩

theorem isDispatch_of_told {x : Face} {f : Bytes} {new : List Event} {e : Event} (he : e ∈ new)
    (hn : new.filter (! ·.isPut) = x.told d f) : e.isDispatch = true := by
  cases hp : e.isPut with
  | true => cases e <;> first | rfl | cases hp
  | false =>
    have hm : e ∈ x.told d f := hn ▸ List.mem_filter.mpr ⟨he, by rw [hp]; rfl⟩
    unfold Face.told transmission at hm
    revert hm
    cases x.staged <;> cases x.failure <;> simp <;> rintro (rfl | rfl | rfl) <;> rfl

theorem dispatch_offer (d : DeviceId) (f : Bytes) (h : Host) : Does Dispatch h (offer d f) := by
  obtain ⟨ds, ts, qs, j, ho⟩ := run_offer_eq d f h
  obtain ⟨new, hj, -, hn⟩ := journal_offer d f h
  obtain ⟨r, hq⟩ := offer_eq d f h
  have hj' : j = new ++ h.journal := by
    rw [ho] at hj
    exact hj
  refine ⟨ds, ts, qs, new, by rw [ho, hj'], fun e he => isDispatch_of_told he hn, fun e => ?_⟩
  exact ⟨hq.mac e, hq.ip e⟩

theorem dispatch_sendFrame (b : PacketBuffer) (type : UInt16) (dst : Mac) (d : DeviceId) (h : Host) :
    Does Dispatch h (sendFrame b type dst d) := by
  refine Does.get ?_
  split
  · exact Does.pure _
  · exact dispatch_offer d _ h

theorem dispatch_lookup (d : DeviceId) (ip : Ip) (h : Host) : Does Dispatch h (lookup d ip) := by
  refine Does.get ?_
  split
  · exact Does.pure _
  · refine Does.bind (Does.get (dispatch_sendFrame _ _ _ d h)) ?_
    split
    · exact Does.pure _
    · exact Does.bind (dispatch_note _ _) (Does.pure _)

/-- **A packet is dispatched**, or an address is asked for in its place. -/
theorem dispatch_sendPacket (b : PacketBuffer) (protocol : UInt8) (dst : Ip) (d : DeviceId) (h : Host) :
    Does Dispatch h (sendPacket b protocol dst d) := by
  refine Does.get ?_
  dsimp only
  split
  · exact Does.pure _
  · split
    · exact Does.pure _
    · refine Does.bind (dispatch_lookup d dst h) ?_
      split
      · exact Does.pure _
      · exact dispatch_sendFrame _ _ _ d _

end Host

/-! ## Segments -/

/-- A segment that a host tried to send. -/
structure Emission where
  conn : Option ConnId
  device : DeviceId
  stream : Stream
  header : Tcp.Header
  data : Bytes
  deriving DecidableEq

/-- The segment that a host tried to send. -/
def Event.emission : Event → Option Emission
  | .emitted c d s t data _ => some ⟨c, d, s, t, data⟩
  | _ => none

/-- The segments that a host tried to send, one after another. -/
def emissions (j : List Event) : List Emission := inOrder Event.emission j

theorem emissions_append (new j : List Event) : emissions (new ++ j) = emissions j ++ emissions new :=
  inOrder_both _ new j

theorem emissions_eq_nil {new : List Event} (hn : ∀ e ∈ new, e.isDispatch = true) :
    emissions new = [] := by
  refine inOrder_eq_nil fun e he => ?_
  have hd := hn e he
  cases e <;> first | rfl | cases hd

namespace Host

open Tcp

variable {h h₁ h' : Host} {l l' : List Emission}

/-- **Some segments were tried**, and nothing else happened: the application was not called, and only the
devices and what waits for them may have changed. -/
def Posts (l : List Emission) (h h' : Host) : Prop :=
  ∃ ds ts qs new,
    h' = { h with devices := ds, tasks := ts, queues := qs, journal := new ++ h.journal } ∧
      (∀ e ∈ new, e.isCall = false) ∧ emissions new = l ∧
      ∀ d, (h'.device d).mac = (h.device d).mac ∧ (h'.device d).ip = (h.device d).ip

theorem Posts.refl (h : Host) : Posts [] h h :=
  ⟨_, _, _, [], rfl, List.forall_mem_nil _, rfl, fun _ => ⟨rfl, rfl⟩⟩

theorem Posts.trans (p : Posts l h h₁) (p' : Posts l' h₁ h') : Posts (l ++ l') h h' := by
  obtain ⟨ds, ts, qs, new, rfl, hn, hl, hd⟩ := p
  obtain ⟨ds', ts', qs', new', rfl, hn', hl', hd'⟩ := p'
  refine ⟨ds', ts', qs', new' ++ new, ?_, List.forall_mem_append.mpr ⟨hn', hn⟩, ?_, fun d => ?_⟩
  · rw [List.append_assoc]
  · rw [emissions_append, hl, hl']
  · exact ⟨(hd' d).1.trans (hd d).1, (hd' d).2.trans (hd d).2⟩

theorem Dispatch.posts (r : Dispatch h h') : Posts [] h h' := by
  obtain ⟨ds, ts, qs, new, rfl, hn, hd⟩ := r
  refine ⟨ds, ts, qs, new, rfl, fun e he => ?_, emissions_eq_nil hn, hd⟩
  have ht := hn e he
  cases e <;> first | rfl | cases ht

theorem posts_record {e : Event} (he : e.isCall = false) (h : Host) :
    Posts (emissions [e]) h ((record e).run h).2 :=
  ⟨_, _, _, [e], rfl, List.forall_mem_singleton.mpr he, rfl, fun _ => ⟨rfl, rfl⟩⟩

/-- **A segment is tried once.** -/
theorem posts_sendSegment (c : Option ConnId) (d : DeviceId) (s : Stream) (t : Header) (data : Bytes)
    (h : Host) : Posts [⟨c, d, s, t, data⟩] h ((sendSegment c d s t data).run h).2 := by
  have hp := dispatch_sendPacket (.withRoom headroom (encode s t data)) Ipv4.tcp s.peer.ip d h
  unfold Does at hp
  unfold sendSegment
  rw [StateT.run_bind]
  generalize (sendPacket (.withRoom headroom (encode s t data)) Ipv4.tcp s.peer.ip d).run h = r at hp ⊢
  exact hp.posts.trans (posts_record (e := .emitted c d s t data r.1.toBool) rfl r.2)

theorem posts_answer (c : Option ConnId) (d : DeviceId) (s : Stream) (t : Header) (h : Host) :
    Posts [⟨c, d, s, t, []⟩] h ((answer c d s t).run h).2 := by
  have hs := posts_sendSegment c d s t [] h
  unfold answer
  rw [StateT.run_bind]
  generalize (sendSegment c d s t []).run h = r at hs ⊢
  obtain ⟨r, h'⟩ := r
  cases r with
  | ok _ => exact hs
  | error e => exact hs.trans (dispatch_note _ h').posts

/-! ### What comes of it -/

/-- What comes of a segment between two ends that goes through a device. -/
def passage (h : Host) (d : DeviceId) (s : Stream) : Except NetError Unit :=
  match h.arp.get? s.peer.ip with
  | none => .error (.unresolved s.peer.ip)
  | some _ => (h.device d).face.result

section

variable {c : Option ConnId} {d : DeviceId} {s : Stream} {t : Header} {data : Bytes} {mac : Mac}

/-- A segment to a peer that is known is one frame. -/
theorem run_sendSegment (hm : h.arp.get? s.peer.ip = some mac)
    (hl : Ipv4.headerLength + (encode s t data).length ≤ Ipv4.maxLength) :
    (sendSegment c d s t data).run h =
      let r := (offer d (h.segmentFrame d s mac t data)).run h
      (r.1, ((record (.emitted c d s t data r.1.toBool)).run r.2).2) := by
  unfold sendSegment
  rw [StateT.run_bind, run_sendPacket ⟨hm, hl⟩]
  rfl

theorem result_sendSegment (hl : Ipv4.headerLength + (encode s t data).length ≤ Ipv4.maxLength) :
    ((sendSegment c d s t data).run h).1 = h.passage d s := by
  unfold passage
  cases hm : h.arp.get? s.peer.ip with
  | none =>
    have hr := result_sendPacket_unresolved hm hl Ipv4.tcp d
    unfold sendSegment
    rw [StateT.run_bind]
    generalize (sendPacket (.withRoom headroom (encode s t data)) Ipv4.tcp s.peer.ip d).run h = r at hr ⊢
    exact hr
  | some mac =>
    rw [run_sendSegment hm hl]
    exact result_offer d _ h

/-- **A segment that gets through is one frame**, and nothing else is sent. -/
theorem utters_sendSegment (hl : Ipv4.headerLength + (encode s t data).length ≤ Ipv4.maxLength)
    (hr : ((sendSegment c d s t data).run h).1 = .ok ()) : ∃ mac, h.arp.get? s.peer.ip = some mac ∧
      Utters d [h.segmentFrame d s mac t data] h ((sendSegment c d s t data).run h).2 := by
  rw [result_sendSegment hl] at hr
  unfold passage at hr
  cases hm : h.arp.get? s.peer.ip with
  | none =>
    rw [hm] at hr
    cases hr
  | some mac =>
    rw [hm] at hr
    have hw : Works (h.device d) := works_of_result hr
    refine ⟨mac, rfl, ?_⟩
    rw [run_sendSegment hm hl]
    exact (utters_offer hw _).2.trans (utters_record rfl _)

end

end Host

end InetHost
