import InetHost.Proofs.Exchange.Utterance
import InetHost.Proofs.Run.Ends
import InetHost.Proofs.Stream.Growth

/-!
# Strokes on a connection

What a host does on one connection is put together from a few kinds of strokes: the connection changes,
leaves its place, something about it goes into the journal, or a device is offered a frame.

* `Face`, `Resembles`: what a device shows to those who send through it, and two hosts that look the same
  from one connection;
* `Engaged`: a connection in its place, whose application keeps to it;
* `Stroke`, `plays`: the strokes, and what becomes of a host by some of them;
* `Engaged.play`, `Resembles.play`: a connection's own strokes keep the hosts looking the same;
  `Engaged.aside`, `Engaged.apart`: so do the strokes on another;
* **`journal_plays`**: what the strokes enter in the journal is told by how the host looks.
-/

namespace InetHost

/-! ## Devices from outside -/

/-- What a device shows to those who send through it. -/
structure Face where
  mac : Mac
  ip : Ip
  staged : Bool
  failure : Option Refusal

/-- The face of a device. -/
def Device.face (v : Device) : Face := ⟨v.mac, v.ip, v.staging.isSome, v.failure⟩

/-- The hardware of a device always fails in the same way or never. Where it is given no frame at once,
that does not matter. -/
def Device.Steady (v : Device) : Prop := v.staging = none → ∀ o ∈ v.outcomes, o = v.failure

/-- What comes of an offer to a device. -/
def Face.result (x : Face) : Except NetError Unit :=
  if x.staged then .ok () else
    match x.failure with
    | none => .ok ()
    | some r => .error (.refused r)

/-- A job was put on a queue. -/
def Event.isPut : Event → Bool
  | .put _ _ => true
  | _ => false

/-- The other events of an offer, the last first. -/
def Face.told (x : Face) (d : DeviceId) (f : Bytes) : List Event :=
  if x.staged then [.offered d f none]
  else Host.transmission d f x.failure ++ [.offered d f x.failure]

theorem Device.Steady.failure_eq {v : Device} (hv : v.Steady) (hs : v.staging = none) :
    ({ v with outcomes := v.outcomesLeft } : Device).failure = v.failure := by
  unfold Device.failure
  change v.outcomesLeft.headD none = v.outcomes.headD none
  cases ho : v.outcomesLeft with
  | nil =>
    have hn : v.outcomes = [] := by
      unfold Device.outcomesLeft at ho
      split_ifs at ho with ht
      · exact ho
      · rw [ho] at ht
        exact absurd rfl ht
    rw [hn]
  | cons o os => exact hv hs o (Host.mem_outcomesLeft (ho ▸ List.mem_cons_self))

theorem Device.Steady.used {v : Device} (hv : v.Steady) (hs : v.staging = none) :
    ({ v with outcomes := v.outcomesLeft } : Device).face = v.face ∧
      ({ v with outcomes := v.outcomesLeft } : Device).Steady := by
  have hf := hv.failure_eq hs
  refine ⟨?_, fun _ o ho => ?_⟩
  · unfold Device.face
    rw [hf]
  · rw [hf]
    exact hv hs o (Host.mem_outcomesLeft ho)

namespace Host

variable {h h' : Host} {c c' : ConnId} {s s' : Stream} {d e : DeviceId} {f : Bytes}

/-! ## Offers -/

theorem devices_offer_staged {w : Staging} (hs : (h.device d).staging = some w) (f : Bytes) :
    ((offer d f).run h).2.devices = h.devices.modify d fun v =>
      { v with staging := v.staging.map fun w => { w with frames := w.frames ++ [f] } } := by
  rw [run_offer hs, run_enqueue]
  split_ifs <;> rfl

theorem devices_offer_direct (hs : (h.device d).staging = none) (f : Bytes) :
    ((offer d f).run h).2.devices =
      h.devices.modify d fun v => { v with outcomes := v.outcomesLeft } := by
  rw [run_offer_direct hs]
  rfl

/-- **Devices look the same after an offer.** -/
theorem face_offer (hd : ∀ e, (h.device e).Steady) (d : DeviceId) (f : Bytes) (e : DeviceId) :
    (((offer d f).run h).2.device e).face = (h.device e).face ∧
      (((offer d f).run h).2.device e).Steady := by
  have hv := hd e
  unfold device at hv ⊢
  cases hs : (h.device d).staging with
  | none =>
    rw [devices_offer_direct hs, getD_modify]
    split_ifs with he
    · obtain ⟨rfl, -⟩ := he
      exact hv.used hs
    · exact ⟨rfl, hv⟩
  | some w =>
    rw [devices_offer_staged hs, getD_modify]
    split_ifs with he
    · obtain ⟨rfl, -⟩ := he
      have hv' : (h.devices.getD d default).staging = some w := hs
      refine ⟨?_, fun hn => ?_⟩
      · unfold Device.face
        rw [hv']
        rfl
      · rw [hv'] at hn
        cases hn
    · exact ⟨rfl, hv⟩

theorem result_offer (d : DeviceId) (f : Bytes) (h : Host) :
    ((offer d f).run h).1 = (h.device d).face.result := by
  unfold Device.face Face.result
  cases hs : (h.device d).staging with
  | none => rw [run_offer_direct hs]; rfl
  | some w => exact (offer_staged hs f).1

/-- **What an offer enters in the journal** is told by the device's face, but for the jobs. -/
theorem journal_offer (d : DeviceId) (f : Bytes) (h : Host) : ∃ new,
    ((offer d f).run h).2.journal = new ++ h.journal ∧ (∀ e ∈ new, e.about = none) ∧
      new.filter (! ·.isPut) = (h.device d).face.told d f := by
  unfold Device.face Face.told
  cases hs : (h.device d).staging with
  | none =>
    rw [run_offer_direct hs]
    cases (h.device d).failure with
    | none =>
      exact ⟨[.wire d f, .transmitted d f none, .offered d f none], rfl, by simp [Event.about], rfl⟩
    | some r =>
      exact ⟨[.transmitted d f (some r), .offered d f (some r)], rfl, by simp [Event.about], rfl⟩
  | some w =>
    rw [run_offer hs, run_enqueue]
    by_cases hq : (((stage d f).run h).2.task w.task).queued = true
    · rw [if_pos hq]
      exact ⟨[.offered d f none], rfl, by simp [Event.about], rfl⟩
    · rw [if_neg hq]
      exact ⟨[.put w.queue (.task w.task), .offered d f none], rfl, by simp [Event.about], rfl⟩

/-! ## A connection and what it sees -/

end Host

/-- An operation on the connection that application code was called for, between the ends `s`. -/
def Op.keepsTo (s : Stream) : Op → Bool
  | .send t _ | .close t | .stateOf t => t = .current ∨ t = .stream s
  | _ => false

/-- The application code for what a connection reads; none for a service of the host's own. -/
def Connection.script (k : Connection) : Script :=
  match k.service with
  | .echo | .page => []
  | .script _ read => read

/-- The application keeps to the connection when it reads. -/
def Connection.KeepsTo (k : Connection) : Prop :=
  ∀ ops ∈ k.script, ∀ op ∈ ops, op.keepsTo k.stream = true

instance (k : Connection) : Decidable k.KeepsTo :=
  inferInstanceAs (Decidable (∀ ops ∈ k.script, ∀ op ∈ ops, op.keepsTo k.stream = true))

namespace Host

variable {h h' : Host} {c c' : ConnId} {s s' : Stream} {d e : DeviceId} {f : Bytes}

/-- **A connection in its place**, or on its way out of it, on a host with steady devices. -/
structure Engaged (c : ConnId) (s : Stream) (h : Host) : Prop where
  steady : ∀ d, (h.device d).Steady
  lt : c < h.connections.length
  stream : (h.connection c).stream = s
  keeps : (h.connection c).KeepsTo
  place : h.stream? s = some c ∨ h.stream? s = none

/-- **Two hosts look the same from a connection.** -/
structure Resembles (c : ConnId) (s : Stream) (h h' : Host) : Prop where
  config : h'.config = h.config
  arp : h'.arp = h.arp
  face : ∀ d, (h'.device d).face = (h.device d).face
  connection : h'.connection c = h.connection c
  place : h'.stream? s = h.stream? s

theorem Resembles.refl (c : ConnId) (s : Stream) (h : Host) : Resembles c s h h :=
  ⟨rfl, rfl, fun _ => rfl, rfl, rfl⟩

theorem Resembles.trans {h'' : Host} (a : Resembles c s h h') (a' : Resembles c s h' h'') :
    Resembles c s h h'' where
  config := a'.config.trans a.config
  arp := a'.arp.trans a.arp
  face d := (a'.face d).trans (a.face d)
  connection := a'.connection.trans a.connection
  place := a'.place.trans a.place

theorem Resembles.mac (a : Resembles c s h h') (d : DeviceId) : (h'.device d).mac = (h.device d).mac :=
  congrArg Face.mac (a.face d)

theorem Resembles.ip (a : Resembles c s h h') (d : DeviceId) : (h'.device d).ip = (h.device d).ip :=
  congrArg Face.ip (a.face d)

/-! ## Strokes -/

/-- **A stroke on connection `c`** between the ends `s`. -/
inductive Stroke (c : ConnId) (s : Stream) where
  /-- An event goes into the journal. -/
  | enter (e : Event) (he : e.about = none ∨ e.about = some c)
  /-- The connection changes. -/
  | alter (g : Connection → Connection) (hg : ∀ k, (g k).stream = k.stream ∧ (g k).service = k.service)
  /-- The connection leaves its place. -/
  | leave
  /-- A device is offered a frame. -/
  | offer (d : DeviceId) (f : Bytes)

/-- What becomes of a host by a stroke. -/
def Stroke.play : Stroke c s → Host → Host
  | .enter e _, h => { h with journal := e :: h.journal }
  | .alter g _, h => { h with connections := h.connections.modify c g }
  | .leave, h => { h with streams := h.streams.filter (·.1 ≠ s) }
  | .offer d f, h => ((Host.offer d f).run h).2

/-- What becomes of a host by some strokes, one after another. -/
def plays : List (Stroke c s) → Host → Host
  | [], h => h
  | t :: l, h => plays l (t.play h)

theorem plays_append (l l' : List (Stroke c s)) (h : Host) :
    plays (l ++ l') h = plays l' (plays l h) := by
  induction l generalizing h with
  | nil => rfl
  | cons t l ih => exact ih (t.play h)

theorem connection_alter (g : Connection → Connection) (c' : ConnId) (hc : c < h.connections.length) :
    ({ h with connections := h.connections.modify c' g } : Host).connection c =
      if c' = c then g (h.connection c) else h.connection c := by
  change (h.connections.modify c' g).getD c default = _
  rw [getD_modify]
  simp only [hc, and_true]
  rfl

theorem stream?_leave (s s' : Stream) (h : Host) :
    ({ h with streams := h.streams.filter (·.1 ≠ s') } : Host).stream? s =
      if s = s' then none else h.stream? s :=
  Switchboard.lookup_filter_ne h.streams s' s

theorem Engaged.offer (p : Engaged c s h) (d : DeviceId) (f : Bytes) :
    Engaged c s ((offer d f).run h).2 ∧ Resembles c s h ((offer d f).run h).2 := by
  obtain ⟨ds, ts, qs, j, ho⟩ := run_offer_eq d f h
  have hf := face_offer p.steady d f
  rw [ho] at hf ⊢
  exact ⟨⟨fun e => (hf e).2, p.lt, p.stream, p.keeps, p.place⟩,
    ⟨rfl, rfl, fun e => (hf e).1, rfl, rfl⟩⟩

/-- A connection stays in its place, or leaves it, by its own strokes. -/
theorem Engaged.play (p : Engaged c s h) (t : Stroke c s) : Engaged c s (t.play h) := by
  cases t with
  | enter e he => exact ⟨p.steady, p.lt, p.stream, p.keeps, p.place⟩
  | alter g hg =>
    have hk := connection_alter g c p.lt
    rw [if_pos rfl] at hk
    refine ⟨p.steady, by simpa [Stroke.play] using p.lt, ?_, ?_, p.place⟩
    · exact (congrArg Connection.stream hk).trans ((hg _).1.trans p.stream)
    · have hs := p.keeps
      change (({ h with connections := h.connections.modify c g } : Host).connection c).KeepsTo
      rw [hk]
      unfold Connection.KeepsTo Connection.script at hs ⊢
      rwa [(hg _).1, (hg _).2]
  | leave =>
    refine ⟨p.steady, p.lt, p.stream, p.keeps, .inr ?_⟩
    exact (stream?_leave s s h).trans (if_pos rfl)
  | offer d f => exact (p.offer d f).1

/-- Hosts that look the same go on doing so by a connection's own strokes. -/
theorem Resembles.play (a : Resembles c s h h') (p : Engaged c s h) (p' : Engaged c s h')
    (t : Stroke c s) : Resembles c s (t.play h) (t.play h') := by
  cases t with
  | enter e he => exact ⟨a.config, a.arp, a.face, a.connection, a.place⟩
  | alter g hg =>
    refine ⟨a.config, a.arp, a.face, ?_, a.place⟩
    refine (connection_alter g c p'.lt).trans (Eq.trans ?_ (connection_alter g c p.lt).symm)
    rw [a.connection]
  | leave =>
    refine ⟨a.config, a.arp, a.face, a.connection, ?_⟩
    exact (stream?_leave s s h').trans ((if_pos rfl).trans
      ((if_pos rfl).symm.trans (stream?_leave s s h).symm))
  | offer d f =>
    have o := (p.offer d f).2
    have o' := (p'.offer d f).2
    exact ⟨o'.config.trans (a.config.trans o.config.symm), o'.arp.trans (a.arp.trans o.arp.symm),
      fun e => (o'.face e).trans ((a.face e).trans (o.face e).symm),
      o'.connection.trans (a.connection.trans o.connection.symm),
      o'.place.trans (a.place.trans o.place.symm)⟩

/-- **The strokes on another connection are nothing to a connection.** -/
theorem Engaged.apart (p : Engaged c s h) (hc : c' ≠ c) (hs : s' ≠ s) (t : Stroke c' s') :
    Engaged c s (t.play h) ∧ Resembles c s h (t.play h) := by
  cases t with
  | enter e he =>
    exact ⟨⟨p.steady, p.lt, p.stream, p.keeps, p.place⟩, ⟨rfl, rfl, fun _ => rfl, rfl, rfl⟩⟩
  | alter g hg =>
    have hk : ((Stroke.alter g hg : Stroke c' s').play h).connection c = h.connection c :=
      (connection_alter g c' p.lt).trans (if_neg hc)
    exact ⟨⟨p.steady, by simpa [Stroke.play] using p.lt, hk ▸ p.stream, hk ▸ p.keeps, p.place⟩,
      ⟨rfl, rfl, fun _ => rfl, hk, rfl⟩⟩
  | leave =>
    have hk : ((Stroke.leave : Stroke c' s').play h).stream? s = h.stream? s :=
      (stream?_leave s s' h).trans (if_neg hs.symm)
    exact ⟨⟨p.steady, p.lt, p.stream, p.keeps, hk ▸ p.place⟩,
      ⟨rfl, rfl, fun _ => rfl, rfl, hk⟩⟩
  | offer d f => exact p.offer d f

theorem Engaged.plays (p : Engaged c s h) (l : List (Stroke c s)) : Engaged c s (plays l h) := by
  induction l generalizing h with
  | nil => exact p
  | cons t l ih => exact ih (p.play t)

theorem Resembles.plays (a : Resembles c s h h') (p : Engaged c s h) (p' : Engaged c s h')
    (l : List (Stroke c s)) : Resembles c s (plays l h) (plays l h') := by
  induction l generalizing h h' with
  | nil => exact a
  | cons t l ih => exact ih (a.play p p' t) (p.play t) (p'.play t)

theorem Engaged.aside (p : Engaged c s h) (hc : c' ≠ c) (hs : s' ≠ s) (l : List (Stroke c' s')) :
    Engaged c s (Host.plays l h) ∧ Resembles c s h (Host.plays l h) := by
  induction l generalizing h with
  | nil => exact ⟨p, .refl c s h⟩
  | cons t l ih =>
    obtain ⟨p₁, a₁⟩ := p.apart hc hs t
    obtain ⟨p₂, a₂⟩ := ih p₁
    exact ⟨p₂, a₁.trans a₂⟩

/-! ## The journal -/

/-- What a stroke enters in the journal but for jobs, the last first; `x` tells how devices look. -/
def Stroke.told (x : DeviceId → Face) : Stroke c s → List Event
  | .enter e _ => [e].filter (! ·.isPut)
  | .alter _ _ | .leave => []
  | .offer d f => (x d).told d f

/-- What some strokes enter. -/
def told (x : DeviceId → Face) : List (Stroke c s) → List Event
  | [] => []
  | t :: l => told x l ++ t.told x

theorem journal_play (t : Stroke c s) (h : Host) : ∃ new,
    (t.play h).journal = new ++ h.journal ∧ (∀ e ∈ new, e.about = none ∨ e.about = some c) ∧
      new.filter (! ·.isPut) = t.told fun d => (h.device d).face := by
  cases t with
  | enter e he => exact ⟨[e], rfl, List.forall_mem_singleton.mpr he, rfl⟩
  | alter | leave => exact ⟨[], rfl, List.forall_mem_nil _, rfl⟩
  | offer d f =>
    obtain ⟨new, hj, hn, hf⟩ := journal_offer d f h
    exact ⟨new, hj, fun e he => .inl (hn e he), hf⟩

theorem Engaged.face_play (p : Engaged c s h) (t : Stroke c s) (d : DeviceId) :
    ((t.play h).device d).face = (h.device d).face := by
  cases t with
  | offer d' f => exact (p.offer d' f).2.face d
  | _ => rfl

/-- **What strokes enter in the journal** is told by how devices look, but for the jobs. -/
theorem Engaged.journal_plays (p : Engaged c s h) (l : List (Stroke c s)) : ∃ new,
    (Host.plays l h).journal = new ++ h.journal ∧ (∀ e ∈ new, e.about = none ∨ e.about = some c) ∧
      new.filter (! ·.isPut) = told (fun d => (h.device d).face) l := by
  induction l generalizing h with
  | nil => exact ⟨[], rfl, List.forall_mem_nil _, rfl⟩
  | cons t l ih =>
    obtain ⟨new, hj, hn, hf⟩ := journal_play t h
    obtain ⟨new', hj', hn', hf'⟩ := ih (p.play t)
    simp only [p.face_play] at hf'
    refine ⟨new' ++ new, ?_, List.forall_mem_append.mpr ⟨hn', hn⟩, ?_⟩
    · rw [List.append_assoc, ← hj]
      exact hj'
    · rw [List.filter_append, hf, hf']
      rfl

end Host

end InetHost
