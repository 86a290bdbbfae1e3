import InetHost.Proofs.Queue.Alongside
import InetHost.Proofs.Run.Leads

/-!
# Deferred reception

Frames that come in may be received at once, or deferred and received when the host's own queue is
polled. It makes no difference: what the frames lead to on the queue waits behind the frames that are
still to come, just as it waits while they are received at once.

* `atOnce`, `later`: frames are received or deferred, and then the queue is polled;
* `Alike`: two hosts hold the same, and the same could be seen from outside;
* `run_drain_frames`: the jobs of the deferred frames, one by one;
* **`alike_atOnce_later`**: the two ways lead to hosts that are alike. The later poll ran one more job for
  every frame.
-/

namespace InetHost.Host

/-! ## The two ways -/

/-- Frames are received, one after the other. -/
def receiveAll (run : Exec) (fs : List (DeviceId × Bytes)) : Run Unit :=
  fs.forM fun f => do
    let _ ← run {} (.receive f.1 (.bytes f.2))

/-- Frames are deferred, one after the other. -/
def deferAll (run : Exec) (fs : List (DeviceId × Bytes)) : Run Unit :=
  fs.forM fun f => do
    let _ ← run {} (.defer f.1 (.bytes f.2))

/-- Frames are received, and the host's own queue is polled. -/
def atOnce (n fuel : Nat) (fs : List (DeviceId × Bytes)) : Run Reply := do
  receiveAll (perform (exec n) fuel) fs
  perform (exec n) fuel {} (.poll 0)

/-- Frames are deferred, and the host's own queue is polled. They are jobs as well, so the poll may run
as many more. -/
def later (n fuel : Nat) (fs : List (DeviceId × Bytes)) : Run Reply := do
  deferAll (perform (exec n) fuel) fs
  perform (exec n) (fuel + fs.length) {} (.poll 0)

/-- **Two hosts are alike**: they hold the same, queue by queue, and the same could be seen. -/
structure Alike (h h' : Host) : Prop where
  same : h' = { h with queues := h'.queues, journal := h'.journal }
  queue : ∀ q, h'.queue q = h.queue q
  visible : h'.journal.filter Event.visible = h.journal.filter Event.visible

/-- Two polls, of which the second ran some more jobs than the first. -/
def RanMore (l : Nat) (r r' : Reply) : Prop := ∃ k, r = .count k ∧ r' = .count (k + l)

/-- The jobs of deferred frames. -/
def frameJobs (fs : List (DeviceId × Bytes)) : List Job := fs.map fun f => .frame f.1 f.2

variable {p : List Job} {h h' h₁ h₂ : Host} {fs : List (DeviceId × Bytes)} {ds : List DeviceId}

theorem mem_of_holds {d : DeviceId} (hd : (frameJobs fs).any (holds d) = true) :
    ∃ f ∈ fs, f.1 = d := by
  obtain ⟨j, hj, hh⟩ := List.any_eq_true.mp hd
  obtain ⟨f, hf, rfl⟩ := List.mem_map.mp hj
  exact ⟨f, hf, beq_iff_eq.mp hh⟩

/-! ## Hosts with jobs ahead -/

theorem Ahead.refl (h : Host) : Ahead [] h h :=
  ⟨rfl, fun q => by rw [ite_self, List.nil_append], rfl, nofun⟩

theorem Ahead.alike (ha : Ahead [] h h') : Alike h h' :=
  ⟨ha.same, fun _ => ha.queue_eq (.inr rfl), ha.visible⟩

/-- A host on which no jobs are ahead is as good as the first. -/
theorem Ahead.join (ha : Ahead [] h h₁) (hb : Ahead p h h₂) : Ahead p h₁ h₂ where
  same := by
    rw [hb.same, ha.same]
  queue q := by
    rw [hb.queue q, ha.queue_eq (.inr rfl)]
  visible := hb.visible.trans ha.visible.symm
  held d hd := by
    have hh : (h₁.device d).held = (h.device d).held := ha.eq (f := fun h => (h.device d).held)
      fun _ _ _ => rfl
    rw [hh]
    exact hb.held d hd

theorem Ahead.put (ha : Ahead p h h') (hq : h.queue 0 = []) {d : DeviceId} (hd : (h.device d).held)
    (b : Bytes) : Ahead (p ++ [.frame d b]) h ((Host.put 0 (.frame d b)).run h').2 := by
  refine ⟨?_, fun q => ?_, ha.visible, fun d' hd' => ?_⟩
  · change { h' with queues := _, journal := _ } = _
    rw [ha.same]
    rfl
  · change Host.queue { h' with queues := alterQueue (· ++ [.frame d b]) 0 h'.queues } q = _
    rw [queue_alter]
    by_cases hz : q = 0
    · rw [if_pos hz, if_pos hz, hz, ha.queue 0, if_pos rfl, hq, List.append_nil, List.append_nil]
    · rw [if_neg hz, if_neg hz, ha.queue q, if_neg hz]
  · rw [List.any_append, Bool.or_eq_true] at hd'
    rcases hd' with hd' | hd'
    · exact ha.held d' hd'
    · rw [List.any_cons, List.any_nil, Bool.or_false] at hd'
      rwa [← beq_iff_eq.mp hd']

theorem Ahead.next {j : Job} (ha : Ahead (j :: p) h h') :
    ∃ h₁, (next? 0).run h' = (some j, h₁) ∧ Ahead p h h₁ := by
  have hq : h'.queue 0 = j :: (p ++ h.queue 0) := by
    rw [ha.queue 0, if_pos rfl, List.cons_append]
  unfold next?
  rw [act_get, hq]
  refine ⟨_, rfl, ?_, fun q => ?_, ha.visible, fun d hd => ha.held d ?_⟩
  · change { h' with queues := _, journal := _ } = _
    rw [ha.same]
  · change Host.queue { h' with queues := alterQueue (fun _ => p ++ h.queue 0) 0 h'.queues } q = _
    rw [queue_alter]
    by_cases hz : q = 0
    · rw [if_pos hz, if_pos hz, hz]
    · rw [if_neg hz, if_neg hz, ha.queue q, if_neg hz]
  · rw [List.any_cons, hd, Bool.or_true]

/-! ## Frame by frame -/

/-- Deferred frames are ahead on the queue. -/
theorem run_deferAll (inner : Exec) (fuel : Nat) (ha : Ahead p h h') (hq : h.queue 0 = [])
    (hd : ∀ f ∈ fs, (h.device f.1).held = true) :
    ∃ h₁, (deferAll (perform inner fuel) fs).run h' = (some (), h₁) ∧
      Ahead (p ++ frameJobs fs) h h₁ := by
  induction fs generalizing p h' with
  | nil => exact ⟨h', rfl, by rwa [frameJobs, List.map_nil, List.append_nil]⟩
  | cons f fs ih =>
    have hp := ha.put hq (hd f List.mem_cons_self) f.2
    obtain ⟨h₁, hr, ha₁⟩ := ih hp fun g hg => hd g (List.mem_cons_of_mem f hg)
    rw [List.append_assoc] at ha₁
    exact ⟨h₁, hr, ha₁⟩

theorem receiveAll_cons (inner : Exec) (k : Nat) (f : DeviceId × Bytes)
    (fs : List (DeviceId × Bytes)) : receiveAll (perform inner k) (f :: fs) =
      runJob inner (.frame f.1 f.2) >>= fun _ => receiveAll (perform inner k) fs := by
  change ((runJob inner (.frame f.1 f.2) >>= fun _ => pure Reply.done) >>= fun _ => pure ()) >>=
    (fun _ => receiveAll (perform inner k) fs) = _
  simp only [bind_assoc, pure_bind]

/-- **The jobs of deferred frames** run as the frames are received at once. -/
theorem run_drain_frames {n k : Nat} (ha : Ahead (frameJobs fs) h h') (hs : ∀ f ∈ fs, f.1 ∈ ds)
    (hr : (receiveAll (perform (execApart ds n) k) fs).run h = (some (), h₁)) (fuel m : Nat) :
    ∃ h₁', (drain (exec n) 0 (fuel + fs.length) m).run h' =
      (drain (exec n) 0 fuel (m + fs.length)).run h₁' ∧ Ahead [] h₁ h₁' := by
  induction fs generalizing h h' m with
  | nil =>
    obtain rfl : h = h₁ := congrArg Prod.snd hr
    exact ⟨h', rfl, ha⟩
  | cons f fs ih =>
    have hd : ∀ d, (frameJobs fs).any (holds d) = true → d ∈ ds := fun d hd => by
      obtain ⟨g, hg, rfl⟩ := mem_of_holds hd
      exact hs g (List.mem_cons_of_mem f hg)
    have hl : Alongside True (frameJobs fs) Eq (runJob (execApart ds n) (.frame f.1 f.2))
        (runJob (exec n) (.frame f.1 f.2)) := alongside_runJob (alongside_execApart hd n) _
    obtain ⟨h₂', hn, ha₂⟩ := Ahead.next ha
    rw [receiveAll_cons, run_bind] at hr
    cases hx : (runJob (execApart ds n) (.frame f.1 f.2)).run h with
    | mk a h₃ =>
      rw [hx] at hr
      cases a with
      | none => cases hr
      | some a =>
        obtain ⟨h₃', hx', ha₃⟩ := hl.run ha₂ hx
        obtain ⟨h₄, hd, ha₄⟩ := ih ha₃ (fun g hg => hs g (List.mem_cons_of_mem f hg)) hr (m + 1)
        refine ⟨h₄, ?_, ha₄⟩
        rw [List.length_cons, ← Nat.add_assoc, run_drain_next hn, run_bind, hx', ← Nat.add_assoc,
          Nat.add_right_comm m]
        exact hd

/-- What comes to an end where the queue is left alone comes to the same end in any case. -/
theorem run_receiveAll_exec {n k : Nat}
    (hr : (receiveAll (perform (execApart ds n) k) fs).run h = (some (), h₁)) :
    ∃ h₂, (receiveAll (perform (exec n) k) fs).run h = (some (), h₂) ∧ Ahead [] h₁ h₂ := by
  have hd : ∀ d, ([] : List Job).any (holds d) = true → d ∈ ds := nofun
  have hl : Alongside True [] Eq (receiveAll (perform (execApart ds n) k) fs)
      (receiveAll (perform (exec n) k) fs) := .forM fun f =>
    (alongside_perform (alongside_execApart hd n) hd k {} (.inl rfl)).bind fun _ _ _ => .pure rfl
  exact hl.run (.refl h) hr

/-! ## The two ways -/

/-- **Deferred frames lead to what they lead to at once**, if nothing waits on the host's own queue, the
devices are held and application code leaves them and that queue alone while the frames are received.
What it does when the queue is polled does not matter. -/
theorem alike_atOnce_later {n fuel : Nat} (hq : h.queue 0 = [])
    (hd : ∀ f ∈ fs, (h.device f.1).held = true)
    (hr : ((receiveAll (perform (execApart (fs.map (·.1)) n) fuel) fs).run h).1.isSome = true) :
    Option.Rel (RanMore fs.length) ((atOnce n fuel fs).run h).1 ((later n fuel fs).run h).1 ∧
    Alike ((atOnce n fuel fs).run h).2 ((later n fuel fs).run h).2 := by
  have hs : ∀ f ∈ fs, f.1 ∈ fs.map (·.1) := fun f hf => List.mem_map_of_mem hf
  generalize fs.map (·.1) = ds at hr hs
  obtain ⟨h₁, hr₁⟩ : ∃ h₁, (receiveAll (perform (execApart ds n) fuel) fs).run h = (some (), h₁) := by
    generalize (receiveAll (perform (execApart ds n) fuel) fs).run h = x at hr ⊢
    obtain ⟨_ | a, h₁⟩ := x
    · cases hr
    · exact ⟨h₁, rfl⟩
  obtain ⟨h₂, hr₂, ha₂⟩ := run_receiveAll_exec hr₁
  obtain ⟨h₃, hr₃, ha₃⟩ := run_deferAll (exec n) fuel (.refl h) hq hd
  obtain ⟨h₄, hr₄, ha₄⟩ := run_drain_frames ha₃ hs hr₁ fuel 0
  have hp := ((alongside_drain (q := 0) (alongside_exec n) (.inr rfl) fs.length fuel 0).map
    (S := RanMore fs.length) fun k _ hk => ⟨k, rfl, congrArg Reply.count hk⟩) h₂ h₄ (ha₂.join ha₄)
  have hi : (atOnce n fuel fs).run h = (perform (exec n) fuel {} (.poll 0)).run h₂ := by
    unfold atOnce
    rw [run_bind, hr₂]
  have hl : (later n fuel fs).run h =
      (Reply.count <$> drain (exec n) 0 fuel (0 + fs.length)).run h₄ := by
    unfold later
    rw [run_bind, hr₃]
    change (Reply.count <$> drain (exec n) 0 (fuel + fs.length) 0).run h₃ = _
    rw [← bind_pure_comp, ← bind_pure_comp, run_bind, run_bind, hr₄]
  rw [hi, hl]
  obtain ⟨hx, ha⟩ := hp.resolve_left fun hn => hn.1
  exact ⟨hx, ha.alike⟩

/-! ### A case -/

/-- A peer asks for the second of two devices. -/
def question : Bytes :=
  Ethernet.header .broadcast ⟨2, 0, 0, 0, 0, 2⟩ Ethernet.arpType ++
    Arp.Packet.encode ⟨Arp.request, ⟨2, 0, 0, 0, 0, 2⟩, ⟨10, 0, 0, 2⟩, .zero, ⟨10, 0, 0, 3⟩⟩

/-- It sends a datagram to the first. -/
def knock : Bytes :=
  let datagram := Udp.encode ⟨⟨⟨10, 0, 0, 2⟩, 4000⟩, ⟨talker.ip, 9⟩⟩ [107]
  let length := Ipv4.headerLength + datagram.length
  Ethernet.header talker.mac ⟨2, 0, 0, 0, 0, 2⟩ Ethernet.ipv4Type ++
    Ipv4.header 64 Ipv4.udp length ⟨10, 0, 0, 2⟩ talker.ip ++ datagram

/-- A host whose second device transmits by a task on the host's own queue. When the peer knocks, the
application answers, defers a frame and leaves a job on that queue. -/
def porch : Host :=
  (after? 3
    [.subscribe 9 (.number 1)
      [[.sendDatagram none .received, .defer 1 (.bytes question),
        .spawn 0 (.number 2) [.poll 0, .announce 0]]]]
    (attach (attach { config := {} } talker) ⟨⟨2, 0, 0, 0, 0, 3⟩, ⟨10, 0, 0, 3⟩, some 0⟩)).getD default

/-- Both polls transmit a frame, receive the one that was deferred last and run the job. -/
theorem alike_atOnce_later_porch :
    let fs := [(1, question), (0, knock)]
    (porch.queue 0 = [] ∧ (∀ f ∈ fs, (porch.device f.1).held = true) ∧
      ((receiveAll (perform (execApart (fs.map (·.1)) 5) 5) fs).run porch).1.isSome = true) ∧
    ((atOnce 5 5 fs).run porch).1 = some (.count 3) ∧
    Option.Rel (RanMore fs.length) ((atOnce 5 5 fs).run porch).1 ((later 5 5 fs).run porch).1 ∧
    Alike ((atOnce 5 5 fs).run porch).2 ((later 5 5 fs).run porch).2 := by
  have hq : porch.queue 0 = [] := by decide +kernel
  have hd : ∀ f ∈ [(1, question), (0, knock)], (porch.device f.1).held = true := by decide +kernel
  have hr : ((receiveAll (perform (execApart ([(1, question), (0, knock)].map (·.1)) 5) 5)
      [(1, question), (0, knock)]).run porch).1.isSome = true := by decide +kernel
  exact ⟨⟨hq, hd, hr⟩, by decide +kernel, alike_atOnce_later hq hd hr⟩

end InetHost.Host
