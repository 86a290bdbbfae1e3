import InetHost.Proofs.Queue.Books
import InetHost.Proofs.Queue.Tasks

/-!
# Devices and their tasks

The task of a device waits on the device's queue as long as frames wait, unless it ran when nobody held
the device.

* `vainRuns`: how often the task of a device found the device gone;
* `Flagged`: the flag of the task says whether frames wait;
* `KeepsDevice`: what leaves a device and its task alone; `Flagged.offer`, `flagged_transmitNext`: what does
  not;
* `GoneOnlyIfUnheld`, `Watched`: a device that somebody holds, like the application, is not found to be gone;
* `Stored`, **`Stored.shifts`**: all that holds of frames that wait, and that it stays so.
-/

namespace InetHost

/-! ## What the journal tells of devices that were gone -/

/-- The task of a device ran when nobody held the device. -/
def Event.leftBy (d : DeviceId) : Event → Bool
  | .deserted e => e == d
  | _ => false

/-- How often the task of a device found the device gone. -/
def vainRuns (d : DeviceId) (j : List Event) : Nat := j.countP (Event.leftBy d)

theorem vainRuns_cons (d : DeviceId) (x : Event) (l : List Event) :
    vainRuns d (x :: l) = vainRuns d l + (x.leftBy d).toNat := by
  unfold vainRuns
  cases hx : x.leftBy d <;> simp [hx]

theorem vainRuns_both (d : DeviceId) (new l : List Event) :
    vainRuns d (new ++ l) = vainRuns d new + vainRuns d l :=
  List.countP_append

theorem vainRuns_append {d : DeviceId} {new l : List Event} (hn : ∀ x ∈ new, x.leftBy d = false) :
    vainRuns d (new ++ l) = vainRuns d l := by
  have hz : vainRuns d new = 0 := List.countP_eq_zero.mpr fun x hx => by simp [hn x hx]
  rw [vainRuns_both, hz, Nat.zero_add]

theorem vainRuns_pos {d : DeviceId} {l : List Event} : 0 < vainRuns d l ↔ .deserted d ∈ l := by
  unfold vainRuns
  rw [List.countP_pos_iff]
  constructor
  · rintro ⟨x, hx, hd⟩
    cases x with
    | deserted e => exact beq_iff_eq.mp hd ▸ hx
    | _ => cases hd
  · exact fun hd => ⟨_, hd, beq_self_eq_true d⟩

theorem Event.leftBy_of_onQueue {x : Event} (hx : x.onQueue = false) (d : DeviceId) :
    x.leftBy d = false := by
  cases x with
  | deserted => cases hx
  | _ => rfl

namespace Host

variable {h h' : Host} {q : QueueId} {t : TaskId} {d : DeviceId} {f : Bytes} {s : Staging} {j : Job}
  {jobs : List Job}

/-! ## The flags -/

/-- **The task of a device waits only where frames wait**, and as long as they do, unless it ran when
nobody held the device. -/
def Flagged (h : Host) (d : DeviceId) : Prop :=
  ∀ s, (h.device d).staging = some s →
    ((h.task s.task).queued = true → s.frames ≠ []) ∧
      (.deserted d ∉ h.journal → s.frames ≠ [] → (h.task s.task).queued = true)

/-- Nothing happened to a device and its task. -/
structure KeepsDevice (d : DeviceId) (h h' : Host) : Prop where
  staging : (h'.device d).staging = (h.device d).staging
  queued : ∀ {s}, (h.device d).staging = some s → (h'.task s.task).queued = (h.task s.task).queued
  deserted : .deserted d ∈ h.journal → .deserted d ∈ h'.journal

variable {e : DeviceId}

instance : Std.Refl (KeepsDevice d) := ⟨fun _ => ⟨rfl, fun _ => rfl, id⟩⟩

instance : IsTrans Host (KeepsDevice d) where
  trans _ _ _ a₁ a₂ := by
    refine ⟨a₂.staging.trans a₁.staging, fun {s} hs => ?_, fun hd => a₂.deserted (a₁.deserted hd)⟩
    exact (a₂.queued (a₁.staging.trans hs)).trans (a₁.queued hs)

theorem Flagged.of_keepsDevice (g : Flagged h d) (a : KeepsDevice d h h') : Flagged h' d := by
  intro s hs
  rw [a.staging] at hs
  rw [a.queued hs]
  obtain ⟨hl, hw⟩ := g s hs
  exact ⟨hl, fun hd => hw fun hd' => hd (a.deserted hd')⟩

theorem KeepsQueues.keepsDevice (i : KeepsQueues h h') : KeepsDevice d h h' := by
  refine ⟨i.staging d, fun _ => i.queued _, fun hd => ?_⟩
  obtain ⟨new, he, -⟩ := i.journal
  rw [he]
  exact List.mem_append_right new hd

theorem keepsDevice_record (x : Event) : Does (KeepsDevice d) h (record x) :=
  ⟨rfl, fun _ => rfl, List.mem_cons_of_mem x⟩

/-- A task that is not the device's. -/
def Foreign (h : Host) (d : DeviceId) (t : TaskId) : Prop :=
  ∀ s, (h.device d).staging = some s → s.task ≠ t

theorem KeepsDevice.foreign (a : KeepsDevice d h h') (hf : Foreign h d t) : Foreign h' d t :=
  fun s hs => hf s (a.staging.symm.trans hs)

theorem keepsDevice_modifyTask (b : Bool) (hf : Foreign h d t) :
    Does (KeepsDevice d) h (modifyTask t ({ · with queued := b })) := by
  refine ⟨rfl, fun hs => ?_, id⟩
  rw [queued_modifyTask, if_neg fun hc => hf _ hs hc.1.symm]

theorem keepsDevice_put (q : QueueId) (j : Job) : Does (KeepsDevice d) h (put q j) :=
  Does.bind (x := modify _) ⟨rfl, fun _ => rfl, id⟩ (keepsDevice_record _)

theorem keepsDevice_enqueue (q : QueueId) (hf : Foreign h d t) : Does (KeepsDevice d) h (enqueue q t) := by
  refine Does.get ?_
  split
  · exact Does.pure _
  · exact Does.bind (keepsDevice_modifyTask true hf) (keepsDevice_put q _)

theorem keepsDevice_modifyStaged (g : List Bytes → List Bytes) (hd : e ≠ d) :
    Does (KeepsDevice d) h (modifyStaged e g) := by
  refine ⟨?_, fun _ => rfl, id⟩
  rw [staging_modifyStaged, if_neg hd]

theorem keepsDevice_transmit (e : DeviceId) (f : Bytes) : Does (KeepsDevice d) h (transmit e f) := by
  have hu : KeepsQueues h ((useHardware e).run h).2 := keepsQueues_device fun _ => ⟨rfl, rfl, rfl, id⟩
  refine Does.get (Does.bind (x := useHardware e) hu.keepsDevice (Does.bind (keepsDevice_record _) ?_))
  split
  · exact Does.pure _
  · exact Does.bind (keepsDevice_record _) (Does.pure _)

theorem keepsDevice_stage (f : Bytes) (hd : e ≠ d) : Does (KeepsDevice d) h (stage e f) :=
  Does.bind (keepsDevice_record _) (keepsDevice_modifyStaged _ hd)

theorem keepsDevice_handOver (f : Bytes) (rest : List Bytes) (hd : e ≠ d) :
    Does (KeepsDevice d) h (handOver e f rest) := by
  refine Does.get (Does.bind (keepsDevice_modifyStaged _ hd) (Does.bind (keepsDevice_transmit e f) ?_))
  split
  · exact Does.pure _
  · exact keepsDevice_record _

theorem Known.foreign (hk : Known h) (hs : (h.device e).staging = some s) (hd : e ≠ d) :
    Foreign h d s.task := by
  intro s' hs' ht
  have hb := (hk.staged hs').2
  rw [ht, (hk.staged hs).2] at hb
  exact hd (TaskBody.transmit.inj hb)

theorem Known.foreign_of_script (hk : Known h) {id : Label} {runs : Script}
    (hb : (h.task t).body = .script id runs) : Foreign h d t := by
  rintro s hs rfl
  cases hb.symm.trans (hk.staged hs).2

theorem keepsDevice_offer (hk : Known h) (f : Bytes) (hd : e ≠ d) : Does (KeepsDevice d) h (offer e f) := by
  cases hs : (h.device e).staging with
  | none =>
    refine Does.get ?_
    dsimp only
    rw [hs]
    exact Does.bind (keepsDevice_record _) (keepsDevice_transmit e f)
  | some s =>
    have a : KeepsDevice d h ((stage e f).run h).2 := keepsDevice_stage f hd
    unfold Does
    rw [run_offer hs]
    exact IsTrans.trans _ _ _ a (keepsDevice_enqueue _ (a.foreign (hk.foreign hs hd)))

theorem keepsDevice_transmitNext (hk : Known h) (hd : e ≠ d) : Does (KeepsDevice d) h (transmitNext e) := by
  unfold Does
  rcases transmitNext_cases h e with ⟨-, he⟩ | ⟨s, f, rest, hs, -, he⟩
  · rw [he]
    exact Std.Refl.refl h
  · have a : KeepsDevice d h ((handOver e f rest).run h).2 := keepsDevice_handOver f rest hd
    rw [he]
    split_ifs
    · exact a
    · exact IsTrans.trans _ _ _ a (keepsDevice_enqueue _ (a.foreign (hk.foreign hs hd)))

/-! ### The device itself -/

theorem queued_enqueue (q : QueueId) (ht : t < h.tasks.length) :
    (((enqueue q t).run h).2.task t).queued = true := by
  rw [run_enqueue]
  split_ifs with hq
  · exact hq
  · change (((modifyTask t _).run h).2.task t).queued = true
    rw [queued_modifyTask, if_pos ⟨rfl, ht⟩]

/-- **A device is offered a frame**, and its task waits. -/
theorem Flagged.offer (g : Flagged h d) (hk : Known h) (f : Bytes) :
    Flagged ((offer d f).run h).2 d := by
  cases hs : (h.device d).staging with
  | none =>
    refine g.of_keepsDevice ?_
    change Does (KeepsDevice d) h (Host.offer d f)
    refine Does.get ?_
    dsimp only
    rw [hs]
    exact Does.bind (keepsDevice_record _) (keepsDevice_transmit d f)
  | some s =>
    intro s' hs'
    have i : KeepsJobs h ((stage d f).run h).2 := keepsJobs_stage d f
    have hst : (((stage d f).run h).2.device d).staging =
        some { s with frames := s.frames ++ [f] } := by
      refine (staging_modifyStaged d (· ++ [f]) d).trans ?_
      rw [if_pos rfl]
      exact congrArg _ hs
    rw [run_offer hs, (keepsFrames_enqueue _ _).staging d, hst] at hs'
    obtain rfl := Option.some.inj hs'
    rw [run_offer hs, queued_enqueue _ (i.length ▸ (hk.staged hs).1)]
    simp

/-- **The task of a device is run**, and waits again if there are more frames. -/
theorem flagged_transmitNext (hk : Known h)
    (hq : ∀ {s}, (h.device d).staging = some s → (h.task s.task).queued = false) :
    Flagged ((transmitNext d).run h).2 d := by
  intro s' hs'
  rcases transmitNext_cases h d with ⟨hf, he⟩ | ⟨s, f, rest, hs, hf, he⟩
  · rw [he] at hs' ⊢
    simp [hf s' hs', hq hs']
  · have i : KeepsJobs h ((handOver d f rest).run h).2 := keepsJobs_handOver d f rest
    have hst : (((handOver d f rest).run h).2.device d).staging = some { s with frames := rest } := by
      rw [staging_handOver, if_pos rfl, hs]
      rfl
    by_cases hr : rest = []
    · rw [he, if_pos hr] at hs' ⊢
      obtain rfl := Option.some.inj (hst.symm.trans hs')
      have hn : (((handOver d f rest).run h).2.task s.task).queued = false := by rw [i.queued, hq hs]
      exact ⟨fun hw => absurd (hn.symm.trans hw) Bool.false_ne_true, fun _ hf => absurd hr hf⟩
    · rw [he, if_neg hr] at hs' ⊢
      rw [(keepsFrames_enqueue _ _).staging d, hst] at hs'
      obtain rfl := Option.some.inj hs'
      rw [queued_enqueue _ (i.length ▸ (hk.staged hs).1)]
      simp [hr]

/-! ### Everything that happens -/

theorem Flagged.move (g : Flagged h d) (hk : Known h) (hm : Move h h') : Flagged h' d := by
  cases hm with
  | keepsQueues i => exact g.of_keepsDevice i.keepsDevice
  | offer e f =>
    by_cases hd : e = d
    · exact hd ▸ Flagged.offer (hd ▸ g) hk f
    · exact g.of_keepsDevice (keepsDevice_offer hk f hd)
  | put q j => exact g.of_keepsDevice (keepsDevice_put q j)
  | enqueue q t ht =>
    obtain ⟨id, ht⟩ := ht
    obtain ⟨-, id, runs, hb⟩ := hk.script_of_name ht
    exact g.of_keepsDevice (keepsDevice_enqueue q (hk.foreign_of_script hb))
  | define id runs =>
    refine g.of_keepsDevice ⟨rfl, fun hs => ?_, fun hd => hd⟩
    rw [task_defineTask, if_pos (hk.staged hs).1]

theorem Flagged.start (g : Flagged h d) (hd : Disciplined h) (hq : h.queue q = j :: jobs) :
    Flagged ((launch j).run (h.taken q j jobs)).2 d := by
  have a : KeepsDevice d h (h.taken q j jobs) := ⟨rfl, fun _ => rfl, List.mem_cons_of_mem _⟩
  cases j with
  | frame | once => exact g.of_keepsDevice a
  | task t =>
    have hk : Known ((dequeued t).run (h.taken q (.task t) jobs)).2 := (hd.dequeued hq).toKnown
    have ht : t < h.tasks.length := hd.there_of_mem (hq ▸ List.mem_cons_self)
    have hb : (((dequeued t).run (h.taken q (.task t) jobs)).2.task t).body = (h.task t).body :=
      (sameTasks_modifyTask (h := h.taken q (.task t) jobs) false).body t
    -- its flag is down, …
    have hf : (((dequeued t).run (h.taken q (.task t) jobs)).2.task t).queued = false :=
      (queued_modifyTask (h := h.taken q (.task t) jobs) false t).trans (if_pos ⟨rfl, ht⟩)
    -- … and the others are not touched
    have a' : Foreign h d t → KeepsDevice d h ((dequeued t).run (h.taken q (.task t) jobs)).2 := fun hf =>
      IsTrans.trans _ _ _ a (keepsDevice_modifyTask false (a.foreign hf))
    have hs' : (((dequeued t).run (h.taken q (.task t) jobs)).2.device d).staging =
      (h.device d).staging := rfl
    rw [run_launch, hb]
    generalize ((dequeued t).run (h.taken q (.task t) jobs)).2 = h₁ at hk hf a' hs' ⊢
    cases hb : (h.task t).body with
    | script id runs => exact g.of_keepsDevice (a' (hd.foreign_of_script hb))
    | transmit e =>
      obtain ⟨s, hs, rfl⟩ := hd.own ht hb
      dsimp only
      by_cases he : e = d
      · subst he
        split_ifs
        · refine flagged_transmitNext hk fun h₁s => ?_
          rw [hs', hs] at h₁s
          cases h₁s
          exact hf
        · intro s' hs₁
          obtain rfl : s = s' := Option.some.inj (hs.symm.trans (hs'.symm.trans hs₁))
          exact ⟨fun hw => absurd (hf.symm.trans hw) Bool.false_ne_true,
            fun hn => absurd List.mem_cons_self hn⟩
      · refine g.of_keepsDevice (IsTrans.trans _ _ _ (a' (hd.foreign hs he)) ?_)
        split_ifs
        · exact keepsDevice_transmitNext hk he
        · exact keepsDevice_record _

theorem Flagged.shift (g : Flagged h d) (hd : Disciplined h) (hs : Shift h h') : Flagged h' d := by
  cases hs with
  | move hm => exact g.move hd.toKnown hm
  | drained q n => exact g.of_keepsDevice (keepsDevice_record _)
  | start q j jobs hq => exact g.start hd hq

/-! ## Devices that nobody holds -/

/-- A device whose task found it gone is not held by the application. -/
def Watched (h : Host) : Prop := ∀ d, .deserted d ∈ h.journal → (h.device d).held = false

/-- No device was found to be gone, and the application did not take hold of one. -/
structure FindsNoneGone (h h' : Host) : Prop where
  held : ∀ d, (h'.device d).held = true → (h.device d).held = true
  vain : ∀ d, vainRuns d h'.journal = vainRuns d h.journal

instance : Std.Refl FindsNoneGone := ⟨fun _ => ⟨fun _ => id, fun _ => rfl⟩⟩

instance : IsTrans Host FindsNoneGone where
  trans _ _ _ u₁ u₂ :=
    ⟨fun d hd => u₁.held d (u₂.held d hd), fun d => (u₂.vain d).trans (u₁.vain d)⟩

theorem findsNoneGone_record {x : Event} (hx : ∀ d, x.leftBy d = false) :
    Does FindsNoneGone h (record x) :=
  ⟨fun _ => id, fun d => (vainRuns_cons d x h.journal).trans (by rw [hx d]; rfl)⟩

theorem KeepsQueues.findsNoneGone (i : KeepsQueues h h') : FindsNoneGone h h' := by
  refine ⟨i.held, fun d => ?_⟩
  obtain ⟨new, he, hn⟩ := i.journal
  rw [he, vainRuns_append fun x hx => Event.leftBy_of_onQueue (hn x hx) d]

theorem Handling.findsNoneGone (hh : Handling h h') : FindsNoneGone h h' := by
  cases hh with
  | record x hx =>
    refine findsNoneGone_record fun d => ?_
    cases x with
    | deserted => cases hx
    | _ => rfl
  | put q j => exact ⟨fun _ => id, fun d => vainRuns_cons d (.put q j) h.journal⟩
  | flag t b => exact ⟨fun _ => id, fun _ => rfl⟩
  | staged e g =>
    refine ⟨fun d hd => ?_, fun _ => rfl⟩
    have hh : (((modifyStaged e g).run h).2.device d).held = (h.device d).held := by
      refine getD_modify_of (g := Device.held) (fun v => ?_) h.devices e d default
      rfl
    rwa [← hh]
  | hardware e => exact KeepsQueues.findsNoneGone (keepsQueues_device fun _ => ⟨rfl, rfl, rfl, id⟩)

theorem findsNoneGone_handlings (hh : Handlings h h') : FindsNoneGone h h' :=
  of_handlings Handling.findsNoneGone hh

theorem Move.findsNoneGone (hm : Move h h') : FindsNoneGone h h' := by
  cases hm with
  | keepsQueues i => exact i.findsNoneGone
  | offer e f => exact findsNoneGone_handlings (handlings_offer e f)
  | put q j => exact Handling.findsNoneGone (.put q j)
  | enqueue q t => exact findsNoneGone_handlings (handlings_enqueue q t)
  | define => exact ⟨fun _ => id, fun _ => rfl⟩

theorem findsNoneGone_taken (h : Host) (q : QueueId) (j : Job) (jobs : List Job) :
    FindsNoneGone h (h.taken q j jobs) :=
  ⟨fun _ => id, fun d => vainRuns_cons d (.started q j) h.journal⟩

/-- **A device is found to be gone only if nobody holds it.** -/
structure GoneOnlyIfUnheld (h h' : Host) : Prop where
  held : ∀ d, (h'.device d).held = true → (h.device d).held = true
  deserted : ∀ d, .deserted d ∈ h'.journal → .deserted d ∈ h.journal ∨ h.alive d = false

theorem FindsNoneGone.deserted (u : FindsNoneGone h h') (hd : .deserted d ∈ h'.journal) :
    .deserted d ∈ h.journal :=
  vainRuns_pos.mp (u.vain d ▸ vainRuns_pos.mpr hd)

theorem FindsNoneGone.goneOnlyIfUnheld (u : FindsNoneGone h h') : GoneOnlyIfUnheld h h' :=
  ⟨u.held, fun _ hd => .inl (u.deserted hd)⟩

theorem goneOnlyIfUnheld_launch (j : Job) : Does GoneOnlyIfUnheld h (launch j) := by
  cases j with
  | frame | once => exact (Std.Refl.refl h : FindsNoneGone h h).goneOnlyIfUnheld
  | task t =>
    have u : FindsNoneGone h ((dequeued t).run h).2 := Handling.findsNoneGone (.flag t false)
    have ha (d : DeviceId) : ((dequeued t).run h).2.alive d = h.alive d := rfl
    unfold Does
    rw [run_launch]
    generalize ((dequeued t).run h).2 = h₁ at u ha ⊢
    split
    · rename_i e _
      split_ifs with he
      · exact (IsTrans.trans _ _ _ u (findsNoneGone_handlings (handlings_transmitNext e))).goneOnlyIfUnheld
      · refine ⟨u.held, fun d hd => ?_⟩
        rcases List.mem_cons.mp hd with hd | hd
        · cases hd
          exact .inr (ha e ▸ Bool.eq_false_iff.mpr he)
        · exact .inl (u.deserted hd)
    · exact u.goneOnlyIfUnheld

theorem Watched.step (w : Watched h) (v : GoneOnlyIfUnheld h h') : Watched h' := by
  intro d hd
  refine Bool.eq_false_iff.mpr fun hh => ?_
  rcases v.deserted d hd with hd | ha
  · have hh := v.held d hh
    rw [w d hd] at hh
    cases hh
  · unfold alive at ha
    simp [v.held d hh] at ha

theorem Watched.shift (w : Watched h) (hs : Shift h h') : Watched h' := by
  cases hs with
  | move hm => exact w.step hm.findsNoneGone.goneOnlyIfUnheld
  | drained q n =>
    have u : Does FindsNoneGone h (record (.drained q n)) := findsNoneGone_record fun _ => rfl
    exact w.step (FindsNoneGone.goneOnlyIfUnheld u)
  | start q j jobs hq =>
    exact (w.step (findsNoneGone_taken h q j jobs).goneOnlyIfUnheld).step (goneOnlyIfUnheld_launch j)

/-! ## Every run -/

/-- **What holds of frames that wait**, at all times. -/
structure Stored (h : Host) : Prop extends Disciplined h, Books h where
  flagged : ∀ d, Flagged h d
  watched : Watched h

theorem Stored.shift (v : Stored h) (hs : Shift h h') : Stored h' where
  toDisciplined := v.toDisciplined.shift hs
  toBooks := v.toBooks.shift hs
  flagged d := (v.flagged d).shift v.toDisciplined hs
  watched := v.watched.shift hs

theorem Stored.shifts (v : Stored h) (hs : Shifts h h') : Stored h' := by
  induction hs with
  | refl => exact v
  | tail _ hs ih => exact ih.shift hs

theorem stored_start {s : Setup} {h : Host} (hs : start s = .ok h) : Stored h := by
  have hj : h.journal = [] := (fresh_start hs).journal
  have hd : Disciplined h := disciplined_start hs
  have he : h.queues = [] ∧ ∀ d s, (h.device d).staging = some s → s.frames = [] := by
    rw [(eq_of_start hs).2]
    refine foldl_attach (P := fun h => h.queues = [] ∧
      ∀ d s, (h.device d).staging = some s → s.frames = []) ?_ s.devices ⟨rfl, nofun⟩
    rintro h v ⟨hq, hf⟩
    refine ⟨by unfold attach; split <;> exact hq, fun d s hs => ?_⟩
    rw [device_attach] at hs
    split_ifs at hs
    · exact hf d s hs
    · obtain ⟨q, -, rfl⟩ := Option.map_eq_some_iff.mp hs
      rfl
    · cases hs
  have hq : ∀ t, (h.task t).queued = false := fun t => by
    have hc := hd.count t
    unfold places at hc
    rw [he.1] at hc
    cases ht : (h.task t).queued with
    | false => rfl
    | true => simp [ht] at hc
  refine ⟨hd, ⟨fun {d s} hs => ?_, fun d => ?_, ?_⟩, fun d s hs => ?_, fun d hd => ?_⟩
  · rw [hj, he.2 d s hs]
    rfl
  · rw [hj]
    rfl
  · rw [hj]
    rfl
  · simp [he.2 d s hs, hq]
  · rw [hj] at hd
    cases hd

end Host

end InetHost
