import InetHost.Proofs.Queue.Tasks
import InetHost.Proofs.Stream.Stroke
import Mathlib.Data.Multiset.AddSub

/-!
# What the order of strokes does not change

Strokes on two connections may come in either order: what differs then is only the order in which frames,
jobs and events stand behind one another where they have to do with both.

* `Outbox`: the devices and what waits for them, in no order;
* `Tally`, `Host.tally`: a host without the order in which things wait, and with the doings of every
  connection by themselves;
* `Stroke.mark`, `tally_play`: what a stroke does to the tally of a host;
* **`mark_mark`**, **`tally_plays_plays`**: strokes on two connections come to the same tally in either
  order.
-/

namespace InetHost

/-- A device without the frames that wait for its hardware. -/
def Device.bare (v : Device) : Device :=
  { v with staging := v.staging.map fun w => { w with frames := [] } }

/-- **The devices and what waits for them**, in no order. -/
structure Outbox where
  /-- The devices, each without its frames. -/
  devices : List Device
  tasks : List Task
  frames : DeviceId → Multiset Bytes
  jobs : QueueId → Multiset Job

namespace Outbox

variable (o : Outbox)

/-- Where the frames of a device wait. -/
def staging (d : DeviceId) : Option Staging := (o.devices.getD d default).staging

/-- A task is put on a queue. -/
def post (q : QueueId) (t : TaskId) : Outbox :=
  { o with
    tasks := o.tasks.modify t fun k => { k with queued := true }
    jobs := fun r => if r = q then .task t ::ₘ o.jobs r else o.jobs r }

/-- A task waits on a queue, unless it waits on one already. -/
def enqueue (q : QueueId) (t : TaskId) : Outbox :=
  if (o.tasks.getD t default).queued then o else o.post q t

/-- The hardware of a device is used. -/
def use (d : DeviceId) : Outbox :=
  { o with devices := o.devices.modify d fun v => { v with outcomes := v.outcomesLeft } }

/-- A frame waits for a device. -/
def keep (d : DeviceId) (f : Bytes) : Outbox :=
  { o with frames := fun e => if e = d then f ::ₘ o.frames e else o.frames e }

/-- A device is offered a frame. -/
def offer (d : DeviceId) (f : Bytes) : Outbox :=
  match o.staging d with
  | none => o.use d
  | some w => (o.keep d f).enqueue w.queue w.task

/-- Devices that share a task share its queue. -/
def Sorted : Prop :=
  ∀ {d e w x}, o.staging d = some w → o.staging e = some x → w.task = x.task → w.queue = x.queue

end Outbox

/-- **A host without the order in which things wait**, and with the doings of every connection by
themselves. -/
structure Tally where
  /-- Everything else. -/
  rest : Host
  outbox : Outbox
  /-- The events of each connection, the last first. -/
  doings : ConnId → List Event

namespace Host

variable {h : Host} {c c' : ConnId} {s s' : Stream} {d e : DeviceId} {f g : Bytes}

/-- The frames that wait for the hardware of a device. -/
def staged (h : Host) (d : DeviceId) : List Bytes := ((h.device d).staging.map (·.frames)).getD []

/-- The devices of a host and what waits for them. -/
def outbox (h : Host) : Outbox where
  devices := h.devices.map Device.bare
  tasks := h.tasks
  frames d := h.staged d
  jobs q := h.queue q

/-- The tally of a host. -/
def tally (h : Host) : Tally where
  rest := { h with devices := [], tasks := [], queues := [], journal := [] }
  outbox := h.outbox
  doings c := h.journal.filter (·.about = some c)

/-! ## Offers -/

theorem staging_outbox (h : Host) (d : DeviceId) :
    h.outbox.staging d = (h.device d).staging.map fun w => { w with frames := [] } := by
  change (((h.devices.map Device.bare).getD d (Device.bare default))).staging = _
  rw [List.getD_map]
  rfl

theorem outbox_enqueue (q : QueueId) (t : TaskId) (h : Host) :
    ((enqueue q t).run h).2.outbox = h.outbox.enqueue q t := by
  rw [run_enqueue]
  unfold Outbox.enqueue
  by_cases hq : (h.task t).queued = true
  · rw [if_pos hq]
    exact (if_pos hq).symm
  · rw [if_neg hq]
    refine Eq.trans ?_ (if_neg hq).symm
    have hj : ∀ r, (((put q (.task t)).run
        ((modifyTask t ({ · with queued := true })).run h).2).2.queue r : Multiset Job) =
          if r = q then .task t ::ₘ (h.queue r : Multiset Job) else h.queue r := by
      intro r
      change ((alterQueue (· ++ [Job.task t]) q h.queues).getD r [] : Multiset Job) = _
      rw [getD_alterQueue]
      split_ifs with hr
      · rw [hr]
        exact Multiset.coe_eq_coe.mpr (List.perm_append_singleton _ _)
      · rfl
    exact congrArg (Outbox.mk _ _ _) (funext hj)

theorem outbox_stage {w : Staging} (hs : (h.device d).staging = some w) (f : Bytes) :
    ((stage d f).run h).2.outbox = h.outbox.keep d f := by
  have hd : ((stage d f).run h).2.devices.map Device.bare = h.devices.map Device.bare := by
    change (h.devices.modify d _).map Device.bare = _
    rw [map_modify Device.bare id]
    · exact List.modify_id d _
    · intro v
      unfold Device.bare
      rw [Option.map_map]
      rfl
  have hf : ∀ e, (((stage d f).run h).2.staged e : Multiset Bytes) =
      if e = d then f ::ₘ (h.staged e : Multiset Bytes) else h.staged e := by
    intro e
    have he : (((stage d f).run h).2.device e).staging =
        if d = e then (h.device e).staging.map fun w => { w with frames := w.frames ++ [f] }
        else (h.device e).staging := staging_modifyStaged d (· ++ [f]) e
    unfold staged
    rw [he]
    by_cases hde : d = e
    · subst hde
      rw [if_pos rfl, if_pos rfl, hs]
      exact Multiset.coe_eq_coe.mpr (List.perm_append_singleton _ _)
    · rw [if_neg hde, if_neg (Ne.symm hde)]
  exact congrArg₂ (fun ds fs => Outbox.mk ds h.tasks fs fun q => h.queue q) hd (funext hf)

theorem outbox_useHardware (d : DeviceId) (h : Host) :
    ((useHardware d).run h).2.outbox = h.outbox.use d := by
  have hd : ((useHardware d).run h).2.devices.map Device.bare = (h.outbox.use d).devices :=
    map_modify Device.bare (fun v => { v with outcomes := v.outcomesLeft }) (fun _ => rfl) h.devices d
  have hf : ∀ e, (((useHardware d).run h).2.staged e : Multiset Bytes) = h.staged e := by
    intro e
    unfold staged
    rw [show (((useHardware d).run h).2.device e).staging = (h.device e).staging from
      (keepsFrames_useHardware d).staging e]
  exact congrArg₂ (fun ds fs => Outbox.mk ds h.tasks fs fun q => h.queue q) hd (funext hf)

theorem outbox_offer (d : DeviceId) (f : Bytes) (h : Host) :
    ((offer d f).run h).2.outbox = h.outbox.offer d f := by
  unfold Outbox.offer
  rw [staging_outbox]
  cases hs : (h.device d).staging with
  | none =>
    rw [run_offer_direct hs]
    exact outbox_useHardware d h
  | some w =>
    rw [run_offer hs, outbox_enqueue, outbox_stage hs]
    rfl

/-! ## Strokes -/

/-- What a stroke does to a tally. -/
def Stroke.mark : Stroke c s → Tally → Tally
  | .enter e _, v =>
    { v with doings := fun k => if e.about = some k then e :: v.doings k else v.doings k }
  | .alter g _, v => { v with rest := { v.rest with connections := v.rest.connections.modify c g } }
  | .leave, v => { v with rest := { v.rest with streams := v.rest.streams.filter (·.1 ≠ s) } }
  | .offer d f, v => { v with outbox := v.outbox.offer d f }

/-- What some strokes do to a tally, one after another. -/
def marks : List (Stroke c s) → Tally → Tally
  | [], v => v
  | t :: l, v => marks l (t.mark v)

theorem tally_play (t : Stroke c s) (h : Host) : (t.play h).tally = t.mark h.tally := by
  cases t with
  | enter e he =>
    refine congrArg (Tally.mk _ _) (funext fun k => ?_)
    rw [Stroke.play, List.filter_cons]
    by_cases hk : e.about = some k
    · rw [if_pos (by simpa using hk), if_pos hk]
      rfl
    · rw [if_neg (by simpa using hk), if_neg hk]
      rfl
  | alter g hg => rfl
  | leave => rfl
  | offer d f =>
    obtain ⟨new, hj, hn, -⟩ := journal_offer d f h
    have hd : (fun k => ((offer d f).run h).2.journal.filter (·.about = some k)) =
        fun k => h.journal.filter (·.about = some k) := by
      funext k
      have hnil : new.filter (·.about = some k) = [] := by
        rw [List.filter_eq_nil_iff]
        intro e he
        rw [hn e he]
        simp
      rw [hj, List.filter_append, hnil, List.nil_append]
    obtain ⟨ds, ts, qs, j, ho⟩ := run_offer_eq d f h
    have hr : ((offer d f).run h).2.tally.rest = h.tally.rest := by rw [ho]; rfl
    change Tally.mk ((offer d f).run h).2.tally.rest ((offer d f).run h).2.outbox
      (fun k => ((offer d f).run h).2.journal.filter (·.about = some k)) = _
    rw [hd, hr, outbox_offer]
    rfl

/-- **The tally of a host tells what becomes of it by strokes.** -/
theorem tally_plays (l : List (Stroke c s)) (h : Host) : (plays l h).tally = marks l h.tally := by
  induction l generalizing h with
  | nil => rfl
  | cons t l ih => exact (ih (t.play h)).trans (congrArg (marks l) (tally_play t h))

end Host

/-! ## Two strokes -/

namespace Outbox

variable {o : Outbox} {d e : DeviceId} {f g : Bytes} {q r : QueueId} {t u : TaskId}

theorem staging_use (d : DeviceId) : (o.use d).staging = o.staging := by
  funext e
  exact Host.getD_modify_of (f := fun v => { v with outcomes := v.outcomesLeft })
    (g := Device.staging) (fun _ => rfl) o.devices d e default

theorem enqueue_of_queued (hq : (o.tasks.getD t default).queued = true) : o.enqueue q t = o :=
  if_pos hq

theorem enqueue_of_not (hq : ¬ (o.tasks.getD t default).queued = true) :
    o.enqueue q t = o.post q t :=
  if_neg hq

theorem post_comm (ht : t ≠ u) : (o.post q t).post r u = (o.post r u).post q t := by
  refine congrArg₂ (Outbox.mk o.devices · o.frames ·) (List.modify_modify_ne _ _ _ ht)
    (funext fun k => ?_)
  dsimp only [post]
  split_ifs
  · exact Multiset.cons_swap ..
  · rfl
  · rfl
  · rfl

theorem task_enqueue (ht : t ≠ u) : (o.enqueue q t).tasks.getD u default = o.tasks.getD u default := by
  unfold enqueue
  split_ifs
  · rfl
  · exact (Host.getD_modify ..).trans (if_neg fun h => ht h.1)

theorem enqueue_comm (hq : t = u → q = r) :
    (o.enqueue q t).enqueue r u = (o.enqueue r u).enqueue q t := by
  by_cases htu : t = u
  · rw [hq htu, htu]
  have ht₁ := task_enqueue (o := o) (q := r) (Ne.symm htu)
  have hu₁ := task_enqueue (o := o) (q := q) htu
  by_cases ht : (o.tasks.getD t default).queued = true
  · rw [enqueue_of_queued ht, enqueue_of_queued (t := t) (by rwa [ht₁])]
  by_cases hu : (o.tasks.getD u default).queued = true
  · rw [enqueue_of_queued hu, enqueue_of_queued (t := u) (by rwa [hu₁])]
  have ht₂ : ¬ ((o.enqueue r u).tasks.getD t default).queued = true := by rwa [ht₁]
  have hu₂ : ¬ ((o.enqueue q t).tasks.getD u default).queued = true := by rwa [hu₁]
  rw [enqueue_of_not hu₂, enqueue_of_not ht₂, enqueue_of_not ht, enqueue_of_not hu, post_comm htu]

theorem use_comm (d e : DeviceId) : (o.use d).use e = (o.use e).use d := by
  by_cases hde : d = e
  · rw [hde]
  · exact congrArg (Outbox.mk · o.tasks o.frames o.jobs) (List.modify_modify_ne _ _ _ hde)

theorem keep_comm (d e : DeviceId) (f g : Bytes) :
    (o.keep d f).keep e g = (o.keep e g).keep d f := by
  refine congrArg (Outbox.mk o.devices o.tasks · o.jobs) (funext fun k => ?_)
  dsimp only [keep]
  split_ifs
  · exact Multiset.cons_swap ..
  · rfl
  · rfl
  · rfl

theorem use_enqueue (d : DeviceId) : (o.use d).enqueue q t = (o.enqueue q t).use d := by
  by_cases hq : (o.tasks.getD t default).queued = true
  · rw [enqueue_of_queued hq, enqueue_of_queued (o := o.use d) hq]
  · rw [enqueue_of_not hq, enqueue_of_not (o := o.use d) hq]
    rfl

theorem keep_enqueue (d : DeviceId) (f : Bytes) :
    (o.keep d f).enqueue q t = (o.enqueue q t).keep d f := by
  by_cases hq : (o.tasks.getD t default).queued = true
  · rw [enqueue_of_queued hq, enqueue_of_queued (o := o.keep d f) hq]
  · rw [enqueue_of_not hq, enqueue_of_not (o := o.keep d f) hq]
    rfl

/-- A device gives a frame to its hardware, … -/
theorem offer_of_none (hs : o.staging d = none) (f : Bytes) : o.offer d f = o.use d := by
  unfold offer
  rw [hs]

/-- … or keeps it, and its task waits. -/
theorem offer_of_some {w : Staging} (hs : o.staging d = some w) (f : Bytes) :
    o.offer d f = (o.keep d f).enqueue w.queue w.task := by
  unfold offer
  rw [hs]

theorem staging_offer (d : DeviceId) (f : Bytes) : (o.offer d f).staging = o.staging := by
  unfold offer
  cases o.staging d with
  | none => exact staging_use d
  | some w =>
    dsimp only
    unfold enqueue
    split_ifs <;> rfl

/-- **Two offers** come to the same in either order. -/
theorem offer_comm (ho : o.Sorted) : (o.offer d f).offer e g = (o.offer e g).offer d f := by
  have he := congrFun (staging_offer (o := o) d f) e
  have hd := congrFun (staging_offer (o := o) e g) d
  cases hsd : o.staging d with
  | none =>
    rw [hsd] at hd
    cases hse : o.staging e with
    | none =>
      rw [hse] at he
      rw [offer_of_none he, offer_of_none hd, offer_of_none hsd, offer_of_none hse, use_comm]
    | some x =>
      rw [hse] at he
      rw [offer_of_some he, offer_of_none hd, offer_of_none hsd, offer_of_some hse, ← use_enqueue]
      rfl
  | some w =>
    rw [hsd] at hd
    cases hse : o.staging e with
    | none =>
      rw [hse] at he
      rw [offer_of_none he, offer_of_some hd, offer_of_some hsd, offer_of_none hse, ← use_enqueue]
      rfl
    | some x =>
      rw [hse] at he
      rw [offer_of_some he, offer_of_some hd, offer_of_some hsd, offer_of_some hse, ← keep_enqueue,
        ← keep_enqueue, keep_comm, enqueue_comm (ho hsd hse)]

theorem Sorted.offer (ho : o.Sorted) (d : DeviceId) (f : Bytes) : (o.offer d f).Sorted := by
  intro d' e' w x hd he
  rw [staging_offer] at hd he
  exact ho hd he

end Outbox

namespace Host

variable {c c' : ConnId} {s s' : Stream} {v : Tally}

theorem entered_comm {p q : Prop} [Decidable p] [Decidable q] (hn : ¬ (p ∧ q)) {e e' : Event}
    (l : List Event) :
    (if q then e' :: (if p then e :: l else l) else if p then e :: l else l) =
      if p then e :: (if q then e' :: l else l) else if q then e' :: l else l := by
  split_ifs with hq hp
  · exact absurd ⟨hp, hq⟩ hn
  · rfl
  · rfl
  · rfl

/-- **Strokes on two connections** come to the same in either order. -/
theorem mark_mark (ho : v.outbox.Sorted) (hc : c ≠ c') (t : Stroke c s) (u : Stroke c' s') :
    u.mark (t.mark v) = t.mark (u.mark v) := by
  cases t with
  | enter e he =>
    cases u with
    | enter e' he' =>
      refine congrArg (Tally.mk _ _) (funext fun k => entered_comm ?_ (v.doings k))
      rintro ⟨h₁, h₂⟩
      rw [h₁] at he
      rw [h₂] at he'
      have hk : k = c := Option.some.inj (he.resolve_left nofun)
      have hk' : k = c' := Option.some.inj (he'.resolve_left nofun)
      exact hc (hk.symm.trans hk')
    | alter | leave | offer => rfl
  | alter g hg =>
    cases u with
    | alter g' hg' =>
      exact congrArg (fun cs => { v with rest := { v.rest with connections := cs } })
        (List.modify_modify_ne _ _ _ hc)
    | enter | leave | offer => rfl
  | leave =>
    cases u with
    | leave =>
      refine congrArg (fun l => { v with rest := { v.rest with streams := l } }) ?_
      change (v.rest.streams.filter (·.1 ≠ s)).filter (·.1 ≠ s') =
        (v.rest.streams.filter (·.1 ≠ s')).filter (·.1 ≠ s)
      rw [List.filter_filter, List.filter_filter]
      exact List.filter_congr fun _ _ => Bool.and_comm ..
    | enter | alter | offer => rfl
  | offer d f =>
    cases u with
    | offer d' f' => exact congrArg (fun o => { v with outbox := o }) (Outbox.offer_comm ho)
    | enter | alter | leave => rfl

theorem sorted_mark (ho : v.outbox.Sorted) (t : Stroke c s) : (t.mark v).outbox.Sorted := by
  cases t with
  | offer d f => exact ho.offer d f
  | _ => exact ho

theorem marks_mark (ho : v.outbox.Sorted) (hc : c ≠ c') (t : Stroke c s) (l : List (Stroke c' s')) :
    marks l (t.mark v) = t.mark (marks l v) := by
  induction l generalizing v with
  | nil => rfl
  | cons u l ih =>
    change marks l (u.mark (t.mark v)) = _
    rw [mark_mark ho hc]
    exact ih (sorted_mark ho u)

theorem marks_marks (ho : v.outbox.Sorted) (hc : c ≠ c') (l : List (Stroke c s))
    (l' : List (Stroke c' s')) : marks l' (marks l v) = marks l (marks l' v) := by
  induction l generalizing v with
  | nil => rfl
  | cons t l ih =>
    refine (ih (sorted_mark ho t)).trans ?_
    rw [marks_mark ho hc]
    rfl

/-- **Two connections may be played in either order.** -/
theorem tally_plays_plays {h : Host} (ho : h.outbox.Sorted) (hc : c ≠ c') (l : List (Stroke c s))
    (l' : List (Stroke c' s')) : (plays l' (plays l h)).tally = (plays l (plays l' h)).tally := by
  rw [tally_plays, tally_plays, tally_plays, tally_plays]
  exact marks_marks ho hc l l'

end Host

end InetHost
