import InetHost.Proofs.Queue.Polls
import InetHost.Proofs.Queue.Staging

/-!
# Frames reach the hardware

* `Delivery`: what becomes of the frames that devices with staging are asked to send;
* **`delivery_leads`**: it holds of every host that was started and used, also while it is used, however
  the hardware takes the frames;
* `postal`: a host whose hardware fails once, with sends and polls inside a job.
-/

namespace InetHost.Host

variable {h h' : Host} {q : QueueId} {d : DeviceId} {s : Staging}

/-- **What becomes of frames** that devices with staging are asked to send. A device is live as long as
its task does not find it gone. -/
structure Delivery (h : Host) : Prop where
  /-- A device takes every frame, … -/
  send : ∀ {d s} f, (h.device d).staging = some s → ((offer d f).run h).1 = .ok () ∧
    asked d ((offer d f).run h).2.journal = asked d h.journal ++ [f]
  /-- … and hands them to the hardware in turn; those that were not yet handed over wait. -/
  frames : ∀ {d s}, (h.device d).staging = some s →
    (handed d h.journal).map Prod.fst ++ s.frames = asked d h.journal
  /-- What the hardware takes is on the wire. -/
  wires : ∀ d, wired d h.journal = ((handed d h.journal).filter (·.2.isNone)).map Prod.fst
  /-- There is one warning for every frame that it did not take. -/
  warned : warnings h.journal = h.failures h.journal
  /-- A device that the application holds is live. -/
  live : ∀ d, (h.device d).held = true → .deserted d ∉ h.journal
  /-- Frames wait as long as the task of the device is flagged, … -/
  flag : ∀ {d s}, (h.device d).staging = some s → .deserted d ∉ h.journal →
    (s.frames ≠ [] ↔ (h.task s.task).queued = true)
  /-- … and then it waits once on the device's queue, … -/
  place : ∀ {d s}, (h.device d).staging = some s → .deserted d ∉ h.journal →
    (h.queue s.queue).countP (Job.isTask s.task) = if s.frames = [] then 0 else 1
  /-- … and on no other. -/
  home : ∀ {d s q}, (h.device d).staging = some s → .task s.task ∈ h.queue q → q = s.queue
  /-- A poll that ends leaves no frame on a device with that queue. -/
  poll : ∀ {inner fuel x q r h'},
    (∀ x op h, Leads ((inner x op).run h).1.isSome h ((inner x op).run h).2) →
    (perform inner fuel x (.poll q)).run h = (some r, h') →
    ∀ {d s}, (h'.device d).staging = some s → s.queue = q → .deserted d ∉ h'.journal → s.frames = []

theorem Stored.place (v : Stored h) (hs : (h.device d).staging = some s)
    (hd : .deserted d ∉ h.journal) :
    (h.queue s.queue).countP (Job.isTask s.task) = if s.frames = [] then 0 else 1 := by
  obtain ⟨hl, hw⟩ := v.flagged d s hs
  split_ifs with he
  · rw [List.countP_eq_zero]
    intro j hj ht
    obtain rfl := Job.isTask_iff.mp ht
    exact hl (v.queued_of_mem hj) he
  · obtain ⟨q, hq⟩ := v.queued_iff.mp (hw hd he)
    obtain rfl := v.home hq hs rfl
    exact (v.once hq).1

/-- A poll that has found a queue empty has left nothing on the devices with that queue. -/
theorem Stored.frames_eq_nil (v : Stored h) (hs : (h.device d).staging = some s)
    (hd : .deserted d ∉ h.journal) (hq : h.queue s.queue = []) : s.frames = [] := by
  have hp := v.place hs hd
  rw [hq] at hp
  by_cases he : s.frames = []
  · exact he
  · simp [he] at hp

theorem offer_staged (hs : (h.device d).staging = some s) (f : Bytes) :
    ((offer d f).run h).1 = .ok () ∧
      asked d ((offer d f).run h).2.journal = asked d h.journal ++ [f] := by
  constructor
  · unfold offer
    rw [act_get]
    dsimp only
    rw [hs]
    rfl
  · have hj : ((stage d f).run h).2.journal = .offered d f none :: h.journal := rfl
    rw [run_offer hs, (keepsFrames_enqueue _ _).asked_eq d, hj]
    simp [Event.askedOf]

/-- **Frames reach the hardware**, at all times. -/
theorem delivery_leads {s : Setup} {h₀ : Host} {ended : Bool} (hs : start s = .ok h₀)
    (hl : Leads ended h₀ h) : Delivery h := by
  have v : Stored h := (stored_start hs).shifts (shifts_leads hl)
  refine ⟨fun f hs => offer_staged hs f, v.frames, v.wires, v.warned, ?_,
    fun hs hd => ⟨(v.flagged _ _ hs).2 hd, (v.flagged _ _ hs).1⟩,
    v.place, fun hs hm => v.home hm hs rfl, ?_⟩
  · intro d hh hd
    rw [v.watched d hd] at hh
    cases hh
  · intro inner fuel x q r h' hi hr d s hs hq hd
    have hp := Leads.perform inner fuel x (.poll q) h hi
    rw [hr] at hp
    have v' : Stored h' := v.shifts (shifts_leads hp)
    have he : h'.queue q = [] := (perform_poll hr).1
    exact v'.frames_eq_nil hs hd (hq ▸ he)

/-! ## A host that sends -/

/-- A device with staging. -/
def postman : DeviceSetup := { mac := ⟨2, 0, 0, 0, 0, 1⟩, ip := ⟨10, 0, 0, 1⟩, queue := some 1 }

/-- The hardware of a device takes frames as it is told. -/
def withOutcomes (h : Host) (d : DeviceId) (l : List (Option Refusal)) : Host :=
  { h with devices := h.devices.modify d ({ · with outcomes := l }) }

/-- The hardware fails on the second frame. Two frames are sent, and one by a job that comes between and
polls the device's queue; when all is done, two more are sent. -/
def postal? : Option Host :=
  after? 5
    [.advertise 0, .spawn 1 (.number 0) [.lookup 0 ⟨10, 0, 0, 2⟩, .poll 1], .advertise 0, .poll 1,
      .advertise 0, .lookup 0 ⟨10, 0, 0, 3⟩]
    (withOutcomes (attach { config := {} } postman) 0 [none, some { kind := .wouldBlock }, none])

/-- The host that sent them. -/
def postal : Host := postal?.getD default

theorem postal_eq : postal? = some postal := by
  have hs : postal?.isSome = true := by decide +kernel
  obtain ⟨h, hh⟩ := Option.isSome_iff_exists.mp hs
  rw [postal, hh]
  rfl

theorem delivery_postal : ∃ h₀, start ⟨{}, [postman]⟩ = .ok h₀ ∧ Leads true h₀ postal ∧
    Delivery postal ∧ (asked 0 postal.journal).length = 5 ∧ (handed 0 postal.journal).length = 3 ∧
    (wired 0 postal.journal).length = 2 ∧ (warnings postal.journal).length = 1 ∧
    ((postal.device 0).staging.map (·.frames.length)) = some 2 ∧ (postal.device 0).held = true := by
  have hs : start ⟨{}, [postman]⟩ = .ok (attach { config := {} } postman) := rfl
  have hl : Leads true (attach { config := {} } postman) postal :=
    .trans (.hardware 0 _ _) (leads_after? postal_eq)
  exact ⟨_, hs, hl, delivery_leads hs hl, by decide +kernel, by decide +kernel, by decide +kernel,
    by decide +kernel, by decide +kernel, by decide +kernel⟩

end InetHost.Host
