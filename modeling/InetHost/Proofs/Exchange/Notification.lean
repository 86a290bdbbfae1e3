import InetHost.Proofs.Exchange.Course
import InetHost.Proofs.Exchange.Datagram
import InetHost.Proofs.Run.Enrolment

/-!
# Who is told of a datagram

The listeners that a port has when a datagram comes in are told of it, in the order in which they came.
What they do meanwhile changes nothing about that. A listener that comes meanwhile is told of later
datagrams.

* `notices`: the calls that tell listeners of a datagram;
* **`course_receiveDatagram`**, `course_receiveFrame_datagram`: a host makes them, whatever the application
  is;
* `enrols_notices`: the listeners stay while they are told;
* **`notification`**: how every host tells its listeners.
-/

namespace InetHost.Host

variable {h h' : Host} {app : Application} {d : DeviceId} {b : Bytes} {src : Ip} {f : Flow}
  {data : Bytes} {m : Udp.Datagram} {inner : Exec}

/-! ## The course of a datagram -/

/-- Some listeners are told of a datagram, each of them once. Without any, that is noted. -/
def notices (us : List Nat) (f : Flow) (data : Bytes) : List Leg :=
  if us = [] then [.apart] else us.map fun u => .call (.notify u f data)

/-- **A datagram comes to the listeners of its port**, whatever the application is. -/
theorem course_receiveDatagram (hm : Udp.Datagram.decode b = .ok m)
    (hf : f = ⟨⟨src, m.srcPort⟩, ⟨(h.device d).ip, m.dstPort⟩⟩) (app : Application) :
    Within (Course app (notices (h.subscribersOf f.dst.port) f m.payload)) h
      (receiveDatagram app d b src) := by
  have hp : f.dst.port = m.dstPort := congrArg (·.dst.port) hf
  unfold notices receiveDatagram
  rw [hm, hp]
  refine Within.get ?_
  rw [← hf]
  split_ifs with hu
  · rw [hu]
    exact Course.apart (apart_record (e := .noticed (.noListener f)) rfl) (.done _)
  · obtain ⟨u, us, hs⟩ := List.exists_cons_of_ne_nil hu
    rw [hs]
    exact course_forM app (.notify · f m.payload) (u :: us) h

theorem course_receiveFrame_datagram (hc : Carries h d b (.datagram f data)) (app : Application) :
    Within (Course app (.apart :: notices (h.subscribersOf f.dst.port) f data)) h
      (receiveFrame app d b) := by
  have hu : h.subscribersOf f.dst.port ≠ [] := by
    rw [ne_eq, subscribersOf_eq_nil]
    cases hc with
    | datagram hf ht hp hq hm hu =>
      obtain ⟨l, hl, hp⟩ := hu
      exact fun hn => hn l hl hp
  obtain ⟨os, j, hr⟩ := run_register d h
  unfold Within notices
  rw [hc.run_receiveFrame, if_neg hu]
  refine course_act (apart_register d h) ?_
  rw [hr]
  exact course_forM app (.notify · f data) (h.subscribersOf f.dst.port) _

/-! ## What the listeners do meanwhile -/

theorem enrols_answerCall (hi : ∀ x op h, Within Leads h (inner x op)) (k : Call) (h : Host) :
    Within (fun _ => Enrols) h (answerCall inner k) :=
  covers_enrols.toServes.answerCall (fun x op h => enrols_leads (hi x op h)) k h

/-- **The listeners stay while they are told.** -/
theorem enrols_notices (hi : ∀ x op h, Within Leads h (inner x op))
    {us : List Nat} {e : Bool}
    (hc : Course (answerCall inner) (us.map fun u => .call (.notify u f data)) e h h') : Enrols h h' :=
  hc.preserves (enrols_answerCall hi)

/-! ## Every host -/

/-- **How a host tells its listeners** of datagrams. -/
structure Notification (h : Host) : Prop where
  /-- The listeners that a port has when a datagram comes in are told of it, one after another and with the
  same way and data, and nothing else is done, whatever the application is and whatever it does
  meanwhile. -/
  datagram : ∀ {d b src m f}, Udp.Datagram.decode b = .ok m →
    f = ⟨⟨src, m.srcPort⟩, ⟨(h.device d).ip, m.dstPort⟩⟩ → ∀ app,
      Within (Course app (notices (h.subscribersOf f.dst.port) f m.payload)) h
        (receiveDatagram app d b src)
  /-- So it is for a datagram in a frame, whose device is presented first. -/
  frame : ∀ {d b f data}, Carries h d b (.datagram f data) → ∀ app,
    Within (Course app (.apart :: notices (h.subscribersOf f.dst.port) f data)) h (receiveFrame app d b)
  /-- These are the listeners that the roll has for the port, … -/
  listeners : ∀ {port u}, u ∈ h.subscribersOf port ↔
    ∃ service, h.subscriberRoll[u]? = some (port, service)
  /-- … each of them once, in the order in which they came. -/
  order : ∀ port, (h.subscribersOf port).Pairwise (· < ·)
  /-- A new listener comes at the end of the roll and last at its port, and at no other. -/
  joins : ∀ p service, let h₁ := ((subscribe p service).run h).2
    h₁.subscriberRoll = h.subscriberRoll ++ [(p, service)] ∧
      ∀ port, h₁.subscribersOf port =
        h.subscribersOf port ++ if p = port then [h.subscribers.length] else []
  /-- The listeners stay, with their numbers and services, whatever the host is used for, … -/
  stays : ∀ {e h'}, Leads e h h' → h.subscriberRoll <+: h'.subscriberRoll
  /-- … also while they are told of a datagram. -/
  meanwhile : ∀ {inner : Exec}, (∀ x op h, Within Leads h (inner x op)) →
    ∀ {us : List Nat} {f data e h'},
      Course (answerCall inner) (us.map fun u => .call (.notify u f data)) e h h' →
        h.subscriberRoll <+: h'.subscriberRoll
  /-- Whoever is a listener after a datagram, those that came meanwhile included, is told of every later
  datagram, before those that come later still. -/
  later : ∀ {inner : Exec}, (∀ x op h, Within Leads h (inner x op)) → ∀ {d b src port r h' e h₂},
    (receiveDatagram (answerCall inner) d b src).run h = (r, h') → Leads e h' h₂ →
      h.subscribersOf port <+: h'.subscribersOf port ∧
        h'.subscribersOf port <+: h₂.subscribersOf port

/-- **A datagram is told to the listeners that its port has when it comes in**, in the order in which they
came. -/
theorem notification (h : Host) : Notification h where
  datagram := course_receiveDatagram
  frame := course_receiveFrame_datagram
  listeners := mem_subscribersOf_iff
  order := pairwise_subscribersOf h
  joins p service :=
    ⟨subscriberRoll_subscribe p service h, fun port => subscribersOf_subscribe p port service h⟩
  stays hl := (enrols_leads hl).subscribers
  meanwhile hi _ _ _ _ _ hc := (enrols_notices hi hc).subscribers
  later := by
    intro inner hi d b src port r h' e h₂ hr hl
    have hw : Within (fun _ => Enrols) h (receiveDatagram (answerCall inner) d b src) :=
      covers_enrols.toServes.receiveDatagram (enrols_answerCall hi) d b src h
    unfold Within at hw
    rw [hr] at hw
    exact ⟨hw.subscribersOf port, (enrols_leads hl).subscribersOf port⟩

/-- A host with two listeners on port 53. The first of them has another one come whenever it is told of a
datagram. -/
def recruiter : Host :=
  talked [.subscribe 53 (.number 0) [[.subscribe 53 (.number 9) []]], .subscribe 7 (.number 1) [],
    .subscribe 53 (.number 2) []]

/-- The way of a datagram for them. -/
def leaflet : Flow := ⟨⟨⟨10, 0, 0, 2⟩, 4000⟩, ⟨talker.ip, 53⟩⟩

/-- The two are told of a datagram. The one that comes meanwhile is told of the next, after them. -/
theorem notification_recruiter : Visited recruiter ∧ ∃ b h',
    (∀ app, Within (Course app [.call (.notify 0 leaflet [1]), .call (.notify 2 leaflet [1])]) recruiter
      (receiveDatagram app 0 b ⟨10, 0, 0, 2⟩)) ∧
    (receiveDatagram (answerCall (exec 1)) 0 b ⟨10, 0, 0, 2⟩).run recruiter = (some (), h') ∧
    ∀ app, Within (Course app [.call (.notify 0 leaflet [1]), .call (.notify 2 leaflet [1]),
      .call (.notify 3 leaflet [1])]) h' (receiveDatagram app 0 b ⟨10, 0, 0, 2⟩) := by
  have hv : Visited recruiter := visited_talked (by decide +kernel)
  have hm : Udp.Datagram.decode (Udp.encode leaflet [1]) = .ok ⟨4000, 53, [1]⟩ :=
    Udp.Datagram.decode_encode leaflet (by decide)
  have hr : ((receiveDatagram (answerCall (exec 1)) 0 (Udp.encode leaflet [1]) ⟨10, 0, 0, 2⟩).run
      recruiter).1 = some () := by decide +kernel
  have hd : (recruiter.device 0).ip = talker.ip := by decide +kernel
  have hu : recruiter.subscribersOf 53 = [0, 2] := by decide +kernel
  have hu' : ((receiveDatagram (answerCall (exec 1)) 0 (Udp.encode leaflet [1]) ⟨10, 0, 0, 2⟩).run
      recruiter).2.subscribersOf 53 = [0, 2, 3] := by decide +kernel
  have hd' : (((receiveDatagram (answerCall (exec 1)) 0 (Udp.encode leaflet [1]) ⟨10, 0, 0, 2⟩).run
      recruiter).2.device 0).ip = talker.ip := by decide +kernel
  generalize hh : ((receiveDatagram (answerCall (exec 1)) 0 (Udp.encode leaflet [1]) ⟨10, 0, 0, 2⟩).run
    recruiter) = x at hr hu' hd'
  have h₁ : ∀ app, Within (Course app (notices (recruiter.subscribersOf 53) leaflet [1])) recruiter
      (receiveDatagram app 0 (Udp.encode leaflet [1]) ⟨10, 0, 0, 2⟩) :=
    (notification recruiter).datagram hm (by rw [hd])
  have h₂ : ∀ app, Within (Course app (notices (x.2.subscribersOf 53) leaflet [1])) x.2
      (receiveDatagram app 0 (Udp.encode leaflet [1]) ⟨10, 0, 0, 2⟩) :=
    (notification x.2).datagram hm (by rw [hd'])
  rw [hu] at h₁
  rw [hu'] at h₂
  exact ⟨hv, _, x.2, h₁, hh.trans (Prod.ext hr rfl), h₂⟩

end InetHost.Host
