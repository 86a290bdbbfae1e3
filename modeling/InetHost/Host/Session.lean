import InetHost.Host.Run

/-!
# Sessions

* `Setup`: a configuration and some devices; `Host.start`: the host that has them;
* `Host.step`: an operation from outside, with its answer and the events that can be seen;
* `Host.session`: operations one after the other.
-/

namespace InetHost

/-- A device to start with. -/
structure DeviceSetup where
  mac : Mac
  ip : Ip
  /-- The queue of the task that transmits its frames; without one they are sent at once. -/
  queue : Option QueueId := none
  deriving DecidableEq, Repr

/-- What a host starts with. -/
structure Setup where
  config : Config := {}
  devices : List DeviceSetup := []
  deriving Repr

/-- What an operation from outside led to. -/
structure Step where
  /-- The answer, if the operation came to an end. -/
  reply : Option Reply
  /-- The events that could be seen. -/
  events : List Event

namespace Host

/-- A host with one more device. -/
def attach (h : Host) (v : DeviceSetup) : Host :=
  match v.queue with
  | none => { h with devices := h.devices ++ [{ mac := v.mac, ip := v.ip }] }
  | some q =>
    let staging : Staging := ⟨q, h.tasks.length, []⟩
    { h with
      devices := h.devices ++ [{ mac := v.mac, ip := v.ip, staging := some staging }]
      tasks := h.tasks ++ [{ body := .transmit h.devices.length }] }

/-- A host before anything has happened. -/
def start (s : Setup) : Except NetError Host := do
  s.config.check
  return s.devices.foldl attach { config := s.config }

/-- A depth that no finite use of application code comes near. -/
def depth : Nat := 1000000

/-- An operation from outside. -/
def step (h : Host) (op : Op) : Step × Host :=
  let (r, h') := (exec depth {} op).run h
  (⟨r, (h'.eventsAfter h.journal.length).filter Event.visible⟩, h')

/-- Operations from outside, one after the other. -/
def steps (h : Host) : List Op → List Step
  | [] => []
  | op :: ops =>
    let (s, h') := h.step op
    s :: steps h' ops

/-- A session: a host starts and is used. -/
def session (s : Setup) (ops : List Op) : Except NetError (List Step) :=
  (start s).map (·.steps ops)

end Host

end InetHost
