import InetHost.Host.Describe
import InetHost.Host.Receive
import InetHost.Host.Service

/-!
# Running operations

Operations run application code and application code runs operations. Nothing bounds how deep this
goes, so `exec` counts down from a given depth; a run that gets that far has no answer.

* `runScript`: the operations of a script, each with its answer in the journal;
* `answerCall`: what the application does when it is called;
* `runJob`, `drain`: deferred work;
* `perform`: one operation, given how operations inside it run; **`exec`** ties the knot.
-/

namespace InetHost.Host

/-- How operations that application code asks for are run. -/
abbrev Exec := Context → Op → Run Reply

variable (inner : Exec)

/-! ## Application code -/

/-- Hold a device while something is done. -/
def lend (d : DeviceId) (x : Run Unit) : Run Unit := do
  modify fun h => { h with lent := d :: h.lent }
  x
  modify fun h => { h with lent := h.lent.tail }

/-- Run operations in turn, each with its answer in the journal. -/
def runScript (x : Context) (ops : List Op) : Run Unit :=
  ops.forM fun op => do
    let r ← inner x op
    record (.answered r)

/-- A listener accepts a connection. -/
def runAccept (a : Nat) (s : Stream) : Run Unit := do
  let l := (← get).acceptors.getD a default
  match l.service with
  | .echo | .page => pure ()
  | .script accept _ =>
    modify fun h => { h with acceptors := h.acceptors.modify a ({ · with calls := l.calls + 1 }) }
    record (.accepting l.port s)
    runScript inner { stream := s } (Script.entry accept l.calls)

/-- A connection reads data. -/
def runRead (c : ConnId) (data : Bytes) : Run Unit := do
  let k := (← get).connection c
  match k.service with
  | .echo => echoStream k.stream data
  | .page => sendPage k.stream
  | .script _ read =>
    modify fun h => { h with connections := h.connections.modify c ({ · with reads := k.reads + 1 }) }
    record (.reading k.stream data)
    lend k.device (runScript inner { stream := k.stream, data } (Script.entry read k.reads))

/-- A listener is told of a datagram. -/
def runNotify (u : Nat) (f : Flow) (data : Bytes) : Run Unit := do
  let l := (← get).subscribers.getD u default
  match l.service with
  | .echo => echoDatagram f data
  | .script id notify =>
    modify fun h => { h with
      subscribers := h.subscribers.modify u ({ · with calls := l.calls + 1 }) }
    record (.notifying id f data)
    runScript inner { flow := f, data } (Script.entry notify l.calls)

/-- What the application does when it is called. -/
def answerCall : Application
  | .accept a s => runAccept inner a s
  | .read c data => runRead inner c data
  | .notify u f data => runNotify inner u f data

/-! ## Deferred work -/

/-- Run a task that has left its queue. -/
def runTask (t : TaskId) : Run Unit := do
  dequeued t
  let k := (← get).task t
  match k.body with
  | .transmit d => if (← get).alive d then transmitNext d else record (.deserted d)
  | .script id runs =>
    modifyTask t ({ · with runs := k.runs + 1 })
    record (.taskRuns id)
    runScript inner {} (Script.entry runs k.runs)

/-- Run a job. -/
def runJob : Job → Run Unit
  | .frame d b => lend d (receiveFrame (answerCall inner) d b)
  | .once id ops => do
    record (.jobRuns id)
    runScript inner {} ops
  | .task t => runTask inner t

/-- Run the jobs of a queue in turn until it is empty, after `n` of them; at most `fuel` more. -/
def drain (q : QueueId) : Nat → Nat → Run Nat
  | 0, _ => failure
  | fuel + 1, n => do
    match ← OptionT.lift (next? q) with
    | none =>
      record (.drained q n)
      return n
    | some j =>
      runJob inner j
      drain q fuel (n + 1)

/-! ## Operations -/

/-- The way of a datagram that is meant: a given one, or back from where the application's came. -/
def flowOf (x : Context) (f : Option Flow) : Option Flow := f.or (x.flow.map Flow.reverse)

/-- Make a task, under a name that may have been another's. -/
def defineTask (id : Label) (runs : Script) : Act Unit :=
  modify fun h => { h with
    tasks := h.tasks ++ [{ body := .script id runs }]
    taskNames := (id, h.tasks.length) :: h.taskNames }

/-- The task with a name waits on a queue. -/
def isQueued (h : Host) (id : Label) : Bool :=
  match h.taskNames.lookup id with
  | some t => (h.task t).queued
  | none => false

/-- Run an operation, given how those inside it run and how many jobs a poll may run. -/
def perform (fuel : Nat) (x : Context) : Op → Run Reply
  | .receive d b => do
    lend d (receiveFrame (answerCall inner) d (b.resolve x))
    return .done
  | .defer d b => do
    put 0 (.frame d (b.resolve x))
    return .done
  | .poll q => .count <$> drain inner q fuel 0
  | .pending q => return .queue ((← get).queue q).length
  | .register d => do
    register d
    return .done
  | .ownerOf ip => return .device ((← get).owner? ip)
  | .announce d => return .ofExcept (← announce d)
  | .advertise d => return .ofExcept (← advertise d)
  | .lookup d ip => return .mac (← OptionT.lift (lookup d ip))
  | .store ip mac => return .flag (← store ip mac)
  | .receiveArp d b => do
    receiveArp d (b.resolve x)
    return .done
  | .receivePacket d b => do
    lend d (receivePacket (answerCall inner) d (b.resolve x))
    return .done
  | .receiveIcmp d b src => do
    receiveIcmp d (b.resolve x) src
    return .done
  | .receiveSegment d b src => do
    lend d (receiveSegment (answerCall inner) d (b.resolve x) src)
    return .done
  | .receiveDatagram d b src => do
    lend d (receiveDatagram (answerCall inner) d (b.resolve x) src)
    return .done
  | .sendPacket d protocol dst room b => do
    record (.crafting d)
    let r ← sendPacket (.withRoom room (b.resolve x)) protocol dst d
    record (.crafted d)
    return .ofExcept r
  | .sendFrame d type dst room b => do
    record (.crafting d)
    let r ← sendFrame (.withRoom room (b.resolve x)) type dst d
    record (.crafted d)
    return .ofExcept r
  | .listen port accept read => return .ofExcept (← listen port (.script accept read))
  | .send t b =>
    match t.resolve x with
    | some s => return .ofExcept (← sendData s (b.resolve x))
    | none => return .failed .noConnection
  | .close t =>
    match t.resolve x with
    | some s => return .ofExcept (← close s)
    | none => return .done
  | .stateOf t => return .state ((t.resolve x).bind (← get).stateOf)
  | .subscribe port id notify => do
    subscribe port (.script id notify)
    return .done
  | .sendDatagram f b =>
    match flowOf x f with
    | some f => return .ofExcept (← sendDatagram f (b.resolve x))
    | none => return .failed .noConnection
  | .serveEcho => return .ofExcept (← serveEcho)
  | .servePage => return .ofExcept (← servePage)
  | .summary => return .text (← get).describe
  | .settings => return .text (← get).config.describe
  | .deviceState d => do
    let v := (← get).device d
    return .interface v.mac v.ip (v.staging.map (·.frames.length))
  | .setFailure d r => do
    modify fun h => { h with devices := h.devices.modify d ({ · with outcomes := [r] }) }
    return .done
  | .release d => do
    modify fun h => { h with devices := h.devices.modify d ({ · with held := false }) }
    return .done
  | .spawn q id ops => do
    put q (.once id ops)
    return .done
  | .define id runs => do
    defineTask id runs
    return .done
  | .enqueue id q => do
    match (← get).taskNames.lookup id with
    | some t => enqueue q t
    | none => pure ()
    return .task ((← get).isQueued id)
  | .taskState id => return .task ((← get).isQueued id)

/-- **Run an operation** down to a depth of application code inside application code. -/
def exec : Nat → Exec
  | 0, _, _ => failure
  | n + 1, x, op => perform (exec n) n x op

end InetHost.Host
