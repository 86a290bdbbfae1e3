import InetHost.Ethernet
import InetHost.Host.Queue

/-!
# Sending frames

* `transmit`: a frame reaches the hardware of a device, which may fail;
* `offer`: a device is asked to send a frame. One without staging transmits it at once. One with
  staging keeps it and succeeds; its task transmits one frame a run (`transmitNext`);
* `sendFrame`: a frame is built in a buffer and offered;
* `alive`: somebody still holds a device. The task of a device that is gone does nothing.
-/

namespace InetHost.Host

/-- The hardware of a device has taken a frame, or failed to. -/
def useHardware (d : DeviceId) : Act Unit :=
  modify fun h => { h with devices := h.devices.modify d fun v => { v with outcomes := v.outcomesLeft } }

/-- Give a frame to the hardware of a device. -/
def transmit (d : DeviceId) (frame : Bytes) : Act (Except NetError Unit) := do
  let failure := ((← get).device d).failure
  useHardware d
  record (.transmitted d frame failure)
  match failure with
  | some r => return .error (.refused r)
  | none =>
    record (.wire d frame)
    return .ok ()

/-- Change the frames that wait for a device's hardware. -/
def modifyStaged (d : DeviceId) (f : List Bytes → List Bytes) : Act Unit :=
  modify fun h => { h with devices := h.devices.modify d fun v =>
    { v with staging := v.staging.map fun s => { s with frames := f s.frames } } }

/-- Ask a device to send a frame. -/
def offer (d : DeviceId) (frame : Bytes) : Act (Except NetError Unit) := do
  let v := (← get).device d
  match v.staging with
  | none =>
    record (.offered d frame v.failure)
    transmit d frame
  | some s =>
    record (.offered d frame none)
    modifyStaged d (· ++ [frame])
    enqueue s.queue s.task
    return .ok ()

/-- Transmit the first frame that waits for a device's hardware. -/
def transmitNext (d : DeviceId) : Act Unit := do
  let v := (← get).device d
  match v.staging with
  | none => return
  | some s =>
    match s.frames with
    | [] => return
    | frame :: rest =>
      modifyStaged d fun _ => rest
      match ← transmit d frame with
      | .ok _ => pure ()
      | .error e => note (.transmitFailed v.ip e)
      unless rest.isEmpty do enqueue s.queue s.task

/-- Put a frame's header in front of a buffer's content and offer the frame to a device. -/
def sendFrame (b : PacketBuffer) (type : UInt16) (dst : Mac) (d : DeviceId) :
    Act (Except NetError Unit) := do
  match b.prepend (Ethernet.header dst ((← get).device d).mac type) with
  | .error e => return .error e
  | .ok b => offer d b.window

/-! ## Devices that are gone -/

/-- A job that holds a device. -/
def holds (d : DeviceId) : Job → Bool
  | .frame e _ => e == d
  | _ => false

/-- Somebody holds the device: the application, the host, a connection, a deferred frame or an
operation in progress. -/
def alive (h : Host) (d : DeviceId) : Bool :=
  (h.device d).held || h.owners.any (·.2 == d) ||
    h.streams.any (fun e => (h.connection e.2).device == d) ||
    h.queues.any (·.any (holds d)) || h.lent.contains d

end InetHost.Host
