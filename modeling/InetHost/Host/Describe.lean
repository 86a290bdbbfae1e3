import InetHost.Host.Basic

/-!
# Descriptions

The parts of a host by name, as they are shown to a developer.
-/

namespace InetHost

/-- The number of jobs on a queue. -/
def describeQueue (pending : Nat) : String := s!"TaskQueue \x7b pending: {pending} \x7d"

/-- Whether a task is on a queue. -/
def describeTask (queued : Bool) : String :=
  if queued then "Task \x7b queued: true \x7d" else "Task \x7b queued: false \x7d"

/-- Addresses and number of staged frames of a device. -/
def describeDevice (mac : Mac) (ip : Ip) (staged : Nat) : String :=
  s!"QueuedDevice \x7b mac: {mac}, ip: {ip}, staged: {staged} \x7d"

/-- The configuration of a host and the sizes of its parts. -/
def Host.describe (h : Host) : String :=
  s!"NetStack \x7b config: {h.config.describe}, arp_entries: {h.arp.size}, " ++
    s!"devices: {h.owners.length}, tcp_streams: {h.streams.length}, " ++
    s!"tcp_listeners: {h.acceptors.length}, task_queue: {describeQueue (h.queue 0).length} \x7d"

end InetHost
