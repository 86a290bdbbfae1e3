import InetHost.Host.Basic

/-!
# Calls of application code

A host calls the application where a connection is accepted, data is read or a datagram comes in. The
receiving side of the host takes what answers a `Call` as a parameter, so it is the same for every
application, one that uses the host while it is called included.
-/

namespace InetHost

/-- A call of application code. -/
inductive Call where
  /-- Listener number `a` is to accept the connection. -/
  | accept (a : Nat) (s : Stream)
  /-- A connection is to read data. -/
  | read (c : ConnId) (data : Bytes)
  /-- Listener number `u` is told of a datagram. -/
  | notify (u : Nat) (f : Flow) (data : Bytes)
  deriving DecidableEq, Repr

/-- Application code: what it does when it is called. -/
abbrev Application := Call → Run Unit

end InetHost
