import InetHost.Address.Ip

/-!
# Endpoints, flows and streams

* `Endpoint`: an address and a port; `Endpoint.text` writes it and `Endpoint.ofText?` reads it;
* `Flow`: the two ends of a datagram's way, as its sender sees them; `Flow.reverse` turns it round
  (`reverse_reverse`);
* `Stream`: the two ends of a connection, as the host sees them.
-/

namespace InetHost

/-- An address and a port. -/
structure Endpoint where
  ip : Ip
  port : UInt16
  deriving DecidableEq, Repr, Inhabited

namespace Endpoint

/-- The address, a colon and the port. -/
def text (e : Endpoint) : String := e.ip.text ++ ":" ++ e.port.toNat.repr

instance : ToString Endpoint := ⟨text⟩

/-- A port, up to the end: at least one digit, at most 65535; zeros in front are idle. -/
def port? (ds : List Char) : Option UInt16 :=
  if ds ≠ [] ∧ ds.all Char.isDigit ∧ Ip.decimal ds ≤ 65535 then some (UInt16.ofNat (Ip.decimal ds))
  else none

/-- Reads an address, a colon and a port, with nothing before or after. -/
def ofText? (s : String) : Option Endpoint := do
  let (ip, cs) ← Ip.read? s.toList
  return ⟨ip, ← port? (← Ip.after? ':' cs)⟩

end Endpoint

/-! ## Pairs of endpoints -/

/-- The way of a datagram, from sender to receiver. -/
structure Flow where
  src : Endpoint
  dst : Endpoint
  deriving DecidableEq, Repr, Inhabited

namespace Flow

/-- The same flow seen from the other end. -/
def reverse (f : Flow) : Flow := ⟨f.dst, f.src⟩

@[simp] theorem reverse_reverse (f : Flow) : f.reverse.reverse = f := rfl

/-- Both ends, in the direction of travel. -/
def text (f : Flow) : String := f.src.text ++ "->" ++ f.dst.text

instance : ToString Flow := ⟨text⟩

/-- Both ends by name. -/
def describe (f : Flow) : String :=
  "Quad \x7b src: " ++ f.src.text ++ ", dst: " ++ f.dst.text ++ " \x7d"

end Flow

/-- The two ends of a connection: the host's own and the peer's. -/
structure Stream where
  here : Endpoint
  peer : Endpoint
  deriving DecidableEq, Repr, Inhabited

namespace Stream

/-- Both ends, the peer first. -/
def text (s : Stream) : String := s.peer.text ++ "->" ++ s.here.text

instance : ToString Stream := ⟨text⟩

/-- Both ends by name. -/
def describe (s : Stream) : String :=
  "TcpStream \x7b local_addr: " ++ s.here.text ++ ", peer_addr: " ++ s.peer.text ++ " \x7d"

end Stream

end InetHost
