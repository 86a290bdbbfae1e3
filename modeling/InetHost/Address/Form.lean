import InetHost.Error

/-!
# Ways to give an endpoint

An application may name an endpoint by its value, or by text that has to be read. An IPv6 endpoint is
understood and refused.
-/

namespace InetHost

/-- A way to give an endpoint. -/
inductive AddressForm where
  | v4 (e : Endpoint)
  | v6 (port : UInt16)
  | text (s : String)
  deriving DecidableEq, Repr

/-- The endpoint that is meant. -/
def AddressForm.endpoint : AddressForm → Except NetError Endpoint
  | v4 e => .ok e
  | v6 _ => .error .ipv6Address
  | text s =>
    match Endpoint.ofText? s with
    | some e => .ok e
    | none => .error .addressText

/-- The flow between two endpoints; of two errors the one in the source wins. -/
def Flow.between (src dst : AddressForm) : Except NetError Flow := do
  return ⟨← src.endpoint, ← dst.endpoint⟩

end InetHost
