import InetHost.Error

/-!
# Configuration

* `Config`: the sizes and limits of a host, with their defaults;
* `Config.check`: what a usable configuration has to satisfy.
-/

namespace InetHost

/-- The sizes and limits of a host. -/
structure Config where
  /-- The greatest length of a packet. -/
  mtu : UInt16 := 1500
  /-- The time to live of every packet sent. -/
  ttl : UInt8 := 64
  /-- The greatest number of resolved addresses. -/
  arpCapacity : Nat := 128
  /-- The size of a connection's receive buffer, and the window it advertises. -/
  receiveBuffer : Nat := 4096
  deriving DecidableEq, Repr, Inhabited

namespace Config

variable (c : Config)

/-- The first fault of a configuration, if it has one. -/
def check : Except NetError Unit :=
  if c.mtu.toNat < 576 then .error .mtuTooSmall
  else if c.ttl = 0 then .error .ttlZero
  else if c.arpCapacity = 0 then .error .arpCapacityZero
  else if c.receiveBuffer = 0 then .error .receiveBufferZero
  else .ok ()

/-- The settings by name. -/
def describe : String :=
  "NetStackConfig \x7b mtu: " ++ c.mtu.toNat.repr ++ ", ttl: " ++ c.ttl.toNat.repr ++
    ", arp_capacity: " ++ c.arpCapacity.repr ++ ", tcp_recv_buffer_size: " ++
    c.receiveBuffer.repr ++ " \x7d"

/-- The most data that a segment may carry. -/
def maxSegment : Nat := c.mtu.toNat - 40

/-- The most data that a datagram may carry. -/
def maxDatagram : Nat := c.mtu.toNat - 28

end Config

end InetHost
