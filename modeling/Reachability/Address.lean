/-!
# Internet addresses

An address of either family, and an address together with a port. The scope of a
version 6 address names the interface it is meant for and belongs to the socket
address.
-/
namespace Reachability

/-- A version 4 address: four octets, the most significant first. -/
structure Ipv4 where
  first : UInt8
  second : UInt8
  third : UInt8
  fourth : UInt8
deriving DecidableEq, Inhabited

/-- A version 6 address: eight groups of sixteen bits, the most significant first. -/
structure Ipv6 where
  groups : Vector UInt16 8
deriving DecidableEq, Inhabited

inductive IpAddress
  | v4 (address : Ipv4)
  | v6 (address : Ipv6)
deriving DecidableEq, Inhabited

/-- Where a socket is bound or a peer is reached. -/
inductive SocketAddress
  | v4 (address : Ipv4) (port : UInt16)
  | v6 (address : Ipv6) (port : UInt16) (scope : UInt32)
deriving DecidableEq, Inhabited

namespace Ipv4

/-- The four octets as a list. -/
def octets (a : Ipv4) : List UInt8 := [a.first, a.second, a.third, a.fourth]

/-- The address whose octets are the base 256 digits of a number. -/
def ofNat (n : Nat) : Ipv4 :=
  ⟨.ofNat (n / 0x1000000), .ofNat (n / 0x10000), .ofNat (n / 0x100), .ofNat n⟩

def loopback : Ipv4 := ⟨127, 0, 0, 1⟩

def unspecified : Ipv4 := ⟨0, 0, 0, 0⟩

/-- The high and the low half, as two groups of a version 6 address. -/
def toGroups (a : Ipv4) : List UInt16 :=
  [a.first.toUInt16 * 256 + a.second.toUInt16, a.third.toUInt16 * 256 + a.fourth.toUInt16]

end Ipv4

namespace Ipv6

/-- The address with the given groups, when there are eight. -/
def ofGroups? (l : List UInt16) : Option Ipv6 :=
  if h : l.length = 8 then some ⟨⟨l.toArray, by simpa using h⟩⟩ else none

def toGroups (a : Ipv6) : List UInt16 := a.groups.toList

def unspecified : Ipv6 := ⟨Vector.replicate 8 0⟩

@[simp] theorem length_toGroups (a : Ipv6) : a.toGroups.length = 8 := by
  simp [toGroups]

@[simp] theorem ofGroups?_toGroups (a : Ipv6) : ofGroups? a.toGroups = some a := by
  obtain ⟨⟨gs, h⟩⟩ := a
  simp [ofGroups?, toGroups, h]

end Ipv6

namespace SocketAddress

/-- The socket address of an address without a scope. -/
def ofIp : IpAddress → UInt16 → SocketAddress
  | .v4 a, port => .v4 a port
  | .v6 a, port => .v6 a port 0

def port : SocketAddress → UInt16
  | .v4 _ port => port
  | .v6 _ port _ => port

end SocketAddress

end Reachability
