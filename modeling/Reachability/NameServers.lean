import Reachability.Address.Text
import Reachability.Text.Quoted

/-!
# Name servers

The servers that look up names: those of the system, or a list of addresses, each
asked over TCP at port 53.
-/
namespace Reachability

/-- A text in a list of name servers that is no address. -/
structure InvalidNameServer where
  host : String
deriving DecidableEq, Inhabited

namespace InvalidNameServer

def message (e : InvalidNameServer) : String :=
  "invalid DNS host " ++ Text.quoted e.host

def causes (_ : InvalidNameServer) : List String := ["invalid IP address syntax"]

end InvalidNameServer

/-- The transport of questions to a name server. -/
inductive Transport
  | tcp
  | udp
deriving DecidableEq, Inhabited

structure NameServer where
  address : IpAddress
  port : UInt16 := 53
  transport : Transport := .tcp
deriving DecidableEq, Inhabited

namespace NameServer

/-- The servers at the given addresses, in order; the first text that is no address is
refused. -/
def ofHosts : List String → Except InvalidNameServer (List NameServer)
  | [] => .ok []
  | host :: hosts =>
    match IpAddress.ofText? host with
    | none => .error ⟨host⟩
    | some address => (ofHosts hosts).map ({ address } :: ·)

end NameServer

/-- Who answers lookups. -/
inductive Resolver
  | system
  | servers (list : List NameServer)
deriving DecidableEq, Inhabited

namespace Resolver

/-- The resolver for the configured hosts: that of the system when there are none. -/
def ofHosts (hosts : List String) : Except InvalidNameServer Resolver :=
  if hosts.isEmpty then .ok .system else (NameServer.ofHosts hosts).map .servers

end Resolver

end Reachability
