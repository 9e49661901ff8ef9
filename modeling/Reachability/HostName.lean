import Reachability.Address.Text
import Reachability.Network
import Reachability.Outcome
import Reachability.Text.Ascii

/-!
# Host names

A host is an address in text, a name in the reserved domain `invalid`, which never
has an address, or a name to look up. An address of either family may stand in
brackets. Only a name to look up reaches the network.
-/
namespace Reachability.HostName

/-- The host without one pair of enclosing brackets, if it has both. -/
def unbracketed (host : String) : String :=
  match host.toList with
  | '[' :: cs => if cs.getLast? = some ']' then .ofList cs.dropLast else host
  | _ => host

/-- A name without the dots at its end, in lower case, in reverse. -/
def reversedName (cs : List Char) : List Char :=
  (cs.reverse.dropWhile (· == '.')).map Text.lowerAscii

/-- Whether the last label of a name is `invalid` in any case, dots at the end aside. -/
def isReserved (name : String) : Bool :=
  let reversed := reversedName name.toList
  reversed = "dilavni".toList || "dilavni.".toList.isPrefixOf reversed

/-- What a host stands for. -/
inductive Kind
  | address (ip : IpAddress)
  | reserved
  | name
deriving DecidableEq, Inhabited

/-- The kind of a host without its brackets. -/
def kind (name : String) : Kind :=
  match IpAddress.ofText? name with
  | some ip => .address ip
  | none => if isReserved name then .reserved else .name

def reservedReason : String := "name is in the reserved .invalid domain"

/-- The first address of a lookup, or why there is none. -/
def firstAddress (name : String) : Except String (List IpAddress) → Except Failure IpAddress
  | .error reason => .error (.unresolved name reason)
  | .ok [] => .error (.unresolved name "no addresses returned")
  | .ok (ip :: _) => .ok ip

/-- Finds the address of a host. -/
def resolve (host : String) : Program (Except Failure IpAddress) :=
  let name := unbracketed host
  match kind name with
  | .address ip => .done (.ok ip)
  | .reserved => .done (.error (.unresolved name reservedReason))
  | .name => .ask (.lookup name) fun reply => .done (firstAddress name reply)

end Reachability.HostName
