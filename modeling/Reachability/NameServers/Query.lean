import Reachability.NameServers
import Reachability.Text.Split
import Reachability.Text.Utf8

/-!
# Questions to a name server

A query asks for the addresses of one name in one family. The reply repeats the question
and lists records, among them those with the addresses. Over TCP a message comes behind
its length.
-/
namespace Reachability.NameServer

/-- A family of addresses. -/
inductive Family
  | v4
  | v6
deriving DecidableEq, Inhabited

namespace Family

/-- The type of the records that hold addresses of the family. -/
def recordType : Family → Nat
  | .v4 => 1
  | .v6 => 28

/-- The address that the data of a record consists of. -/
def address? : Family → List UInt8 → Option IpAddress
  | .v4, [a, b, c, d] => some (.v4 ⟨a, b, c, d⟩)
  | .v4, _ => none
  | .v6, bytes => (Ipv6.ofGroups? (pairs bytes)).map .v6
where
  pairs : List UInt8 → List UInt16
    | high :: low :: rest => (high.toUInt16 * 256 + low.toUInt16) :: pairs rest
    | _ => []

end Family

namespace Query

/-- A number below 65536 in two bytes. -/
def word (n : Nat) : List UInt8 := [UInt8.ofNat (n / 256), UInt8.ofNat n]

/-- The number in two bytes. -/
def ofWord (high low : UInt8) : Nat := high.toNat * 256 + low.toNat

/-- A name as its labels, each behind its length, and an empty one. A label has at most 63
bytes and only the last may be empty. -/
def name? (host : String) : Option (List UInt8) := do
  let labels := Text.splitAtEach '.' host.toList
  let labels := if labels.getLast? == some [] then labels.dropLast else labels
  let encoded ← labels.mapM fun label => do
    let bytes := Text.Utf8.encode label
    guard (!bytes.isEmpty && bytes.length ≤ 63)
    return UInt8.ofNat bytes.length :: bytes
  return encoded.flatten ++ [0]

/-- The message that asks one question and wants it resolved in full. -/
def message? (host : String) (family : Family) : Option (List UInt8) := do
  let name ← name? host
  return word 1 ++ [0x01, 0] ++ word 1 ++ word 0 ++ word 0 ++ word 0 ++
    name ++ word family.recordType ++ word 1

/-- A message behind its length. -/
def framed (message : List UInt8) : List UInt8 := word message.length ++ message

/-- The bytes behind a name, which ends with an empty label or with a reference. -/
def afterName? : List UInt8 → Option (List UInt8)
  | [] => none
  | length :: rest =>
    if length == 0 then some rest
    else if 192 ≤ length then some (rest.drop 1)
    else afterName? (rest.drop length.toNat)
termination_by bytes => bytes.length
decreasing_by rw [List.length_drop, List.length_cons]; omega

/-- The addresses in the next records. -/
def addresses (family : Family) : (records : Nat) → List UInt8 → List IpAddress
  | 0, _ => []
  | records + 1, bytes =>
    match afterName? bytes with
    | some (t₁ :: t₂ :: _ :: _ :: _ :: _ :: _ :: _ :: l₁ :: l₂ :: rest) =>
      let length := ofWord l₁ l₂
      let found := if ofWord t₁ t₂ = family.recordType then
        (family.address? (rest.take length)).toList else []
      found ++ addresses family records (rest.drop length)
    | _ => []

/-- The addresses that a reply to one question gives. -/
def answers (family : Family) : List UInt8 → List IpAddress
  | _ :: _ :: _ :: _ :: _ :: _ :: a₁ :: a₂ :: _ :: _ :: _ :: _ :: rest =>
    match afterName? rest with
    | some rest => addresses family (ofWord a₁ a₂) (rest.drop 4)
    | none => []
  | _ => []

end Query

end Reachability.NameServer
