import Reachability.Address.Text
import Reachability.Domain
import Reachability.Url.Error
import Reachability.Url.Percent

/-!
# Hosts of URLs

In the schemes of the web a host is a version 6 address in brackets, a domain name in
any script, or a version 4 address in one of its many spellings: up to four numbers in
decimal, octal or hexadecimal, of which the last fills all the bytes that remain. A
name whose last label is a number must be such an address. In other schemes a host is
an address in brackets or a text that is taken as it is.
-/
namespace Reachability

inductive Host
  | domain (name : String)
  | ip (address : IpAddress)
deriving DecidableEq, Inhabited

namespace Host

/-- The host without brackets. -/
def toText : Host → String
  | .domain name => name
  | .ip address => address.toText

/-- The digits and the base of a number as parts of a version 4 address spell it. -/
def numberDigits (cs : List Char) : List Char × Nat :=
  match cs with
  | '0' :: 'x' :: rest | '0' :: 'X' :: rest => (rest, 16)
  | '0' :: c :: rest => (c :: rest, 8)
  | _ => (cs, 10)

/-- The number that a part of a version 4 address spells. -/
def number? (cs : List Char) : Option Nat :=
  if cs = [] then none
  else
    let (digits, base) := numberDigits cs
    if digits.all fun c => (Hexadecimal.digit? c).any (· < base) then
      some (digits.foldl (fun n c => base * n + (Hexadecimal.digit? c).getD 0) 0)
    else none

/-- The labels of a name, less an empty one at its end. -/
def labels (name : List Char) : List (List Char) :=
  let pieces := Text.splitAtEach '.' name
  if pieces.getLast? = some [] then pieces.dropLast else pieces

/-- Whether the last label is a number, so that the name must be an address. -/
def endsInNumber (name : List Char) : Bool :=
  match (labels name).getLast? with
  | none => false
  | some last => (last ≠ [] && last.all Decimal.isDigit) || (number? last).isSome

/-- The number that up to four parts make up: all but the last are single bytes, the most
significant first. -/
def joinedNumbers? : (space : Nat) → List Nat → Option Nat
  | _, [] => none
  | space, [n] => if n < space then some n else none
  | space, n :: rest =>
    if n < 256 then (joinedNumbers? (space / 256) rest).map (n * (space / 256) + ·) else none

/-- The version 4 address that a name spells. -/
def ipv4? (name : List Char) : Option Ipv4 := do
  let parts := labels name
  if 4 < parts.length then none
  else
    let numbers ← parts.mapM number?
    let n ← joinedNumbers? UInt32.size numbers
    return .ofNat n

/-- The version 6 address between brackets. -/
def ofBracketed (cs : List Char) : Except UrlError Host :=
  match cs.getLast? with
  | some ']' =>
    match AddressText.whole AddressText.ipv6 cs.dropLast with
    | some a => .ok (.ip (.v6 a))
    | none => .error .invalidIpv6
  | _ => .error .invalidIpv6

/-- The host that a domain name in ASCII stands for. -/
def ofAsciiName (name : List Char) : Except UrlError Host :=
  if name = [] then .error .emptyHost
  else if endsInNumber name then
    match ipv4? name with
    | some a => .ok (.ip (.v4 a))
    | none => .error .invalidIpv4
  else .ok (.domain (.ofList name))

/-- The host of a URL of the web. -/
def ofWebText (cs : List Char) : Except UrlError Host :=
  match cs with
  | '[' :: rest => ofBracketed rest
  | _ =>
    match (Url.percentDecoded? cs).bind Domain.toAscii? with
    | none => .error .invalidInternationalName
    | some name => ofAsciiName name

/-- The characters that no host of another scheme may hold. -/
def isForbiddenInOpaque (c : Char) : Bool :=
  c == '\x00' || c == '\t' || c == '\n' || c == '\r' || c == ' ' || c == '#' || c == '/' ||
    c == ':' || c == '<' || c == '>' || c == '?' || c == '@' || c == '[' || c == '\\' ||
    c == ']' || c == '^' || c == '|'

/-- The host of a URL of another scheme. -/
def ofOpaqueText (cs : List Char) : Except UrlError Host :=
  match cs with
  | '[' :: rest => ofBracketed rest
  | _ =>
    if cs.any isForbiddenInOpaque then .error .invalidDomainCharacter
    else .ok (.domain (.ofList (Url.controlsEncoded cs)))

end Host

end Reachability
