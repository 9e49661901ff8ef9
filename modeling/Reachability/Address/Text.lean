import Reachability.Address
import Reachability.Decimal
import Reachability.Hexadecimal

/-!
# Addresses as text

Version 4 is written as four decimal numbers, version 6 as hexadecimal groups in
which the longest run of two or more zero groups, the first of several, shrinks to
`::`. Reading accepts any spelling of a version 6 address, but no leading zeros in
a decimal number. A reader takes an address from the front of a text and returns
the rest; a whole text is an address when nothing is left.
-/
namespace Reachability

namespace AddressText

/-- What a reader returns: the value read and the rest of the text. -/
abbrev Reader (α : Type) := List Char → Option (α × List Char)

/-- Reads one given character. -/
def expect (c : Char) : Reader Unit
  | d :: cs => if d = c then some ((), cs) else none
  | [] => none

/-- The value of a whole text, when the reader leaves nothing. -/
def whole (r : Reader α) (cs : List Char) : Option α :=
  match r cs with
  | some (a, []) => some a
  | _ => none

/-- Reads all decimal digits at the front: a number of at most `limit`. -/
def decimal (limit : Nat) : Reader Nat := fun cs =>
  (Decimal.numberUpTo? limit (cs.takeWhile Decimal.isDigit)).map
    (·, cs.dropWhile Decimal.isDigit)

/-- Reads a decimal number of at most 255 without leading zeros. -/
def octet : Reader UInt8 := fun cs =>
  match decimal 255 cs with
  | none => none
  | some (n, rest) =>
    if (cs.takeWhile Decimal.isDigit).length = 1 ∨ cs.head? ≠ some '0' then
      some (UInt8.ofNat n, rest)
    else none

def ipv4 : Reader Ipv4 := fun cs => do
  let (a, cs) ← octet cs
  let ((), cs) ← expect '.' cs
  let (b, cs) ← octet cs
  let ((), cs) ← expect '.' cs
  let (c, cs) ← octet cs
  let ((), cs) ← expect '.' cs
  let (d, cs) ← octet cs
  return (⟨a, b, c, d⟩, cs)

/-- Reads one to four hexadecimal digits, when no fifth one follows. -/
def group : Reader UInt16 := fun cs =>
  let digits := cs.takeWhile Hexadecimal.isDigit
  if 1 ≤ digits.length ∧ digits.length ≤ 4 then
    some (UInt16.ofNat (Hexadecimal.value digits), cs.dropWhile Hexadecimal.isDigit)
  else none

/-- A separator before every item but the first. -/
def separated (isFirst : Bool) (r : Reader α) : Reader α := fun cs =>
  if isFirst then r cs else (expect ':' cs).bind fun (_, cs) => r cs

/-- Reads up to `limit` groups with colons between them, the last two of which may be
written as a version 4 address. The flag tells whether they were. -/
def groups (isFirst : Bool) : (limit : Nat) → List Char → List UInt16 × Bool × List Char
  | 0, cs => ([], false, cs)
  | limit + 1, cs =>
    match (if 1 ≤ limit then separated isFirst ipv4 cs else none) with
    | some (a, rest) => (a.toGroups, true, rest)
    | none =>
      match separated isFirst group cs with
      | none => ([], false, cs)
      | some (g, rest) =>
        let (gs, hasTail, rest) := groups false limit rest
        (g :: gs, hasTail, rest)

/-- Reads eight groups, or fewer with one `::` that stands for the missing zeros. -/
def ipv6 : Reader Ipv6 := fun cs => do
  let (head, hasTail, rest) := groups true 8 cs
  if head.length = 8 then
    return (← Ipv6.ofGroups? head, rest)
  else if hasTail then
    none
  else
    let ((), rest) ← expect ':' rest
    let ((), rest) ← expect ':' rest
    let (tail, _, rest) := groups true (7 - head.length) rest
    let missing := List.replicate (8 - head.length - tail.length) 0
    return (← Ipv6.ofGroups? (head ++ missing ++ tail), rest)

def ip : Reader IpAddress := fun cs =>
  match ipv4 cs with
  | some (a, rest) => some (.v4 a, rest)
  | none => (ipv6 cs).map fun (a, rest) => (.v6 a, rest)

/-- Reads a colon and a port. -/
def port : Reader UInt16 := fun cs => do
  let ((), cs) ← expect ':' cs
  let (n, cs) ← decimal 65535 cs
  return (UInt16.ofNat n, cs)

/-- Reads the scope of an address, which is 0 where none is written. -/
def scope : Reader UInt32 := fun cs =>
  match cs with
  | '%' :: rest => (decimal 4294967295 rest).map fun (n, rest) => (UInt32.ofNat n, rest)
  | _ => some (0, cs)

def socketV4 : Reader SocketAddress := fun cs => do
  let (a, cs) ← ipv4 cs
  let (p, cs) ← port cs
  return (.v4 a p, cs)

def socketV6 : Reader SocketAddress := fun cs => do
  let ((), cs) ← expect '[' cs
  let (a, cs) ← ipv6 cs
  let (s, cs) ← scope cs
  let ((), cs) ← expect ']' cs
  let (p, cs) ← port cs
  return (.v6 a p s, cs)

def socket : Reader SocketAddress := fun cs =>
  (socketV4 cs).orElse fun _ => socketV6 cs

end AddressText

namespace Ipv4

def toText (a : Ipv4) : String :=
  String.intercalate "." (a.octets.map fun o => Decimal.text o.toNat)

end Ipv4

namespace Ipv6

/-- The length of the run of zero groups at the front. -/
def zeroRun (gs : List UInt16) : Nat := (gs.takeWhile (· == 0)).length

/-- Start and length of the longest run of zero groups, the first of several. -/
def longestZeroRun : List UInt16 → Nat × Nat
  | [] => (0, 0)
  | g :: gs =>
    let (start, length) := longestZeroRun gs
    let here := zeroRun (g :: gs)
    if length ≤ here then (0, here) else (start + 1, length)

/-- Groups in hexadecimal with colons between them. -/
def groupsText (gs : List UInt16) : String :=
  String.intercalate ":" (gs.map fun g => Hexadecimal.text g.toNat)

/-- The version 4 address that the last two groups of a mapped address hold. -/
def mapped? (a : Ipv6) : Option Ipv4 :=
  match a.toGroups with
  | [0, 0, 0, 0, 0, 0xFFFF, high, low] =>
    some (.ofNat (high.toNat * 65536 + low.toNat))
  | _ => none

def toText (a : Ipv6) : String :=
  match a.mapped? with
  | some v4 => "::ffff:" ++ v4.toText
  | none =>
    let gs := a.toGroups
    let (start, length) := longestZeroRun gs
    if 2 ≤ length then
      groupsText (gs.take start) ++ "::" ++ groupsText (gs.drop (start + length))
    else groupsText gs

end Ipv6

namespace IpAddress

def toText : IpAddress → String
  | .v4 a => a.toText
  | .v6 a => a.toText

/-- Reads a text that is an address of either family and nothing else. -/
def ofText? (s : String) : Option IpAddress :=
  AddressText.whole AddressText.ip s.toList

end IpAddress

namespace SocketAddress

def toText : SocketAddress → String
  | .v4 a port => a.toText ++ ":" ++ Decimal.text port.toNat
  | .v6 a port scope =>
    let zone := if scope = 0 then "" else "%" ++ Decimal.text scope.toNat
    "[" ++ a.toText ++ zone ++ "]:" ++ Decimal.text port.toNat

/-- Reads a text that is a socket address and nothing else. -/
def ofText? (s : String) : Option SocketAddress :=
  AddressText.whole AddressText.socket s.toList

end SocketAddress

end Reachability
