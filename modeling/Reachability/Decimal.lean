/-!
# Decimal numbers

Ports, timeouts and address parts are written in decimal. `number?` reads a
whole text of digits; the readers below take the digits at the front of a text
and say what they spell.
-/
namespace Reachability.Decimal

/-- The value of a decimal digit. -/
def digit? (c : Char) : Option Nat :=
  if '0' ≤ c ∧ c ≤ '9' then some (c.toNat - '0'.toNat) else none

def isDigit (c : Char) : Bool := (digit? c).isSome

/-- The number that a list of digits spells, the most significant first. -/
def value (cs : List Char) : Nat :=
  cs.foldl (fun n c => 10 * n + (digit? c).getD 0) 0

/-- Reads a text that consists of at least one decimal digit and nothing else. -/
def number? (cs : List Char) : Option Nat :=
  if cs ≠ [] ∧ cs.all isDigit then some (value cs) else none

/-- Reads a number of at most `limit`. -/
def numberUpTo? (limit : Nat) (cs : List Char) : Option Nat :=
  (number? cs).filter (· ≤ limit)

/-- Reads a number of at most `limit` that may carry a plus sign. -/
def signedNumberUpTo? (limit : Nat) : List Char → Option Nat
  | '+' :: cs => numberUpTo? limit cs
  | cs => numberUpTo? limit cs

/-- The decimal digits of a number, without leading zeros. -/
def digits (n : Nat) : List Char := Nat.toDigits 10 n

/-- The number in decimal, without leading zeros. -/
def text (n : Nat) : String := String.ofList (digits n)

end Reachability.Decimal
