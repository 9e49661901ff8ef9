/-!
# Hexadecimal numbers

Digits of either case are read; numbers are written in lower case without leading
zeros.
-/
namespace Reachability.Hexadecimal

/-- The value of a hexadecimal digit. -/
def digit? (c : Char) : Option Nat :=
  if '0' ≤ c ∧ c ≤ '9' then some (c.toNat - '0'.toNat)
  else if 'a' ≤ c ∧ c ≤ 'f' then some (c.toNat - 'a'.toNat + 10)
  else if 'A' ≤ c ∧ c ≤ 'F' then some (c.toNat - 'A'.toNat + 10)
  else none

def isDigit (c : Char) : Bool := (digit? c).isSome

/-- The number that a list of digits spells, the most significant first. -/
def value (cs : List Char) : Nat :=
  cs.foldl (fun n c => 16 * n + (digit? c).getD 0) 0

/-- The number in hexadecimal. -/
def text (n : Nat) : String := String.ofList (Nat.toDigits 16 n)

end Reachability.Hexadecimal
