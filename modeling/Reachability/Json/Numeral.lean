import Reachability.Decimal

/-!
# Numbers as they are written

JSON writes a number as decimal digits with an optional sign, fraction and exponent, and
sets no bounds to it. A numeral keeps these parts as they stand.
-/
namespace Reachability.Json

structure Numeral where
  isNegative : Bool := false
  /-- The digits before the point, without leading zeros. -/
  whole : List Char
  /-- The digits behind the point; none if there is no point. -/
  fraction : List Char := []
  /-- Whether the exponent is negative, and its digits. -/
  exponent : Option (Bool × List Char) := none
deriving DecidableEq, Inhabited

namespace Numeral

/-- The numeral of a natural number. -/
def ofNat (n : Nat) : Numeral := { whole := Decimal.digits n }

/-- Whether a numeral is an integer by its form. -/
def isInteger (n : Numeral) : Bool := n.fraction.isEmpty && n.exponent.isNone

/-- The numeral with a small `e` and a sign only where it is negative. -/
def toChars (n : Numeral) : List Char :=
  let sign (isNegative : Bool) : List Char := if isNegative then ['-'] else []
  let fraction := if n.fraction.isEmpty then [] else '.' :: n.fraction
  let exponent := match n.exponent with
    | none => []
    | some (isNegative, digits) => 'e' :: (sign isNegative ++ digits)
  sign n.isNegative ++ n.whole ++ fraction ++ exponent

end Numeral

end Reachability.Json
