import Reachability.Decimal

/-!
# Shortest decimals

A binary floating point number stands for all the reals that round to it. Of the
decimals among these the shortest is written, and of several the one nearest to the
number. `shortest` finds its digits by trying one grid of decimals after another, in
exact arithmetic; `positional` and `scientific` lay digits out.
-/
namespace Reachability.Decimal

/-- The digits `d₁ d₂ …` of a positive number `0.d₁d₂… * 10 ^ point`. -/
structure Expansion where
  digits : List Char
  point : Int
deriving DecidableEq, Inhabited

/-- A positive real and the bounds of the reals that round to it, over one denominator. -/
structure Interval where
  low : Nat
  value : Nat
  high : Nat
  denominator : Nat
  /-- Whether the bounds themselves round to it. -/
  isClosed : Bool

namespace Interval

/-- The interval of `significand * 2 ^ exponent`. Below a power of two the neighbour is half
as far away as above it. -/
def ofBinary (significand : Nat) (exponent : Int) (isPower : Bool) : Interval :=
  let numerator := Nat.pow 2 (exponent - 2).toNat
  { low := (4 * significand - (if isPower then 1 else 2)) * numerator
    value := 4 * significand * numerator
    high := (4 * significand + 2) * numerator
    denominator := Nat.pow 2 (2 - exponent).toNat
    isClosed := significand % 2 == 0 }

/-- Whether a number over the same denominator lies in the interval. -/
def contains (r : Interval) (n : Nat) : Bool :=
  if r.isClosed then r.low ≤ n && n ≤ r.high else r.low < n && n < r.high

/-- The interval in units of `10 ^ exponent`. -/
def rescale (r : Interval) (exponent : Int) : Interval :=
  let up := Nat.pow 10 (-exponent).toNat
  { r with
    low := r.low * up
    value := r.value * up
    high := r.high * up
    denominator := r.denominator * Nat.pow 10 exponent.toNat }

/-- The integer in the interval that is nearest to its value; of two as near, the even one. -/
def nearestInteger? (r : Interval) : Option Nat :=
  let below := r.value / r.denominator
  let above := below + 1
  let hasBelow := 0 < below && r.contains (below * r.denominator)
  let hasAbove := r.contains (above * r.denominator)
  let twiceRest := 2 * (r.value % r.denominator)
  if hasBelow && hasAbove then
    if twiceRest < r.denominator || (twiceRest == r.denominator && below % 2 == 0) then
      some below
    else some above
  else if hasBelow then some below
  else if hasAbove then some above
  else none

/-- How many digits stand before the point; not positive below one tenth. -/
def point (r : Interval) : Int :=
  if r.denominator ≤ r.value then (digits (r.value / r.denominator)).length
  else
    match (List.range 400).find? fun n => r.denominator ≤ r.value * Nat.pow 10 (n + 1) with
    | some zeros => -zeros
    | none => -400

/-- The shortest decimal in the interval, at most seventeen digits long. -/
def shortest (r : Interval) : Expansion :=
  let found := (List.range 17).findSome? fun n =>
    let exponent := r.point - Int.ofNat (n + 1)
    (r.rescale exponent).nearestInteger?.map (·, exponent)
  let (n, exponent) := found.getD (0, 0)
  let all := digits n
  let kept := (all.reverse.dropWhile (· == '0')).reverse
  ⟨kept, all.length + exponent⟩

end Interval

/-- The value of the leading bit of a significand, which has 53 of them. -/
def leadingBit : Nat := 0x10000000000000

/-- Sign, significand and exponent of a finite number, from its 64 bits. -/
def binaryParts (bits : UInt64) : Bool × Nat × Int :=
  let n := bits.toNat
  let isNegative := UInt64.size / 2 ≤ n
  let fraction := n % leadingBit
  let exponent := n / leadingBit % 2048
  if exponent = 0 then (isNegative, fraction, -1074)
  else (isNegative, leadingBit + fraction, Int.ofNat exponent - 1075)

/-- The sign of a finite number and the shortest digits that read back as it. -/
def shortest (x : Float) : Bool × Expansion :=
  let (isNegative, significand, exponent) := binaryParts x.toBits
  if significand = 0 then (isNegative, ⟨['0'], 1⟩)
  else
    let isPower := significand == leadingBit && exponent != -1074
    (isNegative, (Interval.ofBinary significand exponent isPower).shortest)

namespace Expansion

/-- The number without an exponent and with at least one decimal place. -/
def positional (e : Expansion) : List Char :=
  let zeros (n : Int) : List Char := List.replicate n.toNat '0'
  if e.point ≤ 0 then '0' :: '.' :: (zeros (-e.point) ++ e.digits)
  else if e.digits.length ≤ e.point then
    e.digits ++ zeros (e.point - e.digits.length) ++ ['.', '0']
  else e.digits.take e.point.toNat ++ '.' :: e.digits.drop e.point.toNat

/-- The number with one digit before the point and a signed exponent of at least two digits. -/
def scientific (e : Expansion) : List Char :=
  let exponent := e.point - 1
  let exponentDigits := Decimal.digits exponent.natAbs
  let fraction := if e.digits.length ≤ 1 then [] else '.' :: e.digits.drop 1
  e.digits.take 1 ++ fraction ++
    ['e', if exponent < 0 then '-' else '+'] ++
    List.replicate (2 - exponentDigits.length) '0' ++ exponentDigits

end Expansion

end Reachability.Decimal
