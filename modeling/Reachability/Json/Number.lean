import Reachability.Decimal.Shortest
import Reachability.Json.Fault
import Reachability.Json.Numeral

/-!
# Numbers in JSON

A number is an integer if it is written as one and fits into 64 bits, with or without a
sign; every other number is a real, and so is the negative zero. Of the digits of a real
as many count as fit into 64 bits, and the result is scaled by a power of ten.
-/
namespace Reachability.Json

namespace Numeral

def charOf (b : UInt8) : Char := Char.ofNat b.toNat

def isDigit (b : UInt8) : Bool := Decimal.isDigit (charOf b)

/-- The digits at the front of a text, and the rest. -/
def takeDigits (bs : List UInt8) : List Char × List UInt8 :=
  ((bs.takeWhile isDigit).map charOf, bs.dropWhile isDigit)

/-- Reads the digits in front of the point, without leading zeros. At the end of the text the
problem is the given one. -/
def readWhole (atEnd : Problem) : Reader (List Char)
  | [] => failAt atEnd []
  | b :: bs =>
    if b == byte '0' then
      match bs with
      | [] => .ok (['0'], [])
      | d :: more => if isDigit d then failBehind .badNumber bs else .ok (['0'], d :: more)
    else if isDigit b then
      let (digits, rest) := takeDigits bs
      .ok (charOf b :: digits, rest)
    else failAt .badNumber bs

/-- Reads a point and the digits behind it, if there is a point. -/
def readFraction (atEnd : Problem) (bs : List UInt8) : Except Fault (List Char × List UInt8) :=
  if bs.head? == some (byte '.') then
    let (digits, rest) := takeDigits bs.tail
    if !digits.isEmpty then .ok (digits, rest)
    else if rest.isEmpty then failAt atEnd []
    else failBehind .badNumber rest
  else .ok ([], bs)

/-- Reads an exponent, if there is one. -/
def readExponent (atEnd : Problem) (bs : List UInt8) :
    Except Fault (Option (Bool × List Char) × List UInt8) :=
  if bs.head? == some (byte 'e') || bs.head? == some (byte 'E') then
    let isNegative := bs.tail.head? == some (byte '-')
    let unsigned := if isNegative || bs.tail.head? == some (byte '+') then bs.tail.tail else bs.tail
    let (digits, rest) := takeDigits unsigned
    if !digits.isEmpty then .ok (some (isNegative, digits), rest)
    else if rest.isEmpty then failAt atEnd []
    else failBehind .badNumber rest
  else .ok (none, bs)

/-- Reads a numeral. -/
def read (atEnd : Problem) : Reader Numeral := fun bs => do
  let isNegative := bs.head? == some (byte '-')
  let (whole, bs) ← readWhole atEnd (if isNegative then bs.tail else bs)
  let (fraction, bs) ← readFraction atEnd bs
  let (exponent, bs) ← readExponent atEnd bs
  return ({ isNegative, whole, fraction, exponent }, bs)

end Numeral

inductive Number
  | natural (value : Nat)
  /-- The number below zero with this magnitude. -/
  | negative (magnitude : Nat)
  | real (value : Float)

namespace Number

/-- The digits of a real that count, and by what power of ten their number is to be scaled. -/
structure Significand where
  value : Nat := 0
  exponent : Int := 0
  /-- Whether a digit had to be left out. -/
  isFull : Bool := false

namespace Significand

/-- Adds a digit, if there is room for it. The power of ten changes by `kept` if the digit
counts and by `dropped` if it does not. -/
def add (kept dropped : Int) (s : Significand) (digit : Char) : Significand :=
  let value := s.value * 10 + (Decimal.digit? digit).getD 0
  if s.isFull || UInt64.size ≤ value then
    { s with exponent := s.exponent + dropped, isFull := true }
  else { s with value, exponent := s.exponent + kept }

def ofDigits (whole fraction : List Char) : Significand :=
  let s := whole.foldl (add 0 1) {}
  fraction.foldl (add (-1) 0) { s with isFull := false }

end Significand

/-- The largest exponent that is scaled by. -/
def exponentLimit : Nat := 0x7FFFFFFF

/-- The number that an exponent spells, or how many of its digits are left where it becomes too
large. -/
def exponentValue (n : Nat) : List Char → Except Nat Nat
  | [] => .ok n
  | d :: ds =>
    let n := 10 * n + (Decimal.digit? d).getD 0
    if exponentLimit < n then .error ds.length else exponentValue n ds

/-- A power of ten of at most 308. -/
def power (n : Nat) : Float := Float.ofScientific 1 false n

/-- A positive number times a power of ten; none if the result is too large. -/
def scale (x : Float) (exponent : Int) : (fuel : Nat) → Option Float
  | 0 => some 0
  | fuel + 1 =>
    if exponent.natAbs ≤ 308 then
      if 0 ≤ exponent then
        let scaled := x * power exponent.natAbs
        if scaled.isInf then none else some scaled
      else some (x / power exponent.natAbs)
    else if x == 0 then some x
    else if 0 ≤ exponent then none
    else scale (x / power 308) (exponent + 308) fuel

def signed (isNegative : Bool) (x : Float) : Number := .real (if isNegative then -x else x)

/-- The number of a significand, scaled by a power of ten. -/
def ofSignificand (isNegative : Bool) (s : Significand) (exponent : Int) (rest : List UInt8) :
    Except Fault Number :=
  match scale (UInt64.ofNat s.value).toFloat (s.exponent + exponent) 4 with
  | some x => .ok (signed isNegative x)
  | none => failAt .hugeNumber rest

/-- The number of a numeral with some text behind it. -/
def ofNumeral (n : Numeral) (rest : List UInt8) : Except Fault Number :=
  let value := Decimal.value n.whole
  if n.isInteger && !n.isNegative && value < UInt64.size then .ok (.natural value)
  else if n.isInteger && n.isNegative && 0 < value && value ≤ UInt64.size / 2 then
    .ok (.negative value)
  else
    let s := Significand.ofDigits n.whole n.fraction
    match n.exponent with
    | none => ofSignificand n.isNegative s 0 rest
    | some (isNegative, digits) =>
      match exponentValue 0 digits with
      | .ok e => ofSignificand n.isNegative s (if isNegative then -e else e) rest
      | .error left =>
        if s.value != 0 && !isNegative then .error ⟨.hugeNumber, left + rest.length⟩
        else .ok (signed n.isNegative 0)

/-- Reads a number. -/
def read : Reader Number := fun bs => do
  let (n, rest) ← Numeral.read .endOfValue bs
  return (← ofNumeral n rest, rest)

/-- Steps over a number. -/
def skip (bs : List UInt8) : Except Fault (List UInt8) := do
  let (_, rest) ← Numeral.read .badNumber bs
  return rest

/-- A real with an exponent if it is at least ten to the sixteenth or less than ten to the minus
fifth. -/
def realText (x : Float) : String :=
  let (isNegative, expansion) := Decimal.shortest x
  let isPositional := x == 0 || (-5 < expansion.point && expansion.point ≤ 16)
  (if isNegative then "-" else "") ++
    .ofList (if isPositional then expansion.positional else expansion.scientific)

/-- What a message calls a number. -/
def description : Number → String
  | .natural n => "integer \x60" ++ Decimal.text n ++ "\x60"
  | .negative n => "integer \x60-" ++ Decimal.text n ++ "\x60"
  | .real x => "floating point \x60" ++ realText x ++ "\x60"

end Number

end Reachability.Json
