import Reachability.Decimal.Shortest
import Reachability.Hexadecimal
import Reachability.Text.Quoted
import Reachability.Yaml.Error
import Reachability.Yaml.Scalar

/-!
# What scalars mean

A plain scalar without a tag may be nothing, a truth value, an integer in one of four
bases or a floating point number; whatever is none of these is a text, and so is every
scalar in quotes or in a block. A tag can ask for one of these kinds.
-/
namespace Reachability.Yaml

/-- A value that a scalar stands for. -/
inductive Meaning
  | nothing
  | boolean (value : Bool)
  | integer (value : Int)
  | float (value : Float)
  | text (value : String)
  /-- A text that is not what its tag says. -/
  | mistagged (value expected : String)

namespace Resolution

/-- The value of a digit in a base of at most sixteen. -/
def digit? (base : Nat) (c : Char) : Option Nat :=
  (Hexadecimal.digit? c).filter (· < base)

/-- Reads a text of digits and nothing else. -/
def digits? (base : Nat) (cs : List Char) : Option Nat :=
  match cs.mapM (digit? base) with
  | none | some [] => none
  | some ds => some (ds.foldl (fun n d => n * base + d) 0)

/-- Whether a text is a number but for a zero in front, which makes it a text. -/
def hasLeadingZero (cs : List Char) : Bool :=
  let cs := match cs with
    | '-' :: cs | '+' :: cs => cs
    | _ => cs
  1 < cs.length && cs.head? == some '0' && cs.all Decimal.isDigit

/-- The base that a text begins with, and the rest. -/
def basePrefix? : List Char → Option (Nat × List Char)
  | '0' :: 'x' :: cs => some (16, cs)
  | '0' :: 'o' :: cs => some (8, cs)
  | '0' :: 'b' :: cs => some (2, cs)
  | _ => none

/-- Reads an integer that may carry a plus sign. -/
def natural? (cs : List Char) : Option Nat :=
  let unsigned := match cs with
    | '+' :: cs => cs
    | _ => cs
  match basePrefix? unsigned with
  | some (base, cs) => digits? base cs
  | none => if hasLeadingZero unsigned then none else digits? 10 unsigned

/-- Reads an integer with a minus sign. -/
def negative? : List Char → Option Int
  | '-' :: cs =>
    let magnitude := match basePrefix? cs with
      | some (base, cs) => digits? base cs
      | none => if hasLeadingZero cs then none else digits? 10 cs
    magnitude.map fun n => -(n : Int)
  | _ => none

/-- How many integers 128 bits hold. -/
def wideSize : Nat := UInt64.size * UInt64.size

/-- Reads an integer of at most 128 bits. -/
def integer? (cs : List Char) : Option Int :=
  match natural? cs with
  | some n => if n < wideSize then some n else none
  | none => (negative? cs).filter fun n => n.natAbs ≤ wideSize / 2

/-- The exponent behind a significand: a letter and digits that may carry a sign. -/
def exponent? : List Char → Option Int
  | [] => some 0
  | e :: cs =>
    if e == 'e' || e == 'E' then
      match cs with
      | '-' :: cs => (digits? 10 cs).map fun n => -(n : Int)
      | '+' :: cs => (digits? 10 cs).map Int.ofNat
      | cs => (digits? 10 cs).map Int.ofNat
    else none

/-- The number `n * 10 ^ exponent`, rounded; none if it is too large. -/
def rounded? (n : Nat) (exponent : Int) : Option Float :=
  let size := (Decimal.digits n).length + exponent
  if n = 0 || size < -400 then some 0
  else if 400 < size then none
  else
    let x := Float.ofScientific n (exponent < 0) exponent.natAbs
    if x.isFinite then some x else none

/-- Reads a decimal fraction without a sign. -/
def fraction? (cs : List Char) : Option Float := do
  let whole := cs.takeWhile Decimal.isDigit
  let rest := cs.dropWhile Decimal.isDigit
  let (places, rest) := match rest with
    | '.' :: rest => (rest.takeWhile Decimal.isDigit, rest.dropWhile Decimal.isDigit)
    | _ => ([], rest)
  if whole.isEmpty && places.isEmpty then none
  let exponent ← exponent? rest
  rounded? (Decimal.value (whole ++ places)) (exponent - places.length)

/-- Reads a floating point number. -/
def float? (cs : List Char) : Option Float :=
  let infinities := [".inf", ".Inf", ".INF"].map String.toList
  match cs with
  | '+' :: cs => if infinities.contains cs then some (1 / 0) else fraction? cs
  | '-' :: cs => if infinities.contains cs then some (-(1 / 0)) else (fraction? cs).map (- ·)
  | _ =>
    if infinities.contains cs then some (1 / 0)
    else if [".nan", ".NaN", ".NAN"].map String.toList |>.contains cs then some (0 / 0)
    else fraction? cs

def isNothing (s : String) : Bool := ["null", "Null", "NULL", "~"].contains s

def boolean? (s : String) : Option Bool :=
  if ["true", "True", "TRUE"].contains s then some true
  else if ["false", "False", "FALSE"].contains s then some false
  else none

/-- What a plain scalar without a tag means. -/
def plain (s : String) : Meaning :=
  if s.isEmpty || isNothing s then .nothing
  else
    match boolean? s, integer? s.toList with
    | some b, _ => .boolean b
    | none, some n => .integer n
    | none, none =>
      if hasLeadingZero s.toList then .text s
      else
        match float? s.toList with
        | some x => .float x
        | none => .text s

/-- The tag of a kind of scalar. -/
def coreTag (name : String) : String := "tag:yaml.org,2002:" ++ name

end Resolution

open Resolution in
/-- What a scalar means. A tag with an exclamation mark in front says nothing of a plain
scalar, and every other unknown tag makes it a text. -/
def Scalar.meaning (s : Scalar) : Meaning :=
  let expect (found : Option Meaning) (expected : String) : Meaning :=
    found.getD (.mistagged s.text expected)
  match s.tag with
  | none => if s.style == .plain then plain s.text else .text s.text
  | some tag =>
    if tag == coreTag "bool" then expect ((boolean? s.text).map .boolean) "a boolean"
    else if tag == coreTag "int" then expect ((integer? s.text.toList).map .integer) "an integer"
    else if tag == coreTag "float" then expect ((float? s.text.toList).map .float) "a float"
    else if tag == coreTag "null" then
      expect (if isNothing s.text then some .nothing else none) "null"
    else if tag.startsWith "!" && s.style == .plain then plain s.text
    else .text s.text

namespace Meaning

/-- A floating point number without an exponent. -/
def floatText (x : Float) : String :=
  if x.isNaN then "NaN"
  else if !x.isFinite then if 0 < x then "inf" else "-inf"
  else
    let (isNegative, expansion) := Decimal.shortest x
    (if isNegative then "-" else "") ++ .ofList expansion.positional

/-- An integer, and how wide it is if 64 bits do not hold it. -/
def integerText (n : Int) : String :=
  "integer \x60" ++ (if n < 0 then "-" else "") ++ Decimal.text n.natAbs ++ "\x60" ++
    if n < -0x8000000000000000 then " as i128"
    else if (UInt64.size : Int) ≤ n then " as u128"
    else ""

/-- How such a value differs from one of the kind that was expected. -/
def mismatch (expected : String) : Meaning → Mismatch
  | .nothing => .type "unit value" expected
  | .boolean b => .type ("boolean \x60" ++ (if b then "true" else "false") ++ "\x60") expected
  | .integer n => .type (integerText n) expected
  | .float x => .type ("floating point \x60" ++ floatText x ++ "\x60") expected
  | .text s => .type ("string " ++ Text.quoted s) expected
  | .mistagged s tagged => .value ("string " ++ Text.quoted s) tagged

end Meaning

end Reachability.Yaml
