import Reachability.Json.Text
import Reachability.Json.Numeral
import Reachability.Json

/-!
# The grammar of JSON

One value has many texts: white space may stand around every token, a character of a
string may be escaped in several ways, and an exponent has several spellings. `Written`
relates a value to its texts, and `Document` to those with white space around them.
Every written string is valid Unicode.
-/
namespace Reachability.Json

/-- Holds of white space. -/
def IsBlank (bs : List UInt8) : Prop := ∀ b ∈ bs, isBlank b = true

/-- The bytes of ASCII characters. -/
def bytes (cs : List Char) : List UInt8 := cs.map byte

namespace Numeral

/-- Whether the parts are those of a number: there are digits in front of the point, none of
them a leading zero, and digits only. -/
def IsProper (n : Numeral) : Prop :=
  n.whole ≠ [] ∧ (n.whole.head? = some '0' → n.whole = ['0']) ∧
    n.whole.all Decimal.isDigit ∧ n.fraction.all Decimal.isDigit ∧
    ∀ e ∈ n.exponent, e.2 ≠ [] ∧ e.2.all Decimal.isDigit

/-- The spellings of an exponent. -/
inductive WrittenExponent : Option (Bool × List Char) → List Char → Prop
  | none : WrittenExponent none []
  | unsigned {e : Char} (h : e = 'e' ∨ e = 'E') (digits : List Char) :
      WrittenExponent (some (false, digits)) (e :: digits)
  | positive {e : Char} (h : e = 'e' ∨ e = 'E') (digits : List Char) :
      WrittenExponent (some (false, digits)) (e :: '+' :: digits)
  | negative {e : Char} (h : e = 'e' ∨ e = 'E') (digits : List Char) :
      WrittenExponent (some (true, digits)) (e :: '-' :: digits)

/-- The spellings of a numeral. -/
inductive Written : Numeral → List Char → Prop
  | mk (n : Numeral) (proper : n.IsProper) {exponent : List Char}
      (h : WrittenExponent n.exponent exponent) :
      Written n ((if n.isNegative then ['-'] else []) ++ n.whole ++
        (if n.fraction = [] then [] else '.' :: n.fraction) ++ exponent)

end Numeral

/-- Holds of four hexadecimal digits that spell a number. -/
def IsCode (n : Nat) (digits : List Char) : Prop :=
  digits.length = 4 ∧ digits.all Hexadecimal.isDigit ∧ Hexadecimal.value digits = n

/-- The ways to write one character of a string. -/
inductive WrittenChar : Char → List UInt8 → Prop
  | plain {c : Char} (quote : c ≠ '"') (backslash : c ≠ '\\') (control : 0x20 ≤ c.toNat) :
      WrittenChar c (Text.Utf8.encodeChar c)
  | short {b : UInt8} {c : Char} (h : (b, c) ∈ shortEscapes) :
      WrittenChar c [byte '\\', b]
  | code {c : Char} {digits : List Char} (h : IsCode c.toNat digits) :
      WrittenChar c (bytes ('\\' :: 'u' :: digits))
  | codes {high low : Nat} {first second : List Char}
      (isHigh : isHighSurrogate high) (isLow : isLowSurrogate low)
      (hfirst : IsCode high first) (hsecond : IsCode low second) :
      WrittenChar (pair high low) (bytes ('\\' :: 'u' :: (first ++ '\\' :: 'u' :: second)))

/-- The ways to write the characters of a string. -/
inductive WrittenChars : List Char → List UInt8 → Prop
  | nil : WrittenChars [] []
  | cons {c : Char} {cs : List Char} {b bs : List UInt8}
      (head : WrittenChar c b) (tail : WrittenChars cs bs) : WrittenChars (c :: cs) (b ++ bs)

/-- The ways to write a string in its quotes. -/
inductive WrittenString : String → List UInt8 → Prop
  | mk {s : String} {bs : List UInt8} (h : WrittenChars s.toList bs) :
      WrittenString s (byte '"' :: (bs ++ [byte '"']))

mutual

/-- The ways to write a value, without white space around it. -/
inductive Written : Json → List UInt8 → Prop
  | null : Written .null (bytes "null".toList)
  | true : Written (.boolean true) (bytes "true".toList)
  | false : Written (.boolean false) (bytes "false".toList)
  | number {n : Numeral} {cs : List Char} (h : n.Written cs) : Written (.number n) (bytes cs)
  | text {s : String} {bs : List UInt8} (h : WrittenString s bs) : Written (.text s) bs
  | emptyArray {ws : List UInt8} (h : IsBlank ws) :
      Written (.array []) (byte '[' :: (ws ++ [byte ']']))
  | array {v : Json} {vs : List Json} {bs : List UInt8} (h : WrittenItems v vs bs) :
      Written (.array (v :: vs)) (byte '[' :: (bs ++ [byte ']']))
  | emptyObject {ws : List UInt8} (h : IsBlank ws) :
      Written (.object []) (byte '{' :: (ws ++ [byte '}']))
  | object {m : String × Json} {ms : List (String × Json)} {bs : List UInt8}
      (h : WrittenMembers m ms bs) : Written (.object (m :: ms)) (byte '{' :: (bs ++ [byte '}']))

/-- The ways to write a value and others after it, with commas between them. -/
inductive WrittenItems : Json → List Json → List UInt8 → Prop
  | last {v : Json} {before value after : List UInt8}
      (hbefore : IsBlank before) (h : Written v value) (hafter : IsBlank after) :
      WrittenItems v [] (before ++ (value ++ after))
  | cons {v w : Json} {vs : List Json} {before value after more : List UInt8}
      (hbefore : IsBlank before) (h : Written v value) (hafter : IsBlank after)
      (hmore : WrittenItems w vs more) :
      WrittenItems v (w :: vs) (before ++ (value ++ (after ++ byte ',' :: more)))

/-- The ways to write a member and others after it, with commas between them. -/
inductive WrittenMembers : String × Json → List (String × Json) → List UInt8 → Prop
  | last {k : String} {v : Json} {before name between space value after : List UInt8}
      (hbefore : IsBlank before) (hname : WrittenString k name) (hbetween : IsBlank between)
      (hspace : IsBlank space) (h : Written v value) (hafter : IsBlank after) :
      WrittenMembers (k, v) []
        (before ++ (name ++ (between ++ byte ':' :: (space ++ (value ++ after)))))
  | cons {k : String} {v : Json} {m : String × Json} {ms : List (String × Json)}
      {before name between space value after more : List UInt8}
      (hbefore : IsBlank before) (hname : WrittenString k name) (hbetween : IsBlank between)
      (hspace : IsBlank space) (h : Written v value) (hafter : IsBlank after)
      (hmore : WrittenMembers m ms more) :
      WrittenMembers (k, v) (m :: ms)
        (before ++ (name ++ (between ++ byte ':' ::
          (space ++ (value ++ (after ++ byte ',' :: more))))))

end

/-- The texts of a value, with white space around it. -/
inductive Document : Json → List UInt8 → Prop
  | mk {v : Json} {before value after : List UInt8}
      (hbefore : IsBlank before) (h : Written v value) (hafter : IsBlank after) :
      Document v (before ++ (value ++ after))

end Reachability.Json
