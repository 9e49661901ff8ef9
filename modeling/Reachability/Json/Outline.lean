import Reachability.Json.Grammar
import Reachability.Json.Skip

/-!
# The outline of JSON

A value that nobody asks for is not decoded, so less is demanded of it: the bytes of its strings
may be no UTF-8, and the codes in them may be surrogates in any order. All the rest is as in the
grammar. An object of which some names are known is loose if it has such values under other names;
its members are those that are values all the same.
-/
namespace Reachability.Json

/-- A byte of a string that stands for itself. -/
def IsPlain (b : UInt8) : Prop := b ≠ byte '"' ∧ b ≠ byte '\\' ∧ ¬ b < 0x20

/-- The characters of a string in outline. -/
inductive OutlineChars : List UInt8 → Prop
  | nil : OutlineChars []
  | plain {b : UInt8} {bs : List UInt8} (h : IsPlain b) (tail : OutlineChars bs) :
      OutlineChars (b :: bs)
  | short {b : UInt8} {c : Char} {bs : List UInt8} (h : (b, c) ∈ shortEscapes)
      (tail : OutlineChars bs) : OutlineChars (byte '\\' :: b :: bs)
  | code {n : Nat} {digits : List Char} {bs : List UInt8} (h : IsCode n digits)
      (tail : OutlineChars bs) : OutlineChars (byte '\\' :: byte 'u' :: (bytes digits ++ bs))

/-- A string in its quotes, in outline. -/
inductive OutlineString : List UInt8 → Prop
  | mk {bs : List UInt8} (h : OutlineChars bs) : OutlineString (byte '"' :: (bs ++ [byte '"']))

/-- The byte that opens a bracket. -/
def Bracket.opening : Bracket → UInt8
  | array => byte '['
  | object => byte '{'

/-- What stands in front of a value in brackets: white space, and in an object a name. -/
inductive Label : Bracket → List UInt8 → Prop
  | array {ws : List UInt8} (h : IsBlank ws) : Label .array ws
  | object {before name between space : List UInt8} (hbefore : IsBlank before)
      (hname : OutlineString name) (hbetween : IsBlank between) (hspace : IsBlank space) :
      Label .object (before ++ (name ++ (between ++ byte ':' :: space)))

/-- What a text can be the outline of: a value, or what stands in brackets that are not empty. -/
inductive Part
  | value
  | entries (bracket : Bracket)

/-- The texts that are values, or the entries of brackets, but for the strings in them. -/
inductive Outline : Part → List UInt8 → Prop
  | null : Outline .value (bytes "null".toList)
  | true : Outline .value (bytes "true".toList)
  | false : Outline .value (bytes "false".toList)
  | number {n : Numeral} {cs : List Char} (h : n.Written cs) : Outline .value (bytes cs)
  | text {bs : List UInt8} (h : OutlineString bs) : Outline .value bs
  | empty (bracket : Bracket) {ws : List UInt8} (h : IsBlank ws) :
      Outline .value (bracket.opening :: (ws ++ [bracket.closing]))
  | filled {bracket : Bracket} {bs : List UInt8} (h : Outline (.entries bracket) bs) :
      Outline .value (bracket.opening :: (bs ++ [bracket.closing]))
  | last {bracket : Bracket} {label value after : List UInt8} (hlabel : Label bracket label)
      (h : Outline .value value) (hafter : IsBlank after) :
      Outline (.entries bracket) (label ++ (value ++ after))
  | cons {bracket : Bracket} {label value after more : List UInt8} (hlabel : Label bracket label)
      (h : Outline .value value) (hafter : IsBlank after)
      (hmore : Outline (.entries bracket) more) :
      Outline (.entries bracket) (label ++ (value ++ (after ++ byte ',' :: more)))

/-- Relates a name and the text of its value to the members that are read there: there is one if
the text is a value, and there is none if it is a value in outline and the name is not known. -/
inductive LooseValue (known : List String) (name : String) :
    List (String × Json) → List UInt8 → Prop
  | written {v : Json} {value : List UInt8} (h : Written v value) :
      LooseValue known name [(name, v)] value
  | unknown {value : List UInt8} (hname : name ∉ known) (h : Outline .value value) :
      LooseValue known name [] value

/-- The texts of members, of which some names are known. -/
inductive LooseMembers (known : List String) : List (String × Json) → List UInt8 → Prop
  | last {k : String} {ms : List (String × Json)}
      {before name between space value after : List UInt8} (hbefore : IsBlank before)
      (hname : WrittenString k name) (hbetween : IsBlank between) (hspace : IsBlank space)
      (h : LooseValue known k ms value) (hafter : IsBlank after) :
      LooseMembers known ms
        (before ++ (name ++ (between ++ byte ':' :: (space ++ (value ++ after)))))
  | cons {k : String} {ms others : List (String × Json)}
      {before name between space value after more : List UInt8} (hbefore : IsBlank before)
      (hname : WrittenString k name) (hbetween : IsBlank between) (hspace : IsBlank space)
      (h : LooseValue known k ms value) (hafter : IsBlank after)
      (hmore : LooseMembers known others more) :
      LooseMembers known (ms ++ others) (before ++ (name ++ (between ++ byte ':' ::
        (space ++ (value ++ (after ++ byte ',' :: more))))))

/-- The texts of objects, of which some names are known. -/
inductive LooseObject (known : List String) : List (String × Json) → List UInt8 → Prop
  | empty {before ws after : List UInt8} (hbefore : IsBlank before) (h : IsBlank ws)
      (hafter : IsBlank after) :
      LooseObject known [] (before ++ byte '{' :: (ws ++ byte '}' :: after))
  | members {ms : List (String × Json)} {before bs after : List UInt8} (hbefore : IsBlank before)
      (h : LooseMembers known ms bs) (hafter : IsBlank after) :
      LooseObject known ms (before ++ byte '{' :: (bs ++ byte '}' :: after))

end Reachability.Json
