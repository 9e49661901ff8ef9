import Reachability.Json
import Reachability.Decimal
import Reachability.Hexadecimal

/-!
# Compact JSON text

The text of a value without any white space. In a string a quote, a backslash and
the characters below U+0020 are escaped, by a letter where JSON has one; every other
character stands as it is.
-/
namespace Reachability.Json

/-- The escape `\u00xx` of a character below U+0100. -/
def unicodeEscape (c : Char) : List Char :=
  let digit (n : Nat) : Char := Nat.digitChar n
  ['\\', 'u', '0', '0', digit (c.toNat / 16), digit (c.toNat % 16)]

/-- How one character stands in a string. -/
def escapeChar (c : Char) : List Char :=
  if c = '"' then ['\\', '"']
  else if c = '\\' then ['\\', '\\']
  else if c = '\x08' then ['\\', 'b']
  else if c = '\x09' then ['\\', 't']
  else if c = '\x0a' then ['\\', 'n']
  else if c = '\x0c' then ['\\', 'f']
  else if c = '\x0d' then ['\\', 'r']
  else if c.toNat < 0x20 then unicodeEscape c
  else [c]

/-- A string in its quotes. -/
def stringChars (s : String) : List Char :=
  '"' :: (s.toList.flatMap escapeChar ++ ['"'])

mutual

/-- The characters of a value. -/
def compactChars : Json → List Char
  | .null => "null".toList
  | .boolean true => "true".toList
  | .boolean false => "false".toList
  | .number n => n.toChars
  | .text s => stringChars s
  | .array items => '[' :: (itemsChars items ++ [']'])
  | .object members => '{' :: (membersChars members ++ ['}'])

/-- The items of an array with commas between them. -/
def itemsChars : List Json → List Char
  | [] => []
  | [v] => compactChars v
  | v :: vs => compactChars v ++ ',' :: itemsChars vs

/-- The members of an object with commas between them. -/
def membersChars : List (String × Json) → List Char
  | [] => []
  | [(k, v)] => stringChars k ++ ':' :: compactChars v
  | (k, v) :: rest => stringChars k ++ ':' :: (compactChars v ++ ',' :: membersChars rest)

end

/-- The text of a value. -/
def compact (v : Json) : String := String.ofList v.compactChars

end Reachability.Json
