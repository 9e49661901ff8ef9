import Reachability.Hexadecimal
import Reachability.Yaml.Cursor
import Reachability.Yaml.Token

/-!
# Anchors, tags and directives
-/
namespace Reachability.Yaml.Token

/-- The characters of anchors, tag handles and directive names. -/
def isNameChar (c : Char) : Bool :=
  ('0' ≤ c && c ≤ '9') || ('A' ≤ c && c ≤ 'Z') || ('a' ≤ c && c ≤ 'z') || c == '_' || c == '-'

/-- Reads an anchor or an alias. -/
def anchor (isAlias : Bool) (c : Cursor) : Except Error (Token × Cursor) :=
  let (name, after) := c.skip.takeWhile isNameChar
  let mayFollow := endsWord after.head? || after.satisfies ("?:,]\x7d%@\x60".toList.contains ·)
  if name.isEmpty || !mayFollow then
    .error (.malformed .noAnchorName after.mark
      (some (if isAlias then .aliasName else .anchor, c.mark)))
  else
    let name := String.ofList name
    .ok (⟨if isAlias then .alias name else .anchor name, c.mark, after.mark⟩, after)

/-- The characters of a tag, in brackets or a directive or elsewhere. -/
def isUriChar (inBrackets : Bool) (c : Char) : Bool :=
  isNameChar c || ";/?:@&=+$.%!~*'()".toList.contains c ||
    (inBrackets && ",[]".toList.contains c)

/-- How many bytes a character takes in UTF-8, from the first of them. -/
def octetWidth? (octet : Nat) : Option Nat :=
  if octet < 0x80 then some 1
  else if octet < 0xC0 then none
  else if octet < 0xE0 then some 2
  else if octet < 0xF0 then some 3
  else if octet < 0xF8 then some 4
  else none

/-- Reads a character that is written as escaped octets. -/
def escapedOctets (fail : Problem → Cursor → Error) :
    (width : Option Nat) → (fuel : Nat) → Cursor → Except Error (List Char × Cursor)
  | _, 0, c => .ok ([], c)
  | width, fuel + 1, c =>
    let octetDigits := (c.rest.drop 1).take 2
    if !c.isAt '%' || octetDigits.length < 2 || !octetDigits.all Hexadecimal.isDigit then
      .error (fail .noEscapedOctet c)
    else
      let octet := Hexadecimal.value octetDigits
      match width, octetWidth? octet with
      | none, none => .error (fail .badLeadingOctet c)
      | none, some width => next octet (width - 1) fuel c
      | some width, _ =>
        if octet / 64 != 2 then .error (fail .badTrailingOctet c)
        else next octet (width - 1) fuel c
where
  next (octet left fuel : Nat) (c : Cursor) : Except Error (List Char × Cursor) :=
    if left = 0 then .ok ([.ofNat octet], c.skip 3)
    else do
      let (more, c) ← escapedOctets fail (some left) fuel (c.skip 3)
      return (.ofNat octet :: more, c)

/-- Reads the characters of a tag, octets that are no ASCII characters one by one. -/
def uriText (inBrackets : Bool) (fail : Problem → Cursor → Error) :
    (fuel : Nat) → Cursor → Except Error (List Char × Cursor)
  | 0, c => .ok ([], c)
  | fuel + 1, c =>
    match c.head? with
    | none => .ok ([], c)
    | some x =>
      if !isUriChar inBrackets x then .ok ([], c)
      else do
        let (chars, c) ← if x == '%' then escapedOctets fail none 4 c else .ok ([x], c.skip)
        let (more, c) ← uriText inBrackets fail fuel c
        return (chars ++ more, c)

/-- Reads the part of a tag after the characters that are part of it already, of which it keeps
all but the first. -/
def uri (isDirective inBrackets : Bool) (before : List Char) (start : Mark) (c : Cursor) :
    Except Error (String × Cursor) := do
  let activity := if isDirective then Activity.tagDirectivePrefix else .tagUri
  let fail (problem : Problem) (c : Cursor) : Error :=
    .malformed problem c.mark (some (activity, start))
  let (chars, after) ← uriText inBrackets fail (c.rest.length + 1) c
  if before.isEmpty && chars.isEmpty then .error (fail .noTagUri after)
  else return (.ofList (before.drop 1 ++ chars), after)

/-- Reads a tag handle: an exclamation mark, a name, and in most cases a second mark. -/
def handle (isDirective : Bool) (start : Mark) (c : Cursor) :
    Except Error (List Char × Cursor) :=
  if !c.isAt '!' then
    let activity := if isDirective then Activity.tagDirectiveHandle else .tag
    .error (.malformed .noTagMark c.mark (some (activity, start)))
  else
    let (name, after) := c.skip.takeWhile isNameChar
    if after.isAt '!' then .ok ('!' :: (name ++ ['!']), after.skip)
    else if isDirective && !name.isEmpty then
      .error (.malformed .noTagMark after.mark (some (.tagDirectiveEnd, start)))
    else .ok ('!' :: name, after)

/-- Reads handle and suffix of a tag. A tag in angle brackets has no handle, and the tag `!`
has itself as its suffix. -/
def tagParts (c : Cursor) : Except Error (String × String × Cursor) := do
  let start := c.mark
  if c.at? 1 == some '<' then
    let (tagSuffix, c) ← uri false true [] start (c.skip 2)
    if c.isAt '>' then return ("", tagSuffix, c.skip)
    else .error (.malformed .noTagEnd c.mark (some (.tag, start)))
  else
    let (first, c) ← handle false start c
    if 1 < first.length && first.getLast? == some '!' then
      let (tagSuffix, c) ← uri false false [] start c
      return (.ofList first, tagSuffix, c)
    else
      let (tagSuffix, c) ← uri false false first start c
      return if tagSuffix.isEmpty then ("", "!", c) else ("!", tagSuffix, c)

/-- Reads a tag. -/
def tag (isFlow : Bool) (c : Cursor) : Except Error (Token × Cursor) := do
  let (handle, tagSuffix, after) ← tagParts c
  if endsWord after.head? || (isFlow && after.isAt ',') then
    return (⟨.tag handle tagSuffix, c.mark, after.mark⟩, after)
  else .error (.malformed .noBlankOrBreak after.mark (some (.tag, c.mark)))

/-- Reads one of the two numbers of a version, of at most nine digits. -/
def versionNumber (start : Mark) (c : Cursor) : Except Error (Nat × Cursor) :=
  let (found, after) := c.takeWhile Decimal.isDigit
  let fail (problem : Problem) (c : Cursor) : Except Error (Nat × Cursor) :=
    .error (.malformed problem c.mark (some (.versionDirective, start)))
  if found.isEmpty then fail .noVersionNumber c
  else if 9 < found.length then fail .longVersionNumber (c.skip 9)
  else .ok (Decimal.value found, after)

/-- Reads a version. -/
def version (start : Mark) (c : Cursor) : Except Error (TokenKind × Cursor) := do
  let (major, c) ← versionNumber start (c.skipWhile isSpace)
  if !c.isAt '.' then
    .error (.malformed .noVersionDot c.mark (some (.versionDirective, start)))
  else
    let (minor, c) ← versionNumber start c.skip
    return (.versionDirective major minor, c)

/-- Reads a tag handle and what it stands for. -/
def tagAbbreviation (start : Mark) (c : Cursor) : Except Error (TokenKind × Cursor) := do
  let (handle, c) ← handle true start (c.skipWhile isSpace)
  if !c.satisfies isSpace then
    .error (.malformed .noBlank c.mark (some (.tagDirective, start)))
  else
    let (tagPrefix, c) ← uri true true [] start (c.skipWhile isSpace)
    if endsWord c.head? then return (.tagDirective (.ofList handle) tagPrefix, c)
    else .error (.malformed .noBlankOrBreak c.mark (some (.tagDirective, start)))

/-- Reads a directive with the rest of its line. -/
def directive (c : Cursor) : Except Error (Token × Cursor) := do
  let start := c.mark
  let fail (problem : Problem) (c : Cursor) : Error :=
    .malformed problem c.mark (some (.directive, start))
  let (name, c) := c.skip.takeWhile isNameChar
  if name.isEmpty then throw (fail .noDirectiveName c)
  if !endsWord c.head? then throw (fail .badDirectiveName c)
  let (kind, c) ←
    if name == "YAML".toList then version start c
    else if name == "TAG".toList then tagAbbreviation start c
    else throw (fail .unknownDirective c)
  let finish := c.mark
  let c := c.skipWhile isSpace
  let c := if c.isAt '#' then c.skipLine else c
  if c.satisfies (!isBreak ·) then throw (fail .noLineEnd c)
  return (⟨kind, start, finish⟩, c.skipBreak)

end Reachability.Yaml.Token
