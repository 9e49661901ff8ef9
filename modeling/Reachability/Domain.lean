import Reachability.Domain.Direction
import Reachability.Domain.Joiner
import Reachability.Domain.Mapping
import Reachability.Domain.Punycode
import Reachability.Text.Ascii
import Reachability.Text.Split

/-!
# Domain names

A domain name in any script has one spelling in ASCII (Unicode Technical Standard 46, as
URLs use it): letters in lower case, characters mapped and composed, and each label
with characters beyond ASCII in Punycode behind the marker `xn--`. A name in ASCII
without such labels is only brought into lower case. Some ASCII characters may not
occur in the result, as they would end the host of a URL.
-/
namespace Reachability.Domain

open Text (splitAtEach isAscii lowerAscii)

/-- The ASCII characters that no host of a URL may hold. -/
def isForbidden (c : Char) : Bool :=
  c.toNat ≤ 0x20 || c == '%' || c == '#' || c == '/' || c == ':' || c == '<' || c == '>' ||
    c == '?' || c == '@' || c == '[' || c == '\\' || c == ']' || c == '^' || c == '|' ||
    c.toNat == 0x7F

/-- The marker of labels in Punycode. -/
def marker : List Char := ['x', 'n', '-', '-']

def hasMarker (label : List Char) : Bool := marker.isPrefixOf label

/-- What becomes of a character, if it may occur. -/
def mapChar? (c : Char) : Option (List Char) :=
  if isAscii c then some [lowerAscii c] else Mapping.mapChar? c

/-- Maps all characters; `none` if one of them may not occur. -/
def mapAll? : List Char → Option (List Char)
  | [] => some []
  | c :: rest => do
    let mapped ← mapChar? c
    let others ← mapAll? rest
    return mapped ++ others

/-- Whether mapping and composition leave a label as it is. -/
def isCanonical (label : List Char) : Bool :=
  mapAll? label == some label && Text.Normal.composed label == label

/-- Whether a label with characters beyond ASCII may stand. -/
def labelFits (label : List Char) : Bool :=
  !(label.head?.any isMark) && joinersFit [] label

/-- A label in its ASCII and in its readable spelling. -/
structure Label where
  ascii : List Char
  readable : List Char

/-- The longest text that is put into Punycode. -/
def encodeLimit : Nat := 1000

/-- The longest text that is read as Punycode. -/
def decodeLimit : Nat := 2000

namespace Label

/-- The two spellings of a label of a mapped name. -/
def ofMapped? (label : List Char) : Option Label :=
  if label.all isAscii then
    if hasMarker label then
      let code := label.drop 4
      if code = [] ∨ code.getLast? = some '-' ∨ decodeLimit < code.length then none
      else do
        let readable ← Punycode.decode? code
        if isCanonical readable && labelFits readable && !hasMarker readable then
          return ⟨label, readable⟩
        else none
    else some ⟨label, label⟩
  else if hasMarker label || !labelFits label || encodeLimit < label.length then none
  else some ⟨marker ++ Punycode.encode label, label⟩

end Label

/-- Labels with dots between them. -/
def joinLabels : List (List Char) → List Char
  | [] => []
  | [label] => label
  | label :: labels => label ++ '.' :: joinLabels labels

/-- The ASCII spelling of a name with characters beyond ASCII or labels in Punycode. -/
def internationalToAscii? (name : List Char) : Option (List Char) := do
  let mapped ← mapAll? name
  let composed := Text.Normal.composed mapped
  if composed.any isForbidden then none
  else
    let labels ← (splitAtEach '.' composed).mapM Label.ofMapped?
    if labelsFitDirections (labels.map (·.readable)) then
      return joinLabels (labels.map (·.ascii))
    else none

/-- Whether a name is in ASCII and none of its labels carries the marker. -/
def isPlain (name : List Char) : Bool :=
  name.all isAscii && !(splitAtEach '.' (name.map lowerAscii)).any hasMarker

/-- The spelling of a name in ASCII, if it has one. -/
def toAscii? (name : List Char) : Option (List Char) :=
  if isPlain name then
    if name.any isForbidden then none else some (name.map lowerAscii)
  else internationalToAscii? name

end Reachability.Domain
