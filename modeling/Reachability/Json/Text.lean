import Reachability.Hexadecimal
import Reachability.Json.Fault
import Reachability.Text.Utf8

/-!
# Strings in JSON

A string is UTF-8 with escapes in it. A character outside of the sixteen bit range is
escaped as two surrogates, and a surrogate must not stand alone. A string that is only
skipped needs neither: its escapes must have their digits, and nothing else is looked at.
-/
namespace Reachability.Json

/-- The characters that a backslash and a single letter stand for. -/
def shortEscapes : List (UInt8 × Char) := [
  (byte '"', '"'), (byte '\\', '\\'), (byte '/', '/'), (byte 'b', '\x08'), (byte 'f', '\x0c'),
  (byte 'n', '\x0a'), (byte 'r', '\x0d'), (byte 't', '\x09')]

/-- The number that four hexadecimal digits at the front spell. -/
def fourDigits (bs : List UInt8) : Except Fault Nat :=
  let found := (bs.take 4).map fun b => Char.ofNat b.toNat
  if found.length < 4 then failAt .endOfString []
  else if found.all Hexadecimal.isDigit then .ok (Hexadecimal.value found)
  else failAt .badEscape (bs.drop 4)

def isHighSurrogate (n : Nat) : Bool := 0xD800 ≤ n && n < 0xDC00

def isLowSurrogate (n : Nat) : Bool := 0xDC00 ≤ n && n < 0xE000

/-- The character of two surrogates. -/
def pair (high low : Nat) : Char := .ofNat ((high - 0xD800) * 0x400 + (low - 0xDC00) + 0x10000)

/-- Reads the second of two surrogates with its backslash and letter. -/
def lowSurrogate : List UInt8 → Except Fault Nat
  | [] => failAt .endOfString []
  | b :: bs =>
    if b != byte '\\' then failAt .endOfEscape bs
    else
      match bs with
      | [] => failAt .endOfString []
      | b :: bs =>
        if b != byte 'u' then failAt .endOfEscape bs
        else do
          let low ← fourDigits bs
          if isLowSurrogate low then return low else failAt .loneSurrogate (bs.drop 4)

/-- The character of an escape, from the bytes behind its backslash, and how many it takes. -/
def escape : List UInt8 → Except Fault (Char × Nat)
  | [] => failAt .endOfString []
  | b :: bs =>
    match shortEscapes.lookup b with
    | some c => .ok (c, 1)
    | none =>
      if b != byte 'u' then failAt .badEscape bs
      else do
        let n ← fourDigits bs
        if isLowSurrogate n then failAt .loneSurrogate (bs.drop 4)
        else if isHighSurrogate n then
          let low ← lowSurrogate (bs.drop 4)
          return (pair n low, 11)
        else return (.ofNat n, 5)

/-- The bytes of a character whose escape has a width, with the widths of what stands for each:
the first byte stands for the whole escape. -/
def escapedBytes (c : Char) (width : Nat) : List (UInt8 × Nat) :=
  match Text.Utf8.encodeChar c with
  | [] => []
  | b :: bs => (b, width) :: bs.map (·, 0)

/-- The bytes of a string up to its closing quote, escapes resolved, each with the width of what
stands for it. So many bytes at the front belong to an escape that has been resolved. -/
def stringBytes : (escaped : Nat) → Reader (List (UInt8 × Nat))
  | _, [] => failAt .endOfString []
  | escaped + 1, _ :: bs => stringBytes escaped bs
  | 0, b :: bs =>
    if b == byte '"' then .ok ([], bs)
    else if b == byte '\\' then do
      let (c, width) ← escape bs
      let (more, rest) ← stringBytes width bs
      return (escapedBytes c (width + 1) ++ more, rest)
    else if b < 0x20 then failAt .controlCharacter bs
    else do
      let (more, rest) ← stringBytes 0 bs
      return ((b, 1) :: more, rest)

/-- The text that the bytes of a string encode, or a fault behind the first that encodes
nothing. -/
def textOf (source : List UInt8) (bytes : List (UInt8 × Nat)) : Except Fault String :=
  match Text.Utf8.decode (bytes.map (·.1)) with
  | .ok cs => .ok (.ofList cs)
  | .error offset =>
    let width := (bytes.take (offset + 1)).foldl (fun width b => width + b.2) 0
    failAt .badText (source.drop width)

/-- Reads a string behind its opening quote. -/
def string : Reader String := fun bs => do
  let (bytes, rest) ← stringBytes 0 bs
  return (← textOf bs bytes, rest)

/-- How many bytes a skipped escape takes behind its backslash. -/
def escapeWidth : List UInt8 → Except Fault Nat
  | [] => failAt .endOfString []
  | b :: bs =>
    if (shortEscapes.lookup b).isSome then .ok 1
    else if b != byte 'u' then failAt .badEscape bs
    else do
      let _ ← fourDigits bs
      return 5

/-- Steps over a string behind its opening quote. -/
def skipString : (escaped : Nat) → List UInt8 → Except Fault (List UInt8)
  | _, [] => failAt .endOfString []
  | escaped + 1, _ :: bs => skipString escaped bs
  | 0, b :: bs =>
    if b == byte '"' then .ok bs
    else if b == byte '\\' then do
      let width ← escapeWidth bs
      skipString width bs
    else if b < 0x20 then failAt .controlCharacter (b :: bs)
    else skipString 0 bs

end Reachability.Json
