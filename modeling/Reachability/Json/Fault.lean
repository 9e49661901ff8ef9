import Reachability.Decimal

/-!
# Why a JSON text cannot be read

A text may end too early, break the grammar, or hold another value than the one that is
asked for. A fault says what is wrong and how many bytes are left where it was noticed,
which gives its line and column.
-/
namespace Reachability.Json

inductive Problem
  | endOfArray
  | endOfObject
  | endOfString
  | endOfValue
  | noColon
  | noArrayEnd
  | noObjectEnd
  | badWord
  | noValue
  | badEscape
  | badNumber
  | hugeNumber
  | badText
  | controlCharacter
  | noKey
  | loneSurrogate
  | trailingComma
  | trailingCharacters
  | endOfEscape
  | wrongType (found expected : String)
  | wrongValue (found expected : String)
  | wrongLength (length : Nat) (expected : String)
  | duplicate (field : String)
deriving DecidableEq, Inhabited

namespace Problem

def message : Problem → String
  | .endOfArray => "EOF while parsing a list"
  | .endOfObject => "EOF while parsing an object"
  | .endOfString => "EOF while parsing a string"
  | .endOfValue => "EOF while parsing a value"
  | .noColon => "expected \x60:\x60"
  | .noArrayEnd => "expected \x60,\x60 or \x60]\x60"
  | .noObjectEnd => "expected \x60,\x60 or \x60\x7d\x60"
  | .badWord => "expected ident"
  | .noValue => "expected value"
  | .badEscape => "invalid escape"
  | .badNumber => "invalid number"
  | .hugeNumber => "number out of range"
  | .badText => "invalid unicode code point"
  | .controlCharacter => "control character (\\u0000-\\u001F) found while parsing a string"
  | .noKey => "key must be a string"
  | .loneSurrogate => "lone leading surrogate in hex escape"
  | .trailingComma => "trailing comma"
  | .trailingCharacters => "trailing characters"
  | .endOfEscape => "unexpected end of hex escape"
  | .wrongType found expected => "invalid type: " ++ found ++ ", expected " ++ expected
  | .wrongValue found expected => "invalid value: " ++ found ++ ", expected " ++ expected
  | .wrongLength n expected => "invalid length " ++ Decimal.text n ++ ", expected " ++ expected
  | .duplicate field => "duplicate field \x60" ++ field ++ "\x60"

end Problem

structure Fault where
  problem : Problem
  /-- How many bytes of the text are left at its place. -/
  left : Nat
deriving DecidableEq, Inhabited

namespace Fault

/-- Line and column of a place after some bytes: lines count from one, and the column is the
number of bytes since the last line feed. -/
def position (before : List UInt8) : Nat × Nat :=
  (before.count 0x0A + 1, (before.reverse.takeWhile (· != 0x0A)).length)

/-- The message of a fault in a body. -/
def message (body : List UInt8) (f : Fault) : String :=
  let (line, column) := position (body.take (body.length - f.left))
  f.problem.message ++ " at line " ++ Decimal.text line ++ " column " ++ Decimal.text column

end Fault

/-- Takes a value from the front of a text. -/
abbrev Reader (α : Type) := List UInt8 → Except Fault (α × List UInt8)

/-- A fault at the place where some bytes are left. -/
def failAt (problem : Problem) (rest : List UInt8) : Except Fault α :=
  .error ⟨problem, rest.length⟩

/-- A fault at the place behind the first of some bytes. -/
def failBehind (problem : Problem) (rest : List UInt8) : Except Fault α :=
  .error ⟨problem, rest.length - 1⟩

/-- The byte of an ASCII character. -/
def byte (c : Char) : UInt8 := c.toUInt8

/-- The white space of JSON. -/
def isBlank (b : UInt8) : Bool := b == 0x20 || b == 0x0A || b == 0x09 || b == 0x0D

def skipBlank (bs : List UInt8) : List UInt8 := bs.dropWhile isBlank

/-- Reads the rest of a word whose first letter has been read. -/
def word : (rest : List UInt8) → Reader Unit
  | [], bs => .ok ((), bs)
  | _ :: _, [] => failAt .endOfValue []
  | expected :: more, b :: bs => if b == expected then word more bs else failAt .badWord bs

end Reachability.Json
