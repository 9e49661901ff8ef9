import Reachability.Hexadecimal
import Reachability.Service.Route

/-!
# Requests on the wire

The head of a request is a line with method, target and version, and header fields up to
an empty line. It tells how the body is framed: by its length, in chunks, or not at all.

A server may also turn a head away for what it is as a whole: for more than 100 fields, a target
of more than 65534 bytes, a size beyond its buffers, a transfer coding under HTTP/1.0, or an odd
host in its target. These refusals are left out here, and such heads are read like all others.
-/
namespace Reachability.Service

/-- How the end of a body is found. -/
inductive Framing
  | length (bytes : Nat)
  | chunked
deriving DecidableEq, Inhabited

/-- What the head of a request says. -/
structure Head where
  method : String
  path : String
  framing : Framing := .length 0
  /-- Whether no other request follows on the connection. -/
  isLast : Bool := false
deriving DecidableEq, Inhabited

/-- A header field: its name in lower case and its value. -/
structure HeaderField where
  name : String
  value : String
deriving DecidableEq, Inhabited

namespace Message

/-- The bytes as characters, one by one. -/
def chars (bs : List UInt8) : List Char := bs.map fun b => Char.ofNat b.toNat

def isBlank (c : Char) : Bool := c == ' ' || c == '\t'

/-- The text without the blanks at its two ends. -/
def trim (cs : List Char) : List Char := Text.dropTrailing isBlank (cs.dropWhile isBlank)

/-- The characters of methods and field names. -/
def isTokenChar (c : Char) : Bool :=
  c.isAlphanum || "!#$%&'*+-.^_\x60|~".toList.contains c

def isToken (cs : List Char) : Bool := !cs.isEmpty && cs.all isTokenChar

/-- The path of a request target, without host, query and fragment. -/
def pathOf (target : List Char) : List Char :=
  let plain := target.takeWhile fun c => c != '?' && c != '#'
  match plain with
  | '/' :: _ => plain
  | ['*'] => plain
  | _ =>
    let path := (plain.dropWhile (· != ':')).drop 3 |>.dropWhile (· != '/')
    if path.isEmpty then ['/'] else path

/-- Reads method, target and whether a connection stays open by default. -/
def requestLine? (line : List UInt8) : Option (String × List Char × Bool) :=
  match Text.splitAtEach ' ' (chars line) with
  | [method, target, version] =>
    let isNew := version == "HTTP/1.1".toList
    if isToken method && !target.isEmpty && (isNew || version == "HTTP/1.0".toList) then
      some (.ofList method, target, isNew)
    else none
  | _ => none

/-- The bytes of field values: blanks, visible characters and whatever is not ASCII. -/
def isValueByte (b : UInt8) : Bool := b == 0x09 || (0x20 ≤ b.toNat && b != 0x7F)

/-- Reads a header field. -/
def headerField? (line : List UInt8) : Option HeaderField :=
  let name := (chars line).takeWhile (· != ':')
  let value := line.drop (name.length + 1)
  if isToken name && name.length < line.length && value.all isValueByte then
    some ⟨.ofList (name.map Text.lowerAscii), .ofList (trim (chars value))⟩
  else none

/-- The values of all fields of a name. -/
def valuesOf (name : String) (fields : List HeaderField) : List String :=
  (fields.filter (·.name == name)).map (·.value)

/-- The options that the fields of a name list, in lower case. -/
def optionsOf (name : String) (fields : List HeaderField) : List (List Char) :=
  (valuesOf name fields).flatMap fun value =>
    (Text.splitAtEach ',' value.toList).map fun option => (trim option).map Text.lowerAscii

/-- The greatest length that a body can be announced with. -/
def lengthLimit : Nat := UInt64.size - 3

/-- The framing that the fields ask for; chunks win over a length. -/
def framing? (fields : List HeaderField) : Option Framing :=
  match (optionsOf "transfer-encoding" fields).getLast?, valuesOf "content-length" fields with
  | some coding, _ => if coding == "chunked".toList then some .chunked else none
  | none, [] => some (.length 0)
  | none, first :: more =>
    if more.all (· == first) then
      (Decimal.numberUpTo? lengthLimit first.toList).map .length
    else none

/-- The head that consists of the given lines. -/
def head? : List (List UInt8) → Option Head
  | [] => none
  | first :: lines => do
    let (method, target, isNew) ← requestLine? first
    let fields ← lines.mapM headerField?
    let framing ← framing? fields
    let options := optionsOf "connection" fields
    let isLast := if isNew then options.contains "close".toList
      else !options.contains "keep-alive".toList
    return { method, path := .ofList (pathOf target), framing, isLast }

/-- The size of a chunk, of 64 bits, from the line before it, which may hold extensions. -/
def chunkSize? (line : List UInt8) : Option Nat :=
  let cs := chars line
  let digits := cs.takeWhile Hexadecimal.isDigit
  let rest := (cs.dropWhile Hexadecimal.isDigit).dropWhile isBlank
  if digits.isEmpty || UInt64.size ≤ Hexadecimal.value digits then none
  else if rest.isEmpty || rest.head? == some ';' then some (Hexadecimal.value digits)
  else none

end Message

end Reachability.Service
