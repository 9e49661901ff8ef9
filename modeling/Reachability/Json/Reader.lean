import Reachability.Json.Skip
import Reachability.Text.Quoted

/-!
# Reading values from JSON

A reader takes a value of one kind; what else it finds becomes part of the message. A
record is an object with known members, or an array of their values in order. Members
that are missing keep their defaults, members of other names are skipped, and no known
one may come twice. In an array the values at the end may be missing if they have a
default of their own.
-/
namespace Reachability.Json

namespace Reader

/-- What is found in place of something else, and how far the text has been read then. -/
def found (b : UInt8) (bs : List UInt8) : Except Fault (String × List UInt8) :=
  let named (name : String) (r : Except Fault (Unit × List UInt8)) :
      Except Fault (String × List UInt8) :=
    r.map fun (_, rest) => (name, rest)
  if b == byte 'n' then named "null" (word ("ull".toList.map byte) bs)
  else if b == byte 't' then named "boolean \x60true\x60" (word ("rue".toList.map byte) bs)
  else if b == byte 'f' then named "boolean \x60false\x60" (word ("alse".toList.map byte) bs)
  else if b == byte '-' || Numeral.isDigit b then
    (Number.read (b :: bs)).map fun (n, rest) => (n.description, rest)
  else if b == byte '"' then
    (string bs).map fun (s, rest) => ("string " ++ Text.quoted s, rest)
  else if b == byte '[' then .ok ("sequence", b :: bs)
  else if b == byte '\x7b' then .ok ("map", b :: bs)
  else failBehind .noValue (b :: bs)

/-- Refuses the value at the front of a text. -/
def mismatch (expected : String) (b : UInt8) (bs : List UInt8) : Except Fault α := do
  let (found, rest) ← found b bs
  failAt (.wrongType found expected) rest

/-- Passes the first byte that is no white space, and the rest, to a reader. -/
def onValue (r : UInt8 → Reader α) : Reader α := fun bs =>
  match skipBlank bs with
  | [] => failAt .endOfValue []
  | b :: bs => r b bs

/-- Reads a text. -/
def text : Reader String := onValue fun b bs =>
  if b == byte '"' then string bs else mismatch "a string" b bs

/-- Reads an integer of at most `limit`, which goes by a name. -/
def natural (limit : Nat) (name : String) : Reader Nat := onValue fun b bs =>
  if b == byte '-' || Numeral.isDigit b then do
    let (n, rest) ← Number.read (b :: bs)
    match n with
    | .natural value =>
      if value ≤ limit then return (value, rest)
      else failAt (.wrongValue n.description name) rest
    | .negative _ => failAt (.wrongValue n.description name) rest
    | .real _ => failAt (.wrongType n.description name) rest
  else mismatch name b bs

/-- Reads a value or null. -/
def optional (r : Reader α) : Reader (Option α) := fun bs =>
  match skipBlank bs with
  | b :: rest =>
    if b == byte 'n' then (word ("ull".toList.map byte) rest).map fun (_, rest) => (none, rest)
    else (r (b :: rest)).map fun (a, rest) => (some a, rest)
  | [] => (r []).map fun (a, rest) => (some a, rest)

/-- A reader whose value changes a record. -/
def into (r : Reader α) (set : α → ρ → ρ) : Reader (ρ → ρ) := fun bs =>
  (r bs).map fun (a, rest) => (set a, rest)

end Reader

/-- A known member of a record and what its value changes. -/
structure Field (ρ : Type) where
  name : String
  read : Reader (ρ → ρ)
  /-- Whether an array must hold its value. -/
  isRequired : Bool := false

/-- What a record is called in messages, and its members. -/
structure Shape (ρ : Type) where
  name : String
  fields : List (Field ρ)
  defaults : ρ

namespace Shape

/-- Reads a member name behind a comma or an opening brace; none at the end of the object. -/
def memberName (isFirst : Bool) (bs : List UInt8) : Except Fault (Option String × List UInt8) :=
  match skipBlank bs with
  | [] => failAt .endOfObject []
  | b :: bs =>
    if b == byte '\x7d' then .ok (none, bs)
    else if isFirst then
      if b == byte '"' then (string bs).map fun (s, rest) => (some s, rest)
      else failBehind .noKey (b :: bs)
    else if b != byte ',' then failBehind .noObjectEnd (b :: bs)
    else
      match skipBlank bs with
      | [] => failAt .endOfValue []
      | b :: bs =>
        if b == byte '"' then (string bs).map fun (s, rest) => (some s, rest)
        else if b == byte '\x7d' then failBehind .trailingComma (b :: bs)
        else failBehind .noKey (b :: bs)

/-- Steps over the colon behind a member name. -/
def colon (bs : List UInt8) : Except Fault (List UInt8) :=
  match skipBlank bs with
  | [] => failAt .endOfObject []
  | b :: bs => if b == byte ':' then .ok bs else failBehind .noColon (b :: bs)

/-- Refuses a member that has been read before, at the next value, or behind the object if that
ends there. -/
def duplicate (name : String) (bs : List UInt8) : Except Fault α :=
  let rest := skipBlank bs
  failAt (.duplicate name) (if rest.head? == some (byte '\x7d') then rest.tail else rest)

/-- Reads the members of an object behind its opening brace. -/
def members (fields : List (Field ρ)) (isFirst : Bool) :
    (fuel : Nat) → (seen : List String) → ρ → Reader ρ
  | 0, _, r, bs => .ok (r, bs)
  | fuel + 1, seen, r, bs => do
    match ← memberName isFirst bs with
    | (none, rest) => return (r, rest)
    | (some name, rest) =>
      match fields.find? (·.name == name) with
      | none =>
        let rest ← colon rest
        let rest ← skip rest
        members fields false fuel seen r rest
      | some field =>
        if seen.contains name then duplicate name rest
        else
          let rest ← colon rest
          let (set, rest) ← field.read rest
          members fields false fuel (name :: seen) (set r) rest

/-- Steps over the end of an array that holds a value for every field. -/
def arrayEnd (bs : List UInt8) : Except Fault (List UInt8) :=
  match skipBlank bs with
  | [] => failAt .endOfArray []
  | b :: bs =>
    if b == byte ']' then .ok bs
    else if b != byte ',' then failBehind .trailingCharacters (b :: bs)
    else
      let rest := skipBlank bs
      if rest.head? == some (byte ']') then failBehind .trailingComma rest
      else failBehind .trailingCharacters rest

/-- Whether another element follows in an array, and from where on. -/
def nextElement (isFirst : Bool) (bs : List UInt8) : Except Fault (Bool × List UInt8) :=
  match skipBlank bs with
  | [] => failAt .endOfArray []
  | b :: bs =>
    if b == byte ']' then .ok (false, bs)
    else if isFirst then .ok (true, b :: bs)
    else if b != byte ',' then failBehind .noArrayEnd (b :: bs)
    else
      match skipBlank bs with
      | [] => failAt .endOfValue []
      | b :: bs =>
        if b == byte ']' then failBehind .trailingComma (b :: bs) else .ok (true, b :: bs)

/-- Reads the elements of an array behind its opening bracket, the first of which has the given
index. -/
def elements (expected : String) : List (Field ρ) → (index : Nat) → ρ → Reader ρ
  | [], _, r, bs => do return (r, ← arrayEnd bs)
  | field :: fields, index, r, bs => do
    let (isMore, rest) ← nextElement (index == 0) bs
    if isMore then
      let (set, rest) ← field.read rest
      elements expected fields (index + 1) (set r) rest
    else
      let optional := (field :: fields).takeWhile (!·.isRequired)
      if optional.length ≤ fields.length then
        failAt (.wrongLength (index + optional.length) expected) rest
      else return (r, rest)

/-- What an array of a record is expected to be. -/
def expectedArray (s : Shape ρ) : String :=
  let count := s.fields.length
  s.name ++ " with " ++ Decimal.text count ++ " element" ++ if count = 1 then "" else "s"

/-- Reads a record. -/
def read (s : Shape ρ) : Reader ρ := Reader.onValue fun b bs =>
  if b == byte '\x7b' then members s.fields true (bs.length + 1) [] s.defaults bs
  else if b == byte '[' then elements s.expectedArray s.fields 0 s.defaults bs
  else Reader.mismatch s.name b bs

/-- Reads a body that is a record and nothing else. -/
def readAll (s : Shape ρ) (body : List UInt8) : Except Fault ρ := do
  let (r, rest) ← s.read body
  match skipBlank rest with
  | [] => return r
  | rest => failBehind .trailingCharacters rest

end Shape

end Reachability.Json
