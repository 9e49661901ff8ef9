import Reachability.Service.Connection

/-!
# The grammar of requests

One request has many texts: its path may stand behind a host and before a query, other
fields may accompany it, and its body may be framed by its length or in chunks of any
size. `WrittenRequest` relates a request to the texts in which it is not the last one on
its connection.

The grammar bounds neither the number of fields nor the sizes of a target and of a head, and asks
of a host for its characters only. As in `Message`, what a server turns away for such reasons is
left out: its answers to these texts are assumed to be those to a head within its limits.
-/
namespace Reachability.Service

/-- The bytes of ASCII characters. -/
def ascii (cs : List Char) : List UInt8 := cs.map fun c => UInt8.ofNat c.toNat

def lineEnd : List UInt8 := [0x0D, 0x0A]

/-- Holds of the characters of a path. -/
def IsPathChar (c : Char) : Prop :=
  c.isAlphanum = true ∨ c ∈ "-._~%!$&'()*+,;=:@/".toList

instance : DecidablePred IsPathChar := fun _ => inferInstanceAs (Decidable (_ ∨ _))

/-- Holds of nothing, and of a query behind its mark. -/
def IsQuery (cs : List Char) : Prop :=
  cs = [] ∨ ∃ query, cs = '?' :: query ∧ ∀ c ∈ query, IsPathChar c ∨ c = '?'

/-- Holds of the characters of a host with a user and a port. -/
def IsHostChar (c : Char) : Prop := c ≠ '/' ∧ (IsPathChar c ∨ c = '[' ∨ c = ']')

/-- Holds of a scheme and a host, in front of a path. -/
def IsOrigin (cs : List Char) : Prop :=
  ∃ scheme host : List Char, cs = scheme ++ "://".toList ++ host ∧
    (scheme ≠ [] ∧ ∀ c ∈ scheme, c.isAlphanum = true ∨ c ∈ "+-.".toList) ∧
    host ≠ [] ∧ ∀ c ∈ host, IsHostChar c

/-- The targets by which a path can be asked for. -/
inductive WrittenTarget : List Char → List Char → Prop
  | relative {path query : List Char} (hpath : ∀ c ∈ path, IsPathChar c)
      (hquery : IsQuery query) :
      WrittenTarget ('/' :: path) ('/' :: path ++ query)
  | absolute {origin path query : List Char} (horigin : IsOrigin origin)
      (hpath : ∀ c ∈ path, IsPathChar c) (hquery : IsQuery query) :
      WrittenTarget ('/' :: path) (origin ++ '/' :: path ++ query)
  /-- An origin without a path stands for its root. -/
  | root {origin query : List Char} (horigin : IsOrigin origin) (hquery : IsQuery query) :
      WrittenTarget ['/'] (origin ++ query)
  | asterisk : WrittenTarget ['*'] ['*']

/-- Holds of a name of fields, in lower case, whose values tell how the body is framed or
whether the connection stays open. -/
def IsFramingName (name : List Char) : Prop :=
  name = "content-length".toList ∨ name = "transfer-encoding".toList ∨
    name = "connection".toList

/-- Holds of the value of a field: blanks, visible characters and whatever is not ASCII. -/
def IsFieldValue (value : List UInt8) : Prop :=
  ∀ b ∈ value, b = 0x09 ∨ 0x20 ≤ b.toNat ∧ b ≠ 0x7F

/-- A field with its name in lower case, whatever its value is. -/
inductive AnyField : List Char → List UInt8 → Prop
  | mk {name : List Char} {value : List UInt8} (hname : Message.isToken name)
      (hvalue : IsFieldValue value) :
      AnyField (name.map Text.lowerAscii) (ascii (name ++ [':']) ++ value ++ lineEnd)

/-- A field whose name is written in any case, with blanks around its value. -/
inductive WrittenField (name value : List Char) : List UInt8 → Prop
  | mk {spelled before after : List Char} (hname : spelled.map Text.lowerAscii = name)
      (hbefore : before.all Message.isBlank) (hafter : after.all Message.isBlank) :
      WrittenField name value (ascii (spelled ++ ':' :: (before ++ value ++ after)) ++ lineEnd)

/-- Options in a row, with blanks around the commas. -/
inductive WrittenOptions : List (List Char) → List Char → Prop
  | last {option : List Char} (h : Message.isToken option) : WrittenOptions [option] option
  | cons {option before after value : List Char} {options : List (List Char)}
      (h : Message.isToken option) (hbefore : before.all Message.isBlank)
      (hafter : after.all Message.isBlank) (hmore : WrittenOptions options value) :
      WrittenOptions (option :: options) (option ++ before ++ ',' :: (after ++ value))

/-- Fields that tell nothing about framing and do not ask for the connection to be closed. -/
inductive WrittenFields : List UInt8 → Prop
  | nil : WrittenFields []
  | other {name : List Char} {field more : List UInt8} (hfield : AnyField name field)
      (hname : ¬ IsFramingName name) (hmore : WrittenFields more) : WrittenFields (field ++ more)
  | connection {options : List (List Char)} {value : List Char} {field more : List UInt8}
      (hfield : WrittenField "connection".toList value field)
      (hoptions : WrittenOptions options value)
      (hopen : ∀ option ∈ options, option.map Text.lowerAscii ≠ "close".toList)
      (hmore : WrittenFields more) : WrittenFields (field ++ more)

/-- Holds of what may follow the size of a chunk on its line: blanks, and then nothing or
anything behind a semicolon. -/
def IsExtension (bs : List UInt8) : Prop :=
  ∃ (blanks : List Char) (text : List UInt8), blanks.all Message.isBlank ∧
    (text = [] ∨ text.head? = some 0x3B) ∧ 0x0D ∉ text ∧ 0x0A ∉ text ∧ bs = ascii blanks ++ text

/-- Fields behind the last chunk. -/
inductive WrittenTrailers : List UInt8 → Prop
  | nil : WrittenTrailers []
  | cons {name : List Char} {field more : List UInt8} (hfield : AnyField name field)
      (hmore : WrittenTrailers more) : WrittenTrailers (field ++ more)

/-- Holds of a size in hexadecimal that is written with at least one digit. -/
def IsChunkSize (size : List Char) (n : Nat) : Prop :=
  size ≠ [] ∧ size.all Hexadecimal.isDigit ∧ Hexadecimal.value size = n ∧ n < UInt64.size

instance (size : List Char) (n : Nat) : Decidable (IsChunkSize size n) :=
  inferInstanceAs (Decidable (_ ∧ _))

/-- The ways to write a body in chunks. -/
inductive WrittenChunks : List UInt8 → List UInt8 → Prop
  | last {size : List Char} {extension trailers : List UInt8} (hsize : IsChunkSize size 0)
      (hextension : IsExtension extension) (htrailers : WrittenTrailers trailers) :
      WrittenChunks [] (ascii size ++ extension ++ lineEnd ++ trailers ++ lineEnd)
  | cons {size : List Char} {extension chunk body more : List UInt8} (hchunk : chunk ≠ [])
      (hsize : IsChunkSize size chunk.length) (hextension : IsExtension extension)
      (hmore : WrittenChunks body more) :
      WrittenChunks (chunk ++ body)
        (ascii size ++ extension ++ lineEnd ++ chunk ++ lineEnd ++ more)

/-- The ways to write a body: the field that announces it, and its bytes. -/
inductive WrittenBody : List UInt8 → List UInt8 → List UInt8 → Prop
  | none : WrittenBody [] [] []
  | length {digits : List Char} {body announced : List UInt8}
      (hdigits : digits ≠ [] ∧ digits.all Decimal.isDigit ∧ Decimal.value digits = body.length)
      (hlimit : body.length ≤ Message.lengthLimit)
      (hfield : WrittenField "content-length".toList digits announced) :
      WrittenBody body announced body
  | chunked {coding : List Char} {body announced bytes : List UInt8}
      (hcoding : coding.map Text.lowerAscii = "chunked".toList)
      (hfield : WrittenField "transfer-encoding".toList coding announced)
      (hchunks : WrittenChunks body bytes) : WrittenBody body announced bytes

/-- The ways to write a request behind which others may follow. -/
inductive WrittenRequest : Request → List UInt8 → Prop
  | mk {r : Request} {target : List Char} {before announced after bytes : List UInt8}
      (hmethod : Message.isToken r.method.toList ∧ r.method ≠ "HEAD" ∧ r.method ≠ "CONNECT")
      (htarget : WrittenTarget r.path.toList target)
      (hbefore : WrittenFields before) (hbody : WrittenBody r.body announced bytes)
      (hafter : WrittenFields after) :
      WrittenRequest r
        (ascii (r.method.toList ++ ' ' :: (target ++ " HTTP/1.1".toList)) ++ lineEnd ++
          before ++ announced ++ after ++ lineEnd ++ bytes)

end Reachability.Service
