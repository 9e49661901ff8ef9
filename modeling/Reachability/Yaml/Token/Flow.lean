import Reachability.Hexadecimal
import Reachability.Yaml.Cursor
import Reachability.Yaml.Token

/-!
# Plain and quoted scalars

A plain scalar ends before a comment, a key indicator, a line with too little indentation
or, inside brackets, one of the flow indicators. A quoted scalar ends at its quote; in
double quotes a backslash starts an escape. In both a run of white space with line breaks
in it is folded.
-/
namespace Reachability.Yaml.Token

/-- The characters that a backslash and a letter stand for. -/
def escapes : List (Char × Char) := [
  ('0', '\x00'), ('a', '\x07'), ('b', '\x08'), ('t', '\x09'), ('\t', '\x09'),
  ('n', '\x0a'), ('v', '\x0b'), ('f', '\x0c'), ('r', '\x0d'), ('e', '\x1b'),
  (' ', ' '), ('"', '"'), ('/', '/'), ('\\', '\\'), ('N', '\u0085'),
  ('_', '\u00a0'), ('L', '\u2028'), ('P', '\u2029')]

/-- How many hexadecimal digits follow such a letter. -/
def escapeWidth? : Char → Option Nat
  | 'x' => some 2
  | 'u' => some 4
  | 'U' => some 8
  | _ => none

/-- Reads an escape after its backslash. -/
def escape (start : Mark) (c : Cursor) : Except Error (Char × Cursor) :=
  let fail (problem : Problem) (c : Cursor) : Except Error (Char × Cursor) :=
    .error (.malformed problem c.mark (some (.quotedEscape, start)))
  match c.at? 1 with
  | none => fail .unknownEscape c
  | some letter =>
    match escapes.lookup letter, escapeWidth? letter with
    | some char, _ => .ok (char, c.skip 2)
    | none, none => fail .unknownEscape c
    | none, some width =>
      let c := c.skip 2
      let found := c.rest.take width
      if found.length < width || !found.all Hexadecimal.isDigit then fail .noHexadecimal c
      else
        let n := Hexadecimal.value found
        if n.isValidChar then .ok (.ofNat n, c.skip width) else fail .badCodePoint c

/-- Reads a quoted scalar behind its opening quote. The text read so far is in reverse. -/
def quotedText (isSingle : Bool) (start : Mark) :
    (fuel : Nat) → Cursor → List Char → Except Error (List Char × Cursor)
  | 0, c, out => .ok (out, c)
  | fuel + 1, c, out =>
    let fail (problem : Problem) : Except Error (List Char × Cursor) :=
      .error (.malformed problem c.mark (some (.quotedScalar, start)))
    if c.isDocumentIndicator then fail .documentIndicator
    else
      match c.rest with
      | [] => fail .endOfStream
      | x :: rest =>
        if endsWord (some x) then
          let (blanks, breaks, c) := Cursor.gap c.rest c.mark
          quotedText isSingle start fuel c ((Cursor.folded blanks breaks).reverse ++ out)
        else if isSingle && x == '\'' then
          if rest.head? == some '\'' then quotedText isSingle start fuel (c.skip 2) ('\'' :: out)
          else .ok (out, c.skip)
        else if !isSingle && x == '"' then .ok (out, c.skip)
        else if !isSingle && x == '\\' then
          if rest.head?.any isBreak then
            let c := c.skip.skipBreak
            let (_, breaks, c) := Cursor.gap c.rest c.mark
            quotedText isSingle start fuel c (breaks.reverse ++ out)
          else do
            let (char, c) ← escape start c
            quotedText isSingle start fuel c (char :: out)
        else quotedText isSingle start fuel c.skip (x :: out)

/-- Reads a quoted scalar. -/
def quoted (isSingle : Bool) (c : Cursor) : Except Error (Token × Cursor) := do
  let (out, after) ← quotedText isSingle c.mark (c.rest.length + 1) c.skip []
  let style := if isSingle then Style.singleQuoted else .doubleQuoted
  return (⟨.scalar style (.ofList out.reverse), c.mark, after.mark⟩, after)

/-- The characters that end a plain scalar inside brackets. -/
def isFlowIndicator (c : Char) : Bool :=
  c == ',' || c == '[' || c == ']' || c == '\x7b' || c == '\x7d'

/-- Whether a colon stands where a plain scalar inside brackets may not have one. -/
def isStrayColon (isFlow : Bool) (x : Char) (next : Option Char) : Bool :=
  isFlow && x == ':' && next.any fun y => isFlowIndicator y || y == '?'

/-- Whether a plain scalar ends before a character. -/
def endsPlain (isFlow : Bool) (x : Char) (next : Option Char) : Bool :=
  endsWord (some x) || isStrayColon isFlow x next ||
    (x == ':' && endsWord next) || (isFlow && isFlowIndicator x)

/-- The part of a plain scalar before the next blank. -/
def plainWord (isFlow : Bool) : List Char → List Char
  | [] => []
  | x :: rest => if endsPlain isFlow x rest.head? then [] else x :: plainWord isFlow rest

/-- A plain scalar as far as it has been read. -/
structure PlainText where
  /-- The text in reverse. -/
  out : List Char := []
  finish : Mark
  /-- What the white space behind the text leaves in it if the scalar goes on. -/
  pending : List Char := []
  /-- Whether that white space contains a line break. -/
  hasBreak : Bool := false

/-- Reads a plain scalar whose continuation lines have at least `column` characters before
them. -/
def plainText (isFlow : Bool) (column : Nat) (start : Mark) :
    (fuel : Nat) → Cursor → PlainText → Except Error (PlainText × Cursor)
  | 0, c, t => .ok (t, c)
  | fuel + 1, c, t =>
    if c.isDocumentIndicator || c.isAt '#' then .ok (t, c)
    else
      let word := plainWord isFlow c.rest
      let behind := c.skip word.length
      let t : PlainText :=
        if word.isEmpty then t
        else { out := word.reverse ++ t.pending.reverse ++ t.out, finish := behind.mark }
      let fail (problem : Problem) (place : Mark) : Except Error (PlainText × Cursor) :=
        .error (.malformed problem place (some (.plainScalar, start)))
      match behind.rest with
      | [] => .ok (t, behind)
      | x :: rest =>
        if isStrayColon isFlow x rest.head? then fail .unexpectedColon behind.mark
        else if !endsWord (some x) then .ok (t, behind)
        else
          match Cursor.tabBefore? column false behind.rest behind.mark with
          | some place => fail .tabBelowIndentation place
          | none =>
            let (blanks, breaks, c) := Cursor.gap behind.rest behind.mark
            let t := { t with
              pending := Cursor.folded blanks breaks
              hasBreak := !breaks.isEmpty }
            if !isFlow && c.mark.column < column then .ok (t, c)
            else plainText isFlow column start fuel c t

/-- Reads a plain scalar and tells whether it ended on a later line. -/
def plain (isFlow : Bool) (column : Nat) (c : Cursor) :
    Except Error (Token × Bool × Cursor) := do
  let (t, after) ←
    plainText isFlow column c.mark (c.rest.length + 1) c { finish := c.mark }
  return (⟨.scalar .plain (.ofList t.out.reverse), c.mark, t.finish⟩, t.hasBreak, after)

end Reachability.Yaml.Token
