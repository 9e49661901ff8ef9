import Reachability.Yaml.Mark

/-!
# Walking through a document

A cursor stands before the rest of a text and knows its place. Lines end in a line feed,
a carriage return, both, or one of three Unicode characters; all but the last two of
these become a line feed when they belong to a text.
-/
namespace Reachability.Yaml

/-- A space or a tab. -/
def isSpace (c : Char) : Bool := c == ' ' || c == '\t'

/-- The separators that stay what they are: U+2028 and U+2029. -/
def isSeparator (c : Char) : Bool := c == '\u2028' || c == '\u2029'

def isBreak (c : Char) : Bool :=
  c == '\n' || c == '\r' || c == '\u0085' || isSeparator c

/-- Whether a word ends before this character; it ends before the end of the text, too. -/
def endsWord : Option Char → Bool
  | none => true
  | some c => isSpace c || isBreak c

/-- What stands for a line break in a text. -/
def normalBreak (c : Char) : Char := if isSeparator c then c else '\n'

structure Cursor where
  rest : List Char
  mark : Mark := {}
deriving DecidableEq, Inhabited

namespace Cursor

def head? (c : Cursor) : Option Char := c.rest.head?

def at? (c : Cursor) (n : Nat) : Option Char := c.rest[n]?

/-- Whether the next character is the given one. -/
def isAt (c : Cursor) (x : Char) : Bool := c.head? == some x

/-- Whether the next character has a property. -/
def satisfies (c : Cursor) (p : Char → Bool) : Bool := c.head?.any p

/-- Steps over characters of one line. -/
def skip (c : Cursor) (n : Nat := 1) : Cursor :=
  ⟨c.rest.drop n, { c.mark with index := c.mark.index + n, column := c.mark.column + n }⟩

/-- Steps over the characters that have a property no line break has. -/
def takeWhile (p : Char → Bool) (c : Cursor) : List Char × Cursor :=
  let taken := c.rest.takeWhile p
  (taken, c.skip taken.length)

def skipWhile (p : Char → Bool) (c : Cursor) : Cursor := (c.takeWhile p).2

/-- The start of the next line, after a break of so many characters. -/
def newLine (m : Mark) (width : Nat) : Mark := ⟨m.index + width, m.line + 1, 0⟩

/-- Steps over one line break and says what stands for it in a text. -/
def takeBreak? (c : Cursor) : Option (Char × Cursor) :=
  match c.rest with
  | '\r' :: '\n' :: cs => some ('\n', ⟨cs, newLine c.mark 2⟩)
  | x :: cs => if isBreak x then some (normalBreak x, ⟨cs, newLine c.mark 1⟩) else none
  | [] => none

/-- Steps over one line break, if there is one. -/
def skipBreak (c : Cursor) : Cursor := (c.takeBreak?.map (·.2)).getD c

/-- The rest of the line without its break. -/
def skipLine (c : Cursor) : Cursor := c.skipWhile (!isBreak ·)

/-- Whether a line begins here with three given characters that are a word of their own. -/
def isLineOf (x : Char) (c : Cursor) : Bool :=
  c.mark.column == 0 && [x, x, x].isPrefixOf c.rest && endsWord (c.at? 3)

/-- Whether `---` or `...` stands here, which no scalar contains. -/
def isDocumentIndicator (c : Cursor) : Bool := c.isLineOf '-' || c.isLineOf '.'

/-- A run of spaces, tabs and line breaks: what stands before the first break, the breaks,
and the cursor behind. -/
def gap (rest : List Char) (mark : Mark) : List Char × List Char × Cursor :=
  match rest with
  | '\r' :: '\n' :: cs =>
    let (_, breaks, c) := gap cs (newLine mark 2)
    ([], '\n' :: breaks, c)
  | x :: cs =>
    if isBreak x then
      let (_, breaks, c) := gap cs (newLine mark 1)
      ([], normalBreak x :: breaks, c)
    else if isSpace x then
      let (blanks, breaks, c) :=
        gap cs { mark with index := mark.index + 1, column := mark.column + 1 }
      (x :: blanks, breaks, c)
    else ([], [], ⟨rest, mark⟩)
  | [] => ([], [], ⟨rest, mark⟩)

/-- The first tab of such a run that stands after a break and before a column. -/
def tabBefore? (column : Nat) (afterBreak : Bool) (rest : List Char) (mark : Mark) :
    Option Mark :=
  match rest with
  | '\r' :: '\n' :: cs => tabBefore? column true cs (newLine mark 2)
  | x :: cs =>
    if isBreak x then tabBefore? column true cs (newLine mark 1)
    else if isSpace x then
      if afterBreak && x == '\t' && mark.column < column then some mark
      else
        tabBefore? column afterBreak cs
          { mark with index := mark.index + 1, column := mark.column + 1 }
    else none
  | [] => none

/-- What a run of blanks and breaks leaves in a text: the blanks of a run without breaks, a
space for a single line feed, and otherwise the breaks after a line feed. -/
def folded (blanks : List Char) : (breaks : List Char) → List Char
  | [] => blanks
  | ['\n'] => [' ']
  | '\n' :: breaks => breaks
  | breaks => breaks

end Cursor

end Reachability.Yaml
