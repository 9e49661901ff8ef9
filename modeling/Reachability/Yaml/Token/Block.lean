import Reachability.Yaml.Cursor
import Reachability.Yaml.Token

/-!
# Block scalars

A bar or a greater-than sign opens a scalar whose lines are indented more than the
collection around it. A header may fix the indentation and say what becomes of the line
breaks at the end; without one the first line with text decides the indentation and one
break is kept. Lines after a greater-than sign are folded, other than those that begin
with a blank.
-/
namespace Reachability.Yaml.Token

/-- What becomes of the line breaks at the end of a block scalar. -/
inductive Chomping
  | strip
  | clip
  | keep
deriving DecidableEq, Inhabited

namespace Block

structure Header where
  chomping : Chomping := .clip
  /-- How much deeper than the collection around it the scalar stands, if that is written. -/
  indentation : Option Nat := none

def fault (problem : Problem) (start : Mark) (c : Cursor) : Error :=
  .malformed problem c.mark (some (.blockScalar, start))

def chomping (c : Cursor) : Chomping × Cursor :=
  match c.head? with
  | some '+' => (.keep, c.skip)
  | some '-' => (.strip, c.skip)
  | _ => (.clip, c)

def indentation (start : Mark) (c : Cursor) : Except Error (Option Nat × Cursor) :=
  match c.head?.bind Decimal.digit? with
  | none => .ok (none, c)
  | some 0 => .error (fault .zeroIndentation start c)
  | some n => .ok (some n, c.skip)

/-- Reads the two marks behind the opening character, in either order. -/
def header (start : Mark) (c : Cursor) : Except Error (Header × Cursor) := do
  let (first, c) := chomping c
  let (indentation, c) ← indentation start c
  let (chomping, c) := if first == .clip && indentation.isSome then chomping c else (first, c)
  return ({ chomping, indentation }, c)

/-- Steps over what may follow the header on its line. -/
def lineEnd (start : Mark) (c : Cursor) : Except Error Cursor :=
  let c := c.skipWhile isSpace
  let c := if c.isAt '#' then c.skipLine else c
  match c.head? with
  | none => .ok c
  | some x => if isBreak x then .ok c.skipBreak else .error (fault .noLineEnd start c)

/-- Steps over empty lines and the indentation of the next one. Without a column to stop at,
the deepest indentation is found on the way. The breaks are in reverse. -/
def emptyLines (start : Mark) (column : Option Nat) : (fuel : Nat) → Cursor → List Char →
    (deepest : Nat) → Except Error (List Char × Nat × Mark × Cursor)
  | 0, c, breaks, deepest => .ok (breaks, deepest, c.mark, c)
  | fuel + 1, line, breaks, deepest =>
    let spaces := (line.rest.takeWhile (· == ' ')).length
    let c := line.skip ((column.map (· - line.mark.column)).elim spaces (min spaces))
    let deepest := max deepest c.mark.column
    if c.isAt '\t' && column.all (c.mark.column < ·) then
      .error (fault .tabForIndentation start c)
    else
      match c.takeBreak? with
      | none => .ok (breaks, deepest, line.mark, c)
      | some (char, c) => emptyLines start column fuel c (char :: breaks) deepest

/-- The lines of a block scalar as far as they have been read. -/
structure Lines where
  /-- The text in reverse. -/
  out : List Char := []
  /-- The break of the last line with text. -/
  lastBreak : List Char := []
  /-- The breaks of the empty lines after it. -/
  emptyBreaks : List Char := []
  /-- Whether that line began with a blank. -/
  beganBlank : Bool := false
  finish : Mark

/-- What joins the lines read so far to one that begins with a blank or does not. -/
def Lines.joint (t : Lines) (isLiteral beginsBlank : Bool) : List Char :=
  if !isLiteral && t.lastBreak == ['\n'] && !t.beganBlank && !beginsBlank then
    if t.emptyBreaks.isEmpty then [' '] else t.emptyBreaks
  else t.lastBreak ++ t.emptyBreaks

/-- Reads the lines that stand at the given column. -/
def lines (isLiteral : Bool) (start : Mark) (column : Nat) :
    (fuel : Nat) → Cursor → Lines → Except Error (Lines × Cursor)
  | 0, c, t => .ok (t, c)
  | fuel + 1, c, t =>
    if c.mark.column != column || c.rest.isEmpty then .ok (t, c)
    else do
      let beginsBlank := c.satisfies isSpace
      let (text, c) := c.takeWhile (!isBreak ·)
      let (lastBreak, c) := match c.takeBreak? with
        | some (char, c) => ([char], c)
        | none => ([], c)
      let (breaks, _, finish, c) ← emptyLines start (some column) (c.rest.length + 1) c [] 0
      lines isLiteral start column fuel c
        { out := text.reverse ++ (t.joint isLiteral beginsBlank).reverse ++ t.out
          lastBreak, emptyBreaks := breaks.reverse, beganBlank := beginsBlank, finish }

end Block

/-- Reads a block scalar inside a collection at the column `outer`, which is negative outside
of all collections. -/
def block (isLiteral : Bool) (outer : Int) (c : Cursor) : Except Error (Token × Cursor) := do
  let start := c.mark
  let (header, c) ← Block.header start c.skip
  let c ← Block.lineEnd start c
  let given := header.indentation.map fun n => (max outer 0).toNat + n
  let (breaks, deepest, finish, c) ←
    Block.emptyLines start given (c.rest.length + 1) c [] 0
  let column := given.getD (max deepest (max (outer + 1).toNat 1))
  let (t, after) ← Block.lines isLiteral start column (c.rest.length + 1) c
    { emptyBreaks := breaks.reverse, finish }
  let ending := match header.chomping with
    | .strip => []
    | .clip => t.lastBreak
    | .keep => t.lastBreak ++ t.emptyBreaks
  let style := if isLiteral then Style.literal else .folded
  return (⟨.scalar style (.ofList (t.out.reverse ++ ending)), start, t.finish⟩, after)

end Reachability.Yaml.Token
