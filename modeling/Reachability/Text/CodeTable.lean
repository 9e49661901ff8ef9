import Reachability.Hexadecimal

/-!
# Properties of characters as tables

A property of characters is kept as a sorted table of code point ranges, each with a
value. The table is written in lines of items with blanks between them: `a-b` stands
for the code points from `a` to `b` and `a` for one alone, in hexadecimal, and what
follows spells the value. A search halves the table until the range is found.
-/
namespace Reachability.Text

/-- The code points from the first to the last, and the value that they share. -/
structure CodeRow (α : Type) where
  first : Nat
  last : Nat
  value : α

/-- A table of disjoint ranges in ascending order. -/
structure CodeTable (α : Type) where
  rows : Array (CodeRow α)

namespace CodeTable

/-- Reads one item; `read` spells out its value. -/
def rowOfChars (read : List Char → α) (cs : List Char) : CodeRow α :=
  let first := cs.takeWhile Hexadecimal.isDigit
  let rest := cs.dropWhile Hexadecimal.isDigit
  match rest with
  | '-' :: rest =>
    let last := rest.takeWhile Hexadecimal.isDigit
    ⟨Hexadecimal.value first, Hexadecimal.value last,
      read (rest.dropWhile Hexadecimal.isDigit)⟩
  | _ => ⟨Hexadecimal.value first, Hexadecimal.value first, read rest⟩

/-- Reads the written form. -/
def ofLines (read : List Char → α) (lines : List String) : CodeTable α :=
  ⟨(lines.flatMap fun line =>
    (line.splitOn " ").map fun item => rowOfChars read item.toList).toArray⟩

/-- Searches the positions from `low` up to, but not including, `high`. -/
def findBetween? (t : CodeTable α) (n low high : Nat) : Option (CodeRow α) :=
  if _h : low < high then
    let middle := (low + high) / 2
    match t.rows[middle]? with
    | none => none
    | some row =>
      if n < row.first then t.findBetween? n low middle
      else if row.last < n then t.findBetween? n (middle + 1) high
      else some row
  else none
termination_by high - low

/-- The range that holds a code point. -/
def find? (t : CodeTable α) (n : Nat) : Option (CodeRow α) :=
  t.findBetween? n 0 t.rows.size

/-- The value of a code point. -/
def value? (t : CodeTable α) (n : Nat) : Option α := (t.find? n).map (·.value)

/-- Whether one of the ranges holds a code point. -/
def contains (t : CodeTable α) (n : Nat) : Bool := (t.find? n).isSome

end CodeTable

/-- A set of characters. -/
abbrev CodeRanges := CodeTable Unit

/-- Reads a table without values. -/
def CodeRanges.ofLines (lines : List String) : CodeRanges :=
  CodeTable.ofLines (fun _ => ()) lines

end Reachability.Text
