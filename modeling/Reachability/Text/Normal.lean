import Reachability.Text.Ascii
import Reachability.Text.Normal.Tables

/-!
# Canonical composition

Two texts that look the same may be spelled with different characters. Normal form C
takes every character apart, sorts the marks that do not touch each other by their
class, and joins again what has a character of its own.
-/
namespace Reachability.Text.Normal

/-- The class of a mark; 0 for a character that starts anew. -/
def combiningClass (c : Char) : Nat := (classTable.value? c.toNat).getD 0

/-- The parts of a Hangul syllable. -/
def hangulParts? (c : Char) : Option (List Char) :=
  let n := c.toNat - 0xAC00
  if 0xAC00 ≤ c.toNat ∧ c.toNat ≤ 0xD7A3 then
    let lead := Char.ofNat (0x1100 + n / 588)
    let vowel := Char.ofNat (0x1161 + n % 588 / 28)
    some (if n % 28 = 0 then [lead, vowel] else [lead, vowel, Char.ofNat (0x11A7 + n % 28)])
  else none

/-- The characters that one is made of. No character before U+00C0 is made of others. -/
def parts (c : Char) : List Char :=
  if c.toNat < 0xC0 then [c]
  else
    match hangulParts? c with
    | some l => l
    | none => (decompositionTable.value? c.toNat).getD [c]

/-- Puts a mark in front of a sorted run, behind the marks of a lower class. -/
def insertMark (c : Char) : List Char → List Char
  | [] => [c]
  | d :: rest =>
    if 0 < combiningClass d ∧ combiningClass d < combiningClass c then d :: insertMark c rest
    else c :: d :: rest

/-- Sorts each run of marks by class and keeps the order within a class. -/
def sortMarks : List Char → List Char
  | [] => []
  | c :: rest =>
    if combiningClass c = 0 then c :: sortMarks rest else insertMark c (sortMarks rest)

/-- The syllable of a lead and a vowel, or of a syllable and a trail. -/
def hangulPair? (a b : Char) : Option Char :=
  let l := a.toNat - 0x1100
  let v := b.toNat - 0x1161
  if 0x1100 ≤ a.toNat ∧ l < 19 ∧ 0x1161 ≤ b.toNat ∧ v < 21 then
    some (Char.ofNat (0xAC00 + (l * 21 + v) * 28))
  else if 0xAC00 ≤ a.toNat ∧ a.toNat ≤ 0xD7A3 ∧ (a.toNat - 0xAC00) % 28 = 0 ∧
      0x11A7 < b.toNat ∧ b.toNat < 0x11C3 then
    some (Char.ofNat (a.toNat + (b.toNat - 0x11A7)))
  else none

/-- Whether there are characters that make up another with this one in front: of ASCII only the
letters and three signs do. -/
def mayLead (c : Char) : Bool :=
  !isAscii c || isAsciiLetter c || c == '<' || c == '=' || c == '>'

/-- The character that two others make up. What joins another stands from U+0300 on. -/
def pair? (a b : Char) : Option Char :=
  if mayLead a && 0x300 ≤ b.toNat then
    match hangulPair? a b with
    | some c => some c
    | none => (compositionTable.value? a.toNat).bind (·.lookup b)
  else none

/-- Joins the characters that follow a starter with it. `pending` holds, in reverse, those
that stay apart from it; one that comes after them joins only if its class is higher. -/
def composeAfter (starter : Char) (pending : List Char) : List Char → List Char
  | [] => starter :: pending.reverse
  | c :: rest =>
    let isFree := match pending with
      | [] => true
      | last :: _ => combiningClass last < combiningClass c
    match (if isFree then pair? starter c else none) with
    | some joined => composeAfter joined pending rest
    | none =>
      if combiningClass c = 0 then starter :: (pending.reverse ++ composeAfter c [] rest)
      else composeAfter starter (c :: pending) rest

/-- Joins what can be joined; marks before the first starter stay. -/
def compose : List Char → List Char
  | [] => []
  | c :: rest => if combiningClass c = 0 then composeAfter c [] rest else c :: compose rest

/-- Normal form C. -/
def composed (cs : List Char) : List Char := compose (sortMarks (cs.flatMap parts))

end Reachability.Text.Normal
