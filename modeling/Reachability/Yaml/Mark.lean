import Reachability.Decimal

/-!
# Places in a document
-/
namespace Reachability.Yaml

/-- A place in a text: the characters and the lines before it, and the characters before it on
its own line. -/
structure Mark where
  index : Nat := 0
  line : Nat := 0
  column : Nat := 0
deriving DecidableEq, Inhabited

namespace Mark

/-- The first place of a text, which messages leave out. -/
def isStart (m : Mark) : Bool := m.line == 0 && m.column == 0

/-- Whether two places have one line and one column. -/
def coincides (m n : Mark) : Bool := m.line == n.line && m.column == n.column

/-- Line and column, counted from one. -/
def toText (m : Mark) : String :=
  "line " ++ Decimal.text (m.line + 1) ++ " column " ++ Decimal.text (m.column + 1)

/-- The place as it ends a message, nothing for the first place of a text. -/
def suffix (m : Mark) : String := if m.isStart then "" else " at " ++ m.toText

end Mark

end Reachability.Yaml
