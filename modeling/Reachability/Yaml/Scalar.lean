/-!
# Scalars as they stand in a document
-/
namespace Reachability.Yaml

/-- How a scalar is written. -/
inductive Style
  | plain
  | singleQuoted
  | doubleQuoted
  | literal
  | folded
deriving DecidableEq, Inhabited

/-- The text of a scalar, line breaks and escapes resolved, with its tag. -/
structure Scalar where
  tag : Option String := none
  style : Style := .plain
  text : String
deriving DecidableEq, Inhabited

/-- Where a document leaves out a value. -/
def Scalar.empty : Scalar := { text := "" }

/-- Whether nothing is written at all. -/
def Scalar.isAbsent (s : Scalar) : Bool := s.style == .plain && s.text.isEmpty

end Reachability.Yaml
