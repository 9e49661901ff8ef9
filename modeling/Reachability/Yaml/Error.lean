import Reachability.Yaml.Mark
import Reachability.Yaml.Problem

/-!
# Why a document cannot be read

A text may not be a document at all, its document may use an alias without an anchor or
be one of several, or it may hold other values than are asked for.
-/
namespace Reachability.Yaml

/-- How a value differs from the one that was asked for. -/
inductive Mismatch
  | type (found expected : String)
  | value (found expected : String)
  | duplicate (field : String)
  | rejected (reason : String)
deriving DecidableEq, Inhabited

namespace Mismatch

def message : Mismatch → String
  | .type found expected => "invalid type: " ++ found ++ ", expected " ++ expected
  | .value found expected => "invalid value: " ++ found ++ ", expected " ++ expected
  | .duplicate field => "duplicate field \x60" ++ field ++ "\x60"
  | .rejected reason => reason

end Mismatch

inductive Error
  /-- A character that no document may hold, after so many bytes. -/
  | controlCharacter (offset : Nat)
  | malformed (problem : Problem) (place : Mark) (during : Option (Activity × Mark))
  | unknownAnchor (place : Mark)
  | severalDocuments
  | endOfStream
  /-- The path is empty for the whole document. -/
  | unexpected (path : String) (mismatch : Mismatch) (place : Mark)
deriving DecidableEq, Inhabited

namespace Error

/-- The activity, and where it began if the message does not name that place already. -/
def activityText (place : Mark) : Option (Activity × Mark) → String
  | none => ""
  | some (activity, start) =>
    ", " ++ activity.message ++ if start.coincides place then "" else start.suffix

def message : Error → String
  | .controlCharacter offset =>
    "control characters are not allowed" ++
      if offset = 0 then "" else " at position " ++ Decimal.text offset
  | .malformed problem place during =>
    problem.message ++ place.suffix ++ activityText place during
  | .unknownAnchor place => "unknown anchor" ++ place.suffix
  | .severalDocuments =>
    "deserializing from YAML containing more than one document is not supported"
  | .endOfStream => "EOF while parsing a value"
  | .unexpected path mismatch place =>
    (if path.isEmpty then "" else path ++ ": ") ++ mismatch.message ++ place.suffix

end Error

end Reachability.Yaml
