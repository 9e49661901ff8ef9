/-!
# Status of a verdict

The five statuses in order of severity.
-/
namespace Reachability

inductive Status
  | success
  | warning
  | error
  | timeout
  | unknown
deriving DecidableEq, Inhabited

namespace Status

/-- The place in the order of severity, the mildest first. -/
def severity : Status → Nat
  | .success => 0
  | .warning => 1
  | .error => 2
  | .timeout => 3
  | .unknown => 4

instance : LE Status := ⟨fun a b => a.severity ≤ b.severity⟩

instance : LT Status := ⟨fun a b => a.severity < b.severity⟩

instance (a b : Status) : Decidable (a ≤ b) :=
  inferInstanceAs (Decidable (a.severity ≤ b.severity))

instance (a b : Status) : Decidable (a < b) :=
  inferInstanceAs (Decidable (a.severity < b.severity))

/-- The name that results carry. -/
def text : Status → String
  | .success => "success"
  | .warning => "warning"
  | .error => "error"
  | .timeout => "timeout"
  | .unknown => "unknown"

/-- The most severe of a list. -/
def worst? : List Status → Option Status
  | [] => none
  | s :: rest =>
    match worst? rest with
    | none => some s
    | some t => some (if s ≤ t then t else s)

/-- The mildest of a list. -/
def mildest? : List Status → Option Status
  | [] => none
  | s :: rest =>
    match mildest? rest with
    | none => some s
    | some t => some (if s ≤ t then s else t)

/-- The list in ascending severity. -/
def sorted (l : List Status) : List Status := l.mergeSort (· ≤ ·)

end Status

end Reachability
