import Reachability.Verdict.Details
import Reachability.Verdict.Status
import Reachability.Json.Compact

/-!
# Verdicts

What a connectivity test says about its target: a status, the time of the attempt,
the target as it was given, details, errors and suggestions.
-/
namespace Reachability

structure Verdict where
  status : Status
  responseTimeMs : Nat
  targetHost : String
  targetPort : UInt16
  details : Details := .empty
  errors : List String := []
  suggestions : List String := []
  /-- Seconds since 1970 when the verdict was made. -/
  timestamp : Nat
deriving DecidableEq, Inhabited

namespace Verdict

def withDetail (v : Verdict) (key value : String) : Verdict :=
  { v with details := v.details.insert key value }

def withError (v : Verdict) (error : String) : Verdict :=
  { v with errors := v.errors ++ [error] }

def withSuggestion (v : Verdict) (suggestion : String) : Verdict :=
  { v with suggestions := v.suggestions ++ [suggestion] }

def toJson (v : Verdict) : Json :=
  .object [
    ("status", .text v.status.text),
    ("response_time_ms", .natural v.responseTimeMs),
    ("target_host", .text v.targetHost),
    ("target_port", .natural v.targetPort.toNat),
    ("details", v.details.toJson),
    ("errors", .array (v.errors.map .text)),
    ("suggestions", .array (v.suggestions.map .text)),
    ("timestamp", .natural v.timestamp)]

end Verdict

end Reachability
