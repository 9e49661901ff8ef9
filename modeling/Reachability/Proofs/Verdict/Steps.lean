import Reachability.Proofs.Verdict.Details
import Reachability.Verdict.Classify

/-!
# The steps that make up a verdict

A verdict is started for its subject and then built step by step. Each step says something of
its own, and what the other steps have said stays as it is: the subject throughout, a detail
unless it is given again, and errors and suggestions in front of new ones.
-/
namespace Reachability.Verdict

/-- What a verdict is about: its target as it was given, with its port, and the time. -/
def subject (v : Verdict) : String × UInt16 × Nat := (v.targetHost, v.targetPort, v.responseTimeMs)

def detail? (v : Verdict) (name : String) : Option String := v.details.get? name

/-- The error of a cluster that was reached and did not show its health. -/
def healthError : String := "HTTP connection successful but Elasticsearch health endpoint failed"

def healthSuggestions : List String :=
  ["Verify this is an Elasticsearch server", "Check Elasticsearch authentication requirements"]

def slowSuggestion : String := "Consider network optimization for better performance"

variable (v : Verdict) (s t name : String) (status : Status) (outcome : Outcome)
  (health : Option Outcome) (elapsedMs : Nat)

section

variable (host : String) (port : UInt16) (timestamp : Nat)

@[simp] theorem subject_start :
    (start status host port outcome timestamp).subject = (host, port, outcome.elapsedMs) := rfl

@[simp] theorem detail?_start :
    (start status host port outcome timestamp).detail? name = none := rfl

@[simp] theorem errors_start : (start status host port outcome timestamp).errors = [] := rfl

@[simp] theorem suggestions_start :
    (start status host port outcome timestamp).suggestions = [] := rfl

end

/-! ## Details, errors and suggestions -/

@[simp] theorem subject_withDetail : (v.withDetail s t).subject = v.subject := rfl

@[simp] theorem detail?_withDetail :
    (v.withDetail s t).detail? name = if name = s then some t else v.detail? name :=
  v.details.get?_insert s t name

@[simp] theorem errors_withDetail : (v.withDetail s t).errors = v.errors := rfl

@[simp] theorem suggestions_withDetail : (v.withDetail s t).suggestions = v.suggestions := rfl

@[simp] theorem subject_withError : (v.withError s).subject = v.subject := rfl

@[simp] theorem detail?_withError : (v.withError s).detail? name = v.detail? name := rfl

@[simp] theorem errors_withError : (v.withError s).errors = v.errors ++ [s] := rfl

@[simp] theorem suggestions_withError : (v.withError s).suggestions = v.suggestions := rfl

@[simp] theorem subject_withSuggestion : (v.withSuggestion s).subject = v.subject := rfl

@[simp] theorem detail?_withSuggestion : (v.withSuggestion s).detail? name = v.detail? name := rfl

@[simp] theorem errors_withSuggestion : (v.withSuggestion s).errors = v.errors := rfl

@[simp] theorem suggestions_withSuggestion :
    (v.withSuggestion s).suggestions = v.suggestions ++ [s] := rfl

@[simp] theorem subject_setStatus : { v with status := status }.subject = v.subject := rfl

@[simp] theorem detail?_setStatus :
    { v with status := status }.detail? name = v.detail? name := rfl

/-! ## The reason of a failure -/

@[simp] theorem subject_withFailureReason :
    (v.withFailureReason outcome).subject = v.subject := by
  unfold withFailureReason
  split <;> simp

@[simp] theorem detail?_withFailureReason : (v.withFailureReason outcome).detail? name =
    if name = "failure_reason" then
      (outcome.failure.map Failure.message).or (v.detail? name)
    else v.detail? name := by
  unfold withFailureReason
  split
  · next h => simp [h]
  · next failure h => simp [h]

@[simp] theorem errors_withFailureReason : (v.withFailureReason outcome).errors = v.errors := by
  unfold withFailureReason
  split <;> simp

@[simp] theorem suggestions_withFailureReason :
    (v.withFailureReason outcome).suggestions = v.suggestions := by
  unfold withFailureReason
  split <;> simp

/-! ## The health and the performance of a cluster -/

@[simp] theorem subject_withHealth : (v.withHealth health).subject = v.subject := by
  unfold withHealth
  split <;> simp

/-- The health changes no details but its own. -/
@[simp] theorem detail?_withHealth (hhealth : name ≠ "elasticsearch_health")
    (haccess : name ≠ "cluster_accessible") :
    (v.withHealth health).detail? name = v.detail? name := by
  unfold withHealth
  split <;> simp [hhealth, haccess]

@[simp] theorem errors_withHealth : (v.withHealth health).errors =
    if health.any Outcome.isSuccess then v.errors else v.errors ++ [healthError] := by
  unfold withHealth
  split <;> simp [healthError]

@[simp] theorem suggestions_withHealth : (v.withHealth health).suggestions =
    if health.any Outcome.isSuccess then v.suggestions
    else v.suggestions ++ healthSuggestions := by
  unfold withHealth
  split <;> simp [healthSuggestions]

@[simp] theorem subject_withPerformance : (v.withPerformance elapsedMs).subject = v.subject := by
  simp only [withPerformance]
  split <;> simp

@[simp] theorem detail?_withPerformance : (v.withPerformance elapsedMs).detail? name =
    if name = "performance" then some (Performance.ofMilliseconds elapsedMs).text
    else v.detail? name := by
  simp only [withPerformance]
  split <;> simp

@[simp] theorem errors_withPerformance : (v.withPerformance elapsedMs).errors = v.errors := by
  simp only [withPerformance]
  split <;> simp

@[simp] theorem suggestions_withPerformance : (v.withPerformance elapsedMs).suggestions =
    if Performance.ofMilliseconds elapsedMs = .slow then v.suggestions ++ [slowSuggestion]
    else v.suggestions := by
  simp only [withPerformance]
  split <;> simp [slowSuggestion]

end Reachability.Verdict
