import Reachability.Probe

/-!
# The status of a verdict

A verdict is a success or an error. Over UDP what fails is a warning, and so is a cluster that
is reached and does not show its health. No verdict has any other status, whatever the network
did.
-/
namespace Reachability

namespace Verdict

section

variable (v : Verdict) (s t : String) (outcome : Outcome)

@[simp] theorem status_start (status : Status) (host : String) (port : UInt16)
    (timestamp : Nat) : (start status host port outcome timestamp).status = status := rfl

@[simp] theorem status_withDetail : (v.withDetail s t).status = v.status := rfl

@[simp] theorem status_withError : (v.withError s).status = v.status := rfl

@[simp] theorem status_withSuggestion : (v.withSuggestion s).status = v.status := rfl

@[simp] theorem status_withFailureReason :
    (v.withFailureReason outcome).status = v.status := by
  unfold withFailureReason
  split <;> simp

@[simp] theorem status_withHealth (health : Option Outcome) :
    (v.withHealth health).status =
      if health.any Outcome.isSuccess then v.status else .warning := by
  unfold withHealth
  split <;> simp

@[simp] theorem status_withPerformance (elapsedMs : Nat) :
    (v.withPerformance elapsedMs).status = v.status := by
  simp only [withPerformance]
  split <;> simp

end

section

variable (host url : String) (port : UInt16) (outcome : Outcome) (health : Option Outcome)
  (credentials : Credentials) (timestamp : Nat)

theorem status_ofTcp :
    (ofTcp host port outcome timestamp).status =
      if outcome.isSuccess then .success else .error := by
  unfold ofTcp
  split <;> simp

theorem status_ofUdp :
    (ofUdp host port outcome timestamp).status =
      if outcome.isSuccess then .success else .warning := by
  unfold ofUdp
  split <;> simp

theorem status_ofElasticsearch :
    (ofElasticsearch url outcome health credentials timestamp).status =
      if outcome.isSuccess then
        if health.any Outcome.isSuccess then .success else .warning
      else .error := by
  unfold ofElasticsearch
  split <;> simp

theorem status_ofMqtt :
    (ofMqtt host port outcome credentials timestamp).status =
      if outcome.isSuccess then .success else .error := by
  unfold ofMqtt
  split <;> simp

end

end Verdict

/-- Holds of the statuses that a verdict can have. -/
def Status.IsSettled (status : Status) : Prop :=
  status = .success ∨ status = .warning ∨ status = .error

/-- Every probe that runs ends in a success, a warning or an error. -/
theorem Probe.isSettled_run {σ : Type} (net : Network σ) (p : Probe) (s : σ) :
    (p.measure.run net s).status.IsSettled := by
  cases p with
  | tcp | udp | mqtt =>
    simp only [measure, Program.run, Program.trace_bind, Program.trace_pure, Verdict.status_ofTcp,
      Verdict.status_ofUdp, Verdict.status_ofMqtt]
    split <;> simp [Status.IsSettled]
  | elasticsearch url credentials timeout =>
    simp only [measure, Program.run, Program.trace_bind, Program.trace_pure,
      Verdict.status_ofElasticsearch]
    split
    · split <;> simp [Status.IsSettled]
    · simp [Status.IsSettled]

end Reachability
