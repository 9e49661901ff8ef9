import Reachability.Proofs.Verdict.Status
import Reachability.Proofs.Verdict.Steps

/-!
# Findings and the reasons that verdicts give

A verdict is passed on a finding: a target, and what became of the attempts to reach it. The
reason that a verdict gives is that of the attempt at the target itself. So every verdict that is
no success tells why, but for that on a cluster which was reached and did not show its health.
-/
namespace Reachability

/-- What a verdict is passed on. -/
inductive Finding
  | tcp (host : String) (port : UInt16) (outcome : Outcome)
  | udp (host : String) (port : UInt16) (outcome : Outcome)
  /-- A cluster, with the outcome of the attempt at its health if there was one. -/
  | elasticsearch (url : String) (base : Outcome) (health : Option Outcome)
      (credentials : Credentials)
  | mqtt (host : String) (port : UInt16) (outcome : Outcome) (credentials : Credentials)
deriving DecidableEq

namespace Finding

/-- The verdict on a finding. -/
def verdict (timestamp : Nat) : Finding → Verdict
  | .tcp host port outcome => .ofTcp host port outcome timestamp
  | .udp host port outcome => .ofUdp host port outcome timestamp
  | .elasticsearch url base health credentials =>
    .ofElasticsearch url base health credentials timestamp
  | .mqtt host port outcome credentials => .ofMqtt host port outcome credentials timestamp

def primary : Finding → Outcome
  | .tcp _ _ outcome | .udp _ _ outcome | .mqtt _ _ outcome _ => outcome
  | .elasticsearch _ base _ _ => base

def secondary? : Finding → Option Outcome
  | .tcp .. | .udp .. | .mqtt .. => none
  | .elasticsearch _ _ health _ => health

/-- The failure that keeps a finding from being a success: that of the primary attempt, or that
of the secondary one if only that failed. -/
def failure? (f : Finding) : Option Failure :=
  f.primary.failure.or (f.secondary?.bind (·.failure))

/-- Holds of a cluster that was reached and did not show its health. -/
def IsDegraded : Finding → Prop
  | .tcp .. | .udp .. | .mqtt .. => False
  | .elasticsearch _ base health _ =>
    base.isSuccess = true ∧ health.any Outcome.isSuccess = false

end Finding

def Verdict.reason? (v : Verdict) : Option String := v.details.get? "failure_reason"

theorem Verdict.reason?_eq (v : Verdict) : v.reason? = v.detail? "failure_reason" := rfl

theorem Outcome.failure_of_isSuccess {o : Outcome} (h : o.isSuccess = true) : o.failure = none :=
  Option.isNone_iff_eq_none.mp h

theorem Outcome.exists_failure {o : Outcome} (h : o.isSuccess = false) :
    ∃ failure, o.failure = some failure := by
  apply Option.isSome_iff_exists.mp
  rw [← Option.not_isNone, Bool.not_eq_true']
  exact h

namespace Finding

theorem reason?_verdict (f : Finding) (timestamp : Nat) :
    (f.verdict timestamp).reason? = f.primary.failure.map Failure.message := by
  rw [Verdict.reason?_eq]
  cases f with
  | tcp | udp | elasticsearch | mqtt =>
    simp only [verdict, primary, Verdict.ofTcp, Verdict.ofUdp, Verdict.ofElasticsearch,
      Verdict.ofMqtt]
    split
    · next h => simp [Outcome.failure_of_isSuccess h]
    · simp

/-- A verdict is a success if the primary attempt succeeded, and for a cluster the health too. -/
theorem status_verdict_eq_success (f : Finding) (timestamp : Nat) :
    (f.verdict timestamp).status = .success ↔ f.primary.isSuccess = true ∧ ¬ f.IsDegraded := by
  cases f with
  | tcp | udp | mqtt =>
    simp only [verdict, primary, IsDegraded, Verdict.status_ofTcp, Verdict.status_ofUdp,
      Verdict.status_ofMqtt]
    split <;> simp [*]
  | elasticsearch url base health credentials =>
    simp only [verdict, primary, IsDegraded, Verdict.status_ofElasticsearch]
    cases base.isSuccess
    · simp
    · cases health.any Outcome.isSuccess <;> simp

/-- Holds if the verdict on a finding gives the failure behind it as its reason, and none if it is
a success. -/
def TellsReason (f : Finding) (timestamp : Nat) : Prop :=
  ((f.verdict timestamp).status = .success → (f.verdict timestamp).reason? = none) ∧
  ((f.verdict timestamp).status ≠ .success →
    ∃ failure, f.failure? = some failure ∧ (f.verdict timestamp).reason? = some failure.message)

/-- The reason of a verdict is that of the primary attempt. That is the failure behind the verdict,
whatever it is, unless a cluster was reached and did not show its health. -/
theorem reason_told_unless_degraded (f : Finding) (timestamp : Nat) :
    (f.verdict timestamp).reason? = f.primary.failure.map Failure.message ∧
    (f.TellsReason timestamp ↔ ¬ f.IsDegraded) := by
  refine ⟨reason?_verdict f timestamp, ?_⟩
  rw [TellsReason, ne_eq, status_verdict_eq_success, reason?_verdict]
  cases hprimary : f.primary.isSuccess with
  | true =>
    have hnone := Outcome.failure_of_isSuccess hprimary
    simp [hnone]
  | false =>
    obtain ⟨failure, hfailure⟩ := Outcome.exists_failure hprimary
    have hwhole : ¬ f.IsDegraded := by
      cases f with
      | tcp | udp | mqtt => exact id
      | elasticsearch url base health credentials =>
        rintro ⟨hbase, -⟩
        rw [primary, hbase] at hprimary
        cases hprimary
    simp [failure?, hfailure, hwhole]

/-- A cluster that was reached and then refused the connection for its health: the verdict is a
warning without a reason. -/
theorem degraded_without_reason :
    let refused : Failure := .connect (.os 111)
    let f : Finding :=
      .elasticsearch "http://localhost:9200" (.success 10) (some (.failed 5 refused)) {}
    f.failure? = some refused ∧ (f.verdict 0).status = .warning ∧
      (f.verdict 0).details.contains "failure_reason" = false :=
  ⟨rfl, rfl, rfl⟩

end Finding

end Reachability
