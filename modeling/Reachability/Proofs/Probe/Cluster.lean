import Reachability.Proofs.Probe.Contract
import Reachability.Proofs.Verdict.Coherence

/-!
# Clusters and their health

A cluster is tried at its URL, and at the URL of its health once it was reached. All that the
verdict takes from the second attempt is whether there was one that succeeded: how long it took
and why it failed is not told. The time, and with it the rating, is that of the first attempt.
-/
namespace Reachability

theorem Performance.ofMilliseconds_eq_slow {ms : Nat} : ofMilliseconds ms = .slow ↔ 1000 ≤ ms := by
  unfold ofMilliseconds
  split
  · simp
    omega
  · split <;> simp <;> omega

namespace Verdict

variable {url : String} {base : Outcome} {health other : Option Outcome}
  {credentials : Credentials} {timestamp : Nat}

theorem withHealth_congr (h : health.any Outcome.isSuccess = other.any Outcome.isSuccess)
    (v : Verdict) : v.withHealth health = v.withHealth other := by
  rw [withHealth, withHealth, h]

theorem ofElasticsearch_congr (h : health.any Outcome.isSuccess = other.any Outcome.isSuccess) :
    ofElasticsearch url base health credentials timestamp =
      ofElasticsearch url base other credentials timestamp := by
  simp only [ofElasticsearch, withHealth_congr h]

theorem ofElasticsearch_of_failed (h : base.isSuccess = false) (health other : Option Outcome) :
    ofElasticsearch url base health credentials timestamp =
      ofElasticsearch url base other credentials timestamp := by
  simp only [ofElasticsearch, h, Bool.false_eq_true, if_false]

theorem slowSuggestion_mem_ofElasticsearch :
    slowSuggestion ∈ (ofElasticsearch url base health credentials timestamp).suggestions ↔
      base.isSuccess = true ∧ 1000 ≤ base.elapsedMs := by
  have hhealth : slowSuggestion ∉ healthSuggestions := by decide
  unfold ofElasticsearch
  split
  · next hbase =>
    simp only [suggestions_withPerformance, suggestions_withHealth, suggestions_withDetail,
      suggestions_start, Performance.ofMilliseconds_eq_slow, hbase, true_and]
    split
    · next hslow => simp [hslow]
    · next hslow =>
      split
      · simp [hslow]
      · simp [hslow, hhealth]
  · next hbase => simp [hbase, slowSuggestion]

/-- Holds if the time and the rating of a verdict are those of an attempt. An attempt that failed
is not rated. -/
structure Rates (v : Verdict) (base : Outcome) : Prop where
  time : v.responseTimeMs = base.elapsedMs
  performance : v.details.get? performanceScale.detail =
    if base.isSuccess then some (Performance.ofMilliseconds base.elapsedMs).text else none
  slow : slowSuggestion ∈ v.suggestions ↔ base.isSuccess = true ∧ 1000 ≤ base.elapsedMs

theorem rates_ofElasticsearch :
    (ofElasticsearch url base health credentials timestamp).Rates base := by
  let f : Finding := .elasticsearch url base health credentials
  have hscale : performanceScale ∈ scales := List.mem_cons_of_mem _ List.mem_cons_self
  have hperformance := f.detail?_verdict timestamp hscale
  rw [← Performance.text_ofMilliseconds] at hperformance
  simp only [f, Finding.protocol, Finding.primary, performanceScale, true_and] at hperformance
  exact ⟨(f.isCoherent_verdict timestamp).responseTimeMs, hperformance,
    slowSuggestion_mem_ofElasticsearch⟩

/-- A cluster that was reached late and did not show its health is told of both. -/
example : (ofElasticsearch "http://h:9200" (.success 1500) none {} 0).suggestions =
    healthSuggestions ++ [slowSuggestion] := by decide

end Verdict

namespace Probe

section

variable {σ : Type} {net : Network σ} {s : σ} {url : String} {credentials : Credentials}
  {timeout : Duration} {first second : Outcome × σ × List Action}

/-- An attempt at the health comes after a base attempt that succeeded, and after no other. -/
theorem trace_health
    (hsecond : (Attempt.http (Endpoint.healthUrl url) timeout).trace net first.2.1 = second) :
    (health url timeout first.1).trace net first.2.1 =
      if first.1.isSuccess then (some second.1, second.2) else (none, first.2.1, []) := by
  rw [health]
  split
  · simp [hsecond]
  · rfl

theorem trace_test_elasticsearch {ended : Except Violation Verdict × σ × List Action}
    (h : (elasticsearch url credentials timeout).violation? = none)
    (hended : (elasticsearch url credentials timeout).test.trace net s = ended)
    (hfirst : (Attempt.http url timeout).trace net s = first)
    (hsecond : (Attempt.http (Endpoint.healthUrl url) timeout).trace net first.2.1 = second) :
    ∃ timestamp,
      let health := if first.1.isSuccess then some second.1 else none
      ended.1 = .ok (.ofElasticsearch url first.1 health credentials timestamp) ∧
      ended.2.2 = first.2.2 ++ (if first.1.isSuccess then second.2.2 else []) ++
        [.epochSeconds] := by
  have hhealth := trace_health hsecond
  subst hended
  simp only [test, h, measure, Program.trace_bind, Program.trace_pure, Program.perform, hfirst,
    hhealth]
  split
  · exact ⟨_, rfl, by simp⟩
  · exact ⟨_, rfl, by simp⟩

end

/-- The status of a cluster tells whether it was reached, and if so whether it showed its health.
So much its verdict takes from the attempt at the health, and no more. A test makes that attempt
exactly if the one before it succeeded, and has its time and its rating from the one before. -/
theorem cluster_judged_by_base (url : String) (credentials : Credentials) :
    (∀ base health timestamp,
      (Verdict.ofElasticsearch url base health credentials timestamp).status =
        if base.isSuccess then if health.any Outcome.isSuccess then .success else .warning
        else .error) ∧
    (∀ base health other timestamp,
      Verdict.ofElasticsearch url base health credentials timestamp =
          Verdict.ofElasticsearch url base other credentials timestamp ↔
        (base.isSuccess = true →
          health.any Outcome.isSuccess = other.any Outcome.isSuccess)) ∧
    ∀ (timeout : Duration) {σ : Type} (net : Network σ) (s : σ),
      let test := (elasticsearch url credentials timeout).test.trace net s
      let first := (Attempt.http url timeout).trace net s
      let second := (Attempt.http (Endpoint.healthUrl url) timeout).trace net first.2.1
      (∀ v, (elasticsearch url credentials timeout).violation? = some v →
        test = (.error v, s, [])) ∧
      ((elasticsearch url credentials timeout).violation? = none →
        ∃ timestamp,
          let health := if first.1.isSuccess then some second.1 else none
          let verdict := Verdict.ofElasticsearch url first.1 health credentials timestamp
          test.1 = .ok verdict ∧ verdict.Rates first.1 ∧
          test.2.2 = first.2.2 ++ (if first.1.isSuccess then second.2.2 else []) ++
            [.epochSeconds]) := by
  refine ⟨fun base health timestamp => Verdict.status_ofElasticsearch url base health _ _, ?_, ?_⟩
  · intro base health other timestamp
    cases hbase : base.isSuccess with
    | false => simp [Verdict.ofElasticsearch_of_failed hbase health other]
    | true =>
      refine ⟨fun heq _ => ?_, fun h => Verdict.ofElasticsearch_congr (h rfl)⟩
      have hstatus := congrArg Verdict.status heq
      simp only [Verdict.status_ofElasticsearch, hbase, if_true] at hstatus
      cases hhealth : health.any Outcome.isSuccess <;>
        cases hother : other.any Outcome.isSuccess <;> simp_all
  · intro timeout σ net s test first second
    refine ⟨fun v h => run_test_of_violation? net s h, fun h => ?_⟩
    obtain ⟨timestamp, hended, hasked⟩ :=
      trace_test_elasticsearch h (Eq.refl test) (Eq.refl first) (Eq.refl second)
    exact ⟨timestamp, hended, Verdict.rates_ofElasticsearch, hasked⟩

end Probe

end Reachability
