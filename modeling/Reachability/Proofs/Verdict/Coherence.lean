import Mathlib.Data.List.Basic
import Reachability.Diagnostics
import Reachability.Proofs.Verdict
import Reachability.Proofs.Verdict.Reason

/-!
# The parts of a verdict agree

Status, errors, suggestions and details of a verdict are set by separate steps, and they tell the
same: there are errors and suggestions if it is no success, it names its protocol if its target
was reached, and its label is that of its own time on a scale on which longer times come later.
-/
namespace Reachability

/-! ## Scales of labels -/

/-- Labels for times, each with the time from which on it is given, the best label first. -/
structure Scale where
  /-- The protocol whose verdicts carry a label. -/
  protocol : Protocol
  /-- The name of the detail that holds it. -/
  detail : String
  steps : List (Nat × String)

namespace Scale

def labels (scale : Scale) : List String := scale.steps.map (·.2)

/-- Holds of the label of a time: the time is not before that of the label, but before those of
all labels behind it. -/
def Labels (scale : Scale) (ms : Nat) (label : String) : Prop :=
  ∃ front start back, scale.steps = front ++ (start, label) :: back ∧ start ≤ ms ∧
    ∀ next ∈ back, ms < next.1

/-- The last label whose time has come. -/
def rating (scale : Scale) (ms : Nat) : String :=
  match scale.steps.reverse.find? (·.1 ≤ ms) with
  | some step => step.2
  | none => ""

theorem labels_rating {scale : Scale} {best : String} (h : (0, best) ∈ scale.steps) (ms : Nat) :
    scale.Labels ms (scale.rating ms) := by
  unfold rating
  cases hfind : scale.steps.reverse.find? (·.1 ≤ ms) with
  | none =>
    have hlate := List.find?_eq_none.mp hfind (0, best) (List.mem_reverse.mpr h)
    simp at hlate
  | some step =>
    obtain ⟨hstart, back, front, hsteps, hback⟩ := List.find?_eq_some_iff_append.mp hfind
    refine ⟨front.reverse, step.1, back.reverse, ?_, by simpa using hstart, ?_⟩
    · rw [← List.reverse_reverse scale.steps, hsteps, List.reverse_append, List.reverse_cons,
        List.append_assoc, List.singleton_append]
    · intro next hnext
      simpa using hback next (List.mem_reverse.mp hnext)

theorem idxOf_label {scale : Scale} (hnodup : scale.labels.Nodup) {front back : List (Nat × String)}
    {start : Nat} {label : String} (h : scale.steps = front ++ (start, label) :: back) :
    scale.labels.idxOf label = front.length := by
  have hlabels : scale.labels = front.map (·.2) ++ label :: back.map (·.2) := by
    rw [labels, h, List.map_append, List.map_cons]
  rw [hlabels, List.nodup_append] at hnodup
  have hnot : label ∉ front.map (·.2) := fun hmem =>
    hnodup.2.2 label hmem label List.mem_cons_self rfl
  rw [hlabels, List.idxOf_append_of_notMem hnot, List.idxOf_cons_self, Nat.add_zero,
    List.length_map]

/-- A longer time never gets a better label. -/
theorem Labels.idxOf_le {scale : Scale} (hnodup : scale.labels.Nodup) {ms ms' : Nat}
    {label label' : String} (h : scale.Labels ms label) (h' : scale.Labels ms' label')
    (hle : ms ≤ ms') : scale.labels.idxOf label ≤ scale.labels.idxOf label' := by
  obtain ⟨front, start, back, hsteps, hstart, -⟩ := h
  obtain ⟨front', start', back', hsteps', -, hback'⟩ := h'
  rw [idxOf_label hnodup hsteps, idxOf_label hnodup hsteps']
  rcases List.append_eq_append_iff.mp (hsteps.symm.trans hsteps') with
    ⟨more, rfl, -⟩ | ⟨more, rfl, hmore⟩
  · rw [List.length_append]
    omega
  · cases more with
    | nil => simp
    | cons first more =>
      -- The label of the shorter time stands behind that of the longer one.
      have hmem : (start, label) ∈ back' := by
        rw [(List.cons_eq_cons.mp hmore).2]
        simp
      have hlate : ms' < start := hback' _ hmem
      omega

end Scale

def latencyScale : Scale where
  protocol := .tcp
  detail := "latency_quality"
  steps := [(0, "excellent"), (100, "good"), (500, "poor")]

def performanceScale : Scale where
  protocol := .elasticsearch
  detail := "performance"
  steps := [(0, "excellent"), (200, "good"), (1000, "slow")]

def scales : List Scale := [latencyScale, performanceScale]

theorem exists_best {scale : Scale} (h : scale ∈ scales) : ∃ best, (0, best) ∈ scale.steps := by
  simp only [scales, List.mem_cons, List.not_mem_nil, or_false] at h
  rcases h with rfl | rfl <;> exact ⟨"excellent", List.mem_cons_self⟩

theorem Latency.text_ofMilliseconds (ms : Nat) :
    (Latency.ofMilliseconds ms).text = latencyScale.rating ms := by
  grind [Latency.ofMilliseconds, Latency.text, latencyScale, Scale.rating]

theorem Performance.text_ofMilliseconds (ms : Nat) :
    (Performance.ofMilliseconds ms).text = performanceScale.rating ms := by
  grind [Performance.ofMilliseconds, Performance.text, performanceScale, Scale.rating]

/-! ## Verdicts on findings -/

namespace Finding

def protocol : Finding → Protocol
  | .tcp .. => .tcp
  | .udp .. => .udp
  | .elasticsearch .. => .elasticsearch
  | .mqtt .. => .mqtt

def target : Finding → String
  | .tcp host _ _ | .udp host _ _ | .mqtt host _ _ _ => host
  | .elasticsearch url _ _ _ => url

/-- The port; a URL comes without one, which counts as zero. -/
def port : Finding → UInt16
  | .tcp _ port _ | .udp _ port _ | .mqtt _ port _ _ => port
  | .elasticsearch .. => 0

variable (f : Finding) (timestamp : Nat)

theorem subject_verdict :
    (f.verdict timestamp).subject = (f.target, f.port, f.primary.elapsedMs) := by
  cases f with
  | tcp host port outcome => exact Verdict.subject_ofTcp host port outcome timestamp
  | udp host port outcome => exact Verdict.subject_ofUdp host port outcome timestamp
  | elasticsearch url base health credentials =>
    exact Verdict.subject_ofElasticsearch url base health credentials timestamp
  | mqtt host port outcome credentials =>
    exact Verdict.subject_ofMqtt host port outcome credentials timestamp

theorem status_verdict_of_connection (h : f.protocol = .tcp ∨ f.protocol = .mqtt) :
    (f.verdict timestamp).status = if f.primary.isSuccess then .success else .error := by
  cases f with
  | tcp host port outcome => exact Verdict.status_ofTcp host port outcome timestamp
  | mqtt host port outcome credentials =>
    exact Verdict.status_ofMqtt host port outcome credentials timestamp
  | udp | elasticsearch => simp [protocol] at h

theorem status_verdict_of_datagram (h : f.protocol = .udp) :
    (f.verdict timestamp).status = if f.primary.isSuccess then .success else .warning := by
  cases f with
  | udp host port outcome => exact Verdict.status_ofUdp host port outcome timestamp
  | tcp | elasticsearch | mqtt => cases h

theorem isSettled_verdict : (f.verdict timestamp).status.IsSettled := by
  cases f with
  | tcp | udp | mqtt =>
    simp only [verdict, Verdict.status_ofTcp, Verdict.status_ofUdp, Verdict.status_ofMqtt]
    split <;> simp [Status.IsSettled]
  | elasticsearch url base health credentials =>
    simp only [verdict, Verdict.status_ofElasticsearch]
    split
    · split <;> simp [Status.IsSettled]
    · simp [Status.IsSettled]

theorem errors_verdict_eq_nil :
    (f.verdict timestamp).errors = [] ↔ f.primary.isSuccess = true ∧ ¬ f.IsDegraded := by
  cases f with
  | tcp | udp | mqtt =>
    simp only [verdict, Verdict.ofTcp, Verdict.ofUdp, Verdict.ofMqtt, primary, IsDegraded]
    split <;> simp [*]
  | elasticsearch url base health credentials =>
    simp only [verdict, Verdict.ofElasticsearch, primary, IsDegraded]
    split
    · next h => cases hhealth : health.any Outcome.isSuccess <;> simp [h, hhealth]
    · next h => simp [h]

theorem suggestions_verdict_ne_nil (h : ¬ (f.primary.isSuccess = true ∧ ¬ f.IsDegraded)) :
    (f.verdict timestamp).suggestions ≠ [] := by
  cases f with
  | tcp | udp | mqtt =>
    simp only [verdict, Verdict.ofTcp, Verdict.ofUdp, Verdict.ofMqtt, primary, IsDegraded] at h ⊢
    split
    · next hprimary => exact absurd ⟨hprimary, id⟩ h
    · simp
  | elasticsearch url base health credentials =>
    simp only [verdict, Verdict.ofElasticsearch, primary, IsDegraded] at h ⊢
    split
    · next hbase =>
      have hhealth : health.any Outcome.isSuccess = false := by simpa [hbase] using h
      simp only [Verdict.suggestions_withPerformance, Verdict.suggestions_withHealth, hhealth]
      split <;> simp [Verdict.healthSuggestions]
    · simp

theorem connectionType_verdict : (f.verdict timestamp).detail? "connection_type" =
    if f.primary.isSuccess then some f.protocol.name else none := by
  cases f with
  | tcp | udp | elasticsearch | mqtt =>
    simp only [verdict, Verdict.ofTcp, Verdict.ofUdp, Verdict.ofElasticsearch, Verdict.ofMqtt,
      primary]
    split <;> simp [protocol, Protocol.name, *]

/-- A verdict carries the label of its own time, on the scale of its protocol and if its target
was reached. -/
theorem detail?_verdict {scale : Scale} (hscale : scale ∈ scales) :
    (f.verdict timestamp).detail? scale.detail =
      if f.protocol = scale.protocol ∧ f.primary.isSuccess = true then
        some (scale.rating f.primary.elapsedMs)
      else none := by
  simp only [scales, List.mem_cons, List.not_mem_nil, or_false] at hscale
  cases f with
  | tcp | udp | elasticsearch | mqtt =>
    simp only [verdict, Verdict.ofTcp, Verdict.ofUdp, Verdict.ofElasticsearch, Verdict.ofMqtt,
      primary, protocol]
    rcases hscale with rfl | rfl <;> split <;>
      simp [Latency.text_ofMilliseconds, Performance.text_ofMilliseconds, latencyScale,
        performanceScale, *]

/-- What the parts of a verdict have to do with the finding and with each other. -/
structure IsCoherent (f : Finding) (v : Verdict) : Prop where
  settled : v.status = .success ∨ v.status = .warning ∨ v.status = .error
  connection : f.protocol = .tcp ∨ f.protocol = .mqtt →
    v.status = if f.primary.isSuccess then .success else .error
  datagram : f.protocol = .udp → v.status = if f.primary.isSuccess then .success else .warning
  errors : v.errors = [] ↔ v.status = .success
  suggestions : v.status ≠ .success → v.suggestions ≠ []
  connectionType : v.details.get? "connection_type" =
    if f.primary.isSuccess then some f.protocol.name else none
  targetHost : v.targetHost = f.target
  targetPort : v.targetPort = f.port
  responseTimeMs : v.responseTimeMs = f.primary.elapsedMs
  labelled : ∀ scale ∈ scales, (v.details.contains scale.detail = true ↔
    f.protocol = scale.protocol ∧ f.primary.isSuccess = true)
  label : ∀ scale ∈ scales, ∀ label, v.details.get? scale.detail = some label →
    scale.Labels v.responseTimeMs label

theorem isCoherent_verdict : f.IsCoherent (f.verdict timestamp) := by
  have hsubject := f.subject_verdict timestamp
  simp only [Verdict.subject, Prod.mk.injEq] at hsubject
  obtain ⟨hhost, hport, htime⟩ := hsubject
  have hsuccess := f.status_verdict_eq_success timestamp
  refine ⟨f.isSettled_verdict timestamp, f.status_verdict_of_connection timestamp,
    f.status_verdict_of_datagram timestamp, ?_, ?_, f.connectionType_verdict timestamp, hhost,
    hport, htime, ?_, ?_⟩
  · rw [hsuccess, errors_verdict_eq_nil]
  · intro h
    exact f.suggestions_verdict_ne_nil timestamp (mt hsuccess.mpr h)
  · intro scale hscale
    have hdetail := f.detail?_verdict timestamp hscale
    rw [Verdict.detail?] at hdetail
    rw [Details.contains, hdetail]
    split <;> simp [*]
  · intro scale hscale label hlabel
    have hdetail := f.detail?_verdict timestamp hscale
    rw [Verdict.detail?, hlabel] at hdetail
    split at hdetail
    · obtain ⟨best, hbest⟩ := exists_best hscale
      rw [Option.some_inj.mp hdetail, htime]
      exact Scale.labels_rating hbest _
    · cases hdetail

/-- The parts of the verdict on a finding agree with the finding and with each other, and of two
verdicts with a label on one scale that of the longer time is never the better one. -/
theorem verdict_coherent (f : Finding) (timestamp : Nat) :
    f.IsCoherent (f.verdict timestamp) ∧
    ∀ (g : Finding) (time : Nat),
      (f.verdict timestamp).responseTimeMs ≤ (g.verdict time).responseTimeMs →
      ∀ scale ∈ scales, ∀ label label',
        (f.verdict timestamp).details.get? scale.detail = some label →
        (g.verdict time).details.get? scale.detail = some label' →
        scale.labels.idxOf label ≤ scale.labels.idxOf label' := by
  have hnodup : ∀ scale ∈ scales, scale.labels.Nodup := by decide
  refine ⟨f.isCoherent_verdict timestamp, ?_⟩
  intro g time hle scale hscale label label' hlabel hlabel'
  have hown := (f.isCoherent_verdict timestamp).label scale hscale label hlabel
  have hother := (g.isCoherent_verdict time).label scale hscale label' hlabel'
  exact hown.idxOf_le (hnodup scale hscale) hother hle

end Finding

end Reachability
