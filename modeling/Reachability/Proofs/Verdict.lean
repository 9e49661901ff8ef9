import Reachability.Probe
import Reachability.Proofs.Json.Compact
import Reachability.Proofs.Verdict.Steps

/-!
# What every verdict is like

A verdict names the target that its probe was given, and its text is JSON, whatever the
network did.
-/
namespace Reachability

open Json (IsProper)

namespace Verdict

variable (host url : String) (port : UInt16) (outcome : Outcome) (health : Option Outcome)
  (credentials : Credentials) (timestamp : Nat)

theorem subject_ofTcp :
    (ofTcp host port outcome timestamp).subject = (host, port, outcome.elapsedMs) := by
  unfold ofTcp
  split <;> simp

theorem subject_ofUdp :
    (ofUdp host port outcome timestamp).subject = (host, port, outcome.elapsedMs) := by
  unfold ofUdp
  split <;> simp

theorem subject_ofElasticsearch :
    (ofElasticsearch url outcome health credentials timestamp).subject =
      (url, 0, outcome.elapsedMs) := by
  unfold ofElasticsearch
  split <;> simp

theorem subject_ofMqtt :
    (ofMqtt host port outcome credentials timestamp).subject =
      (host, port, outcome.elapsedMs) := by
  unfold ofMqtt
  split <;> simp

end Verdict

def Probe.target : Probe → String
  | .tcp host _ _ | .udp host _ _ | .mqtt host _ _ _ => host
  | .elasticsearch url _ _ => url

/-- A verdict names its target as it was given. -/
theorem Probe.targetHost_run {σ : Type} (net : Network σ) (p : Probe) (s : σ) :
    (p.measure.run net s).targetHost = p.target := by
  have hhost (v : Verdict) : v.targetHost = v.subject.1 := rfl
  rw [hhost]
  cases p with
  | tcp host port timeout =>
    simp [measure, Program.run, Program.trace_bind, Verdict.subject_ofTcp, target]
  | udp host port timeout =>
    simp [measure, Program.run, Program.trace_bind, Verdict.subject_ofUdp, target]
  | elasticsearch url credentials timeout =>
    simp [measure, Program.run, Program.trace_bind, Verdict.subject_ofElasticsearch, target]
  | mqtt host port credentials timeout =>
    simp [measure, Program.run, Program.trace_bind, Verdict.subject_ofMqtt, target]

/-! ## The text of a verdict -/

theorem Json.isProper_texts (l : List String) : IsProper (.array (l.map .text)) := by
  refine .array ?_
  intro v hv
  obtain ⟨s, -, rfl⟩ := List.mem_map.mp hv
  exact .text s

theorem Json.isProper_naturals (l : List Nat) : IsProper (.array (l.map .natural)) := by
  refine .array ?_
  intro v hv
  obtain ⟨n, -, rfl⟩ := List.mem_map.mp hv
  exact isProper_natural n

theorem Details.isProper_toJson (d : Details) : d.toJson.IsProper := by
  refine .object ?_
  intro m hm
  obtain ⟨entry, -, rfl⟩ := List.mem_map.mp hm
  exact .text _

theorem Verdict.isProper_toJson (v : Verdict) : v.toJson.IsProper := by
  refine .object ?_
  simp only [List.forall_mem_cons]
  exact ⟨.text _, Json.isProper_natural _, .text _, Json.isProper_natural _,
    Details.isProper_toJson _, Json.isProper_texts _, Json.isProper_texts _,
    Json.isProper_natural _, by simp⟩

end Reachability
