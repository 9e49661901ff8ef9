import Reachability.Diagnostics
import Reachability.Proofs.Text.Trim

/-!
# The sections of a report

Which sections a report has is decided by the type that was asked for, and the report names a type
of its own: `full_system` where nothing was asked for. The sections follow the reported type, and
a report is made again from the type that it names, except around that one name: whoever asks for
`full_system` gets a report of that type without a section.
-/
namespace Reachability

namespace Protocol

theorem sectionName_injective {p q : Protocol} (h : p.sectionName = q.sectionName) : p = q := by
  revert h
  cases p <;> cases q <;> decide

theorem mem_all (p : Protocol) : p ∈ all := by
  cases p <;> decide

end Protocol

namespace Diagnostics

theorem keys_toJson (d : Diagnostics) :
    d.toJson.keys = ["timestamp", "report_type", "system_info", "network_diagnostics"] ++
      d.sections.map Protocol.sectionName ++ ["troubleshooting_guide"] := by
  simp [toJson, Json.keys]

theorem sectionName_mem_keys {d : Diagnostics} {p : Protocol} :
    p.sectionName ∈ d.toJson.keys ↔ p ∈ d.sections := by
  have hfront : p.sectionName ∉
      ["timestamp", "report_type", "system_info", "network_diagnostics"] := by
    cases p <;> decide
  have hguide : p.sectionName ∉ ["troubleshooting_guide"] := by
    cases p <;> decide
  rw [keys_toJson, List.mem_append, List.mem_append, List.mem_map]
  constructor
  · rintro ((h | ⟨q, hq, hname⟩) | h)
    · exact absurd h hfront
    · exact Protocol.sectionName_injective hname ▸ hq
    · exact absurd h hguide
  · exact fun h => .inl (.inr ⟨p, h, rfl⟩)

variable {exportType : String} {timestamp : Nat}

theorem mem_sections_generate {p : Protocol} :
    p ∈ (generate exportType timestamp).sections ↔
      Text.trim exportType = "" ∨ Text.trim exportType = p.name := by
  simp [generate, Protocol.mem_all]

theorem reportType_of_blank (h : Text.trim exportType = "") :
    (generate exportType timestamp).reportType = fullSystem := by
  simp [generate, h]

theorem reportType_of_not_blank (h : Text.trim exportType ≠ "") :
    (generate exportType timestamp).reportType = Text.trim exportType := by
  simp [generate, h]

theorem trim_fullSystem : Text.trim fullSystem = fullSystem := by decide

theorem fullSystem_ne_empty : fullSystem ≠ "" := by decide

/-- The sections of a report are those that its type names, all of them for `full_system`, unless
it is `full_system` that was asked for. -/
theorem sections_follow_reportType_iff :
    (∀ p : Protocol, p ∈ (generate exportType timestamp).sections ↔
        (generate exportType timestamp).reportType = fullSystem ∨
          (generate exportType timestamp).reportType = p.name) ↔
      Text.trim exportType ≠ fullSystem := by
  simp only [mem_sections_generate]
  by_cases hblank : Text.trim exportType = ""
  · rw [reportType_of_blank hblank, hblank]
    exact iff_of_true (fun p => by simp) fullSystem_ne_empty.symm
  · rw [reportType_of_not_blank hblank]
    constructor
    · intro hlaw hfull
      rcases (hlaw .tcp).mpr (.inl hfull) with h | h
      · exact hblank h
      · rw [hfull] at h
        revert h
        decide
    · intro hfull p
      simp [hblank, hfull]

theorem generate_reportType_of_not_blank (h : Text.trim exportType ≠ "") (later : Nat) :
    generate (generate exportType timestamp).reportType later = generate exportType later := by
  rw [reportType_of_not_blank h, generate, generate, Text.trim_trim]

theorem reportType_generate_reportType (exportType : String) (timestamp later : Nat) :
    (generate (generate exportType timestamp).reportType later).reportType =
      (generate exportType timestamp).reportType := by
  by_cases hblank : Text.trim exportType = ""
  · have hfull : Text.trim fullSystem ≠ "" := trim_fullSystem ▸ fullSystem_ne_empty
    rw [reportType_of_blank hblank, reportType_of_not_blank hfull, trim_fullSystem]
  · rw [generate_reportType_of_not_blank hblank]
    rfl

theorem sections_generate_reportType_iff (exportType : String) (timestamp later : Nat) :
    (generate (generate exportType timestamp).reportType later).sections =
      (generate exportType timestamp).sections ↔ Text.trim exportType ≠ "" := by
  by_cases hblank : Text.trim exportType = ""
  · refine iff_of_false (fun h => ?_) (not_not_intro hblank)
    have hall : .tcp ∈ (generate exportType timestamp).sections :=
      mem_sections_generate.mpr (.inl hblank)
    rw [← h, reportType_of_blank hblank, mem_sections_generate, trim_fullSystem] at hall
    revert hall
    decide
  · rw [generate_reportType_of_not_blank hblank]
    exact iff_of_true rfl hblank

/-- A report shows the sections that it has. They are those that its type names, all of them for
`full_system`, unless it is `full_system` that was asked for. From the type that a report names, a
report of the same type is made, with the same sections unless nothing was asked for. -/
theorem sections_by_reportType (exportType : String) (timestamp later : Nat) :
    (∀ p : Protocol, p.sectionName ∈ (generate exportType timestamp).toJson.keys ↔
      p ∈ (generate exportType timestamp).sections) ∧
    ((∀ p : Protocol, p ∈ (generate exportType timestamp).sections ↔
        (generate exportType timestamp).reportType = fullSystem ∨
          (generate exportType timestamp).reportType = p.name) ↔
      Text.trim exportType ≠ fullSystem) ∧
    (generate (generate exportType timestamp).reportType later).reportType =
      (generate exportType timestamp).reportType ∧
    ((generate (generate exportType timestamp).reportType later).sections =
      (generate exportType timestamp).sections ↔ Text.trim exportType ≠ "") :=
  ⟨fun _ => sectionName_mem_keys, sections_follow_reportType_iff,
    reportType_generate_reportType exportType timestamp later,
    sections_generate_reportType_iff exportType timestamp later⟩

/-- A report on `full_system` has no section, although all are in the report of that type which
is made when nothing is asked for. -/
theorem full_system_without_sections :
    let asked := generate "full_system" 0
    let whole := generate "" 0
    ¬ (∀ p : Protocol, p ∈ asked.sections ↔
        asked.reportType = fullSystem ∨ asked.reportType = p.name) ∧
      (generate whole.reportType 0).sections ≠ whole.sections := by
  refine ⟨fun h => ?_, by decide⟩
  have htcp : .tcp ∈ (generate "full_system" 0).sections := (h .tcp).mpr (.inl (by decide))
  revert htcp
  decide

end Diagnostics

end Reachability
