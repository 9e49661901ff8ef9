import Reachability.Proofs.Json.Controls
import Reachability.Proofs.Verdict
import Reachability.Proofs.Verdict.Reason

/-!
# The text of a verdict

The text of a verdict is JSON with members in a fixed order, and it is read back as the verdict,
whatever its texts hold. So two verdicts with one text are the same. A verdict is read back only
because the names of its details are distinct, and they are: each rule notes a detail once.
-/
namespace Reachability

open Json (HasNoControls)

/-! ## Reading -/

namespace Json

def text? : Json → Option String
  | .text s => some s
  | _ => none

def texts? : Json → Option (List String)
  | .array items => items.mapM text?
  | _ => none

def natural? : Json → Option Nat
  | .number n => if n.isNegative || !n.isInteger then none else Decimal.number? n.whole
  | _ => none

@[simp] theorem natural?_natural (n : Nat) : (natural n).natural? = some n := by
  simp [natural, natural?, Numeral.ofNat, Numeral.isInteger, Decimal.number?,
    Decimal.digits_ne_nil, Decimal.all_isDigit_digits]

@[simp] theorem texts?_texts (l : List String) : (array (l.map .text)).texts? = some l := by
  rw [texts?]
  induction l with
  | nil => rfl
  | cons s l ih => simp [ih, text?]

end Json

def port? (n : Nat) : Option UInt16 := if n < UInt16.size then some (.ofNat n) else none

@[simp] theorem port?_toNat (p : UInt16) : port? p.toNat = some p := by
  rw [port?, if_pos p.toNat_lt, UInt16.ofNat_toNat]

namespace Status

def all : List Status := [.success, .warning, .error, .timeout, .unknown]

def ofText? (name : String) : Option Status := all.find? (·.text == name)

@[simp] theorem ofText?_text (s : Status) : ofText? s.text = some s := by
  cases s <;> rfl

end Status

namespace Details

def entry? (m : String × Json) : Option (String × String) := m.2.text?.map (m.1, ·)

/-- Reads an object of texts, one member after the other. -/
def ofJson? : Json → Option Details
  | .object members => (members.mapM entry?).map ofList
  | _ => none

/-- Details with distinct names are read back. -/
theorem ofJson?_toJson {d : Details} (h : d.keys.Nodup) : ofJson? d.toJson = some d := by
  have hread (l : List (String × String)) :
      (l.map fun e => (e.1, Json.text e.2)).mapM entry? = some l := by
    induction l with
    | nil => rfl
    | cons e l ih =>
      simp only [List.map_cons, List.mapM_cons, ih, entry?, Json.text?, Option.map_some,
        Option.bind_eq_bind, Option.bind_some, Option.pure_def]
  have hentries : ofList d.entries = d := congrArg Details.mk (entries_ofList h)
  rw [toJson, ofJson?, hread, Option.map_some, hentries]

end Details

namespace Verdict

def ofJson? (j : Json) : Option Verdict := do
  let status ← ((← j.member? "status").text?).bind Status.ofText?
  let responseTimeMs ← (← j.member? "response_time_ms").natural?
  let targetHost ← (← j.member? "target_host").text?
  let targetPort ← ((← j.member? "target_port").natural?).bind port?
  let details ← Details.ofJson? (← j.member? "details")
  let errors ← (← j.member? "errors").texts?
  let suggestions ← (← j.member? "suggestions").texts?
  let timestamp ← (← j.member? "timestamp").natural?
  return ⟨status, responseTimeMs, targetHost, targetPort, details, errors, suggestions, timestamp⟩

theorem ofJson?_toJson {v : Verdict} (h : v.details.keys.Nodup) : ofJson? v.toJson = some v := by
  simp [ofJson?, toJson, Json.member?, List.lookup_cons, Json.text?, Details.ofJson?_toJson h]

/-! ## Noted details -/

/-- Holds of a verdict that came about by noting these details, one after the other, and by other
steps that note none. -/
inductive Noted : Verdict → List (String × String) → Prop
  | start (status : Status) (host : String) (port : UInt16) (outcome : Outcome)
      (timestamp : Nat) : Noted (.start status host port outcome timestamp) []
  | detail {v : Verdict} {notes : List (String × String)} (h : Noted v notes)
      (key value : String) : Noted (v.withDetail key value) (notes ++ [(key, value)])
  | error {v : Verdict} {notes : List (String × String)} (h : Noted v notes) (error : String) :
      Noted (v.withError error) notes
  | suggestion {v : Verdict} {notes : List (String × String)} (h : Noted v notes)
      (suggestion : String) : Noted (v.withSuggestion suggestion) notes
  | status {v : Verdict} {notes : List (String × String)} (h : Noted v notes) (status : Status) :
      Noted { v with status } notes

theorem Noted.details_eq {v : Verdict} {notes : List (String × String)} (h : Noted v notes) :
    v.details = .ofList notes := by
  induction h with
  | start => rfl
  | @detail v notes _ key value ih =>
    rw [Details.ofList_concat, ← ih]
    rfl
  | error _ _ ih => exact ih
  | suggestion _ _ ih => exact ih
  | status _ _ ih => exact ih

section

variable {v : Verdict} {notes : List (String × String)}

theorem Noted.failureReason (h : Noted v notes) (outcome : Outcome) :
    ∃ more, Noted (v.withFailureReason outcome) (notes ++ more) ∧
      (more.map (·.1)).Sublist ["failure_reason"] := by
  unfold withFailureReason
  split
  · exact ⟨[], by simpa using h, List.nil_sublist _⟩
  · exact ⟨_, h.detail _ _, List.Sublist.refl _⟩

theorem Noted.health (h : Noted v notes) (health : Option Outcome) :
    ∃ more, Noted (v.withHealth health) (notes ++ more) ∧
      (more.map (·.1)).Sublist ["elasticsearch_health", "cluster_accessible"] := by
  unfold withHealth
  split
  · refine ⟨[("elasticsearch_health", "success"), ("cluster_accessible", "true")], ?_,
      List.Sublist.refl _⟩
    simpa using (h.detail "elasticsearch_health" "success").detail "cluster_accessible" "true"
  · refine ⟨[("elasticsearch_health", "failed")], ?_, by simp⟩
    exact ((((h.status .warning).detail _ _).error _).suggestion _).suggestion _

theorem Noted.performance (h : Noted v notes) (elapsedMs : Nat) :
    ∃ rating, Noted (v.withPerformance elapsedMs) (notes ++ [("performance", rating)]) := by
  simp only [withPerformance]
  split
  · exact ⟨_, (h.detail _ _).suggestion _⟩
  · exact ⟨_, h.detail _ _⟩

end

end Verdict

namespace Finding

open Verdict (Noted)

/-- On a finding each detail is noted once. -/
theorem exists_noted (f : Finding) (timestamp : Nat) :
    ∃ notes, Noted (f.verdict timestamp) notes ∧ (notes.map (·.1)).Nodup := by
  have hfailed (host : String) (port : UInt16) (status : Status) (outcome : Outcome) :
      ∃ notes, Noted ((Verdict.start status host port outcome timestamp).withFailureReason outcome)
        notes ∧ (notes.map (·.1)).Nodup := by
    obtain ⟨more, hnoted, hkeys⟩ :=
      (Noted.start status host port outcome timestamp).failureReason outcome
    exact ⟨more, hnoted, hkeys.nodup (by decide)⟩
  cases f with
  | tcp host port outcome =>
    simp only [verdict, Verdict.ofTcp]
    split
    · exact ⟨_, (((Noted.start ..).detail _ _).detail _ _).detail _ _, by simp⟩
    · obtain ⟨notes, hnoted, hkeys⟩ := hfailed host port .error outcome
      exact ⟨notes, (((hnoted.error _).suggestion _).suggestion _).suggestion _, hkeys⟩
  | udp host port outcome =>
    simp only [verdict, Verdict.ofUdp]
    split
    · exact ⟨_, (((Noted.start ..).detail _ _).detail _ _).detail _ _, by simp⟩
    · obtain ⟨notes, hnoted, hkeys⟩ := hfailed host port .warning outcome
      exact ⟨notes, ((((hnoted.error _).suggestion _).suggestion _).suggestion _).suggestion _,
        hkeys⟩
  | elasticsearch url base health credentials =>
    simp only [verdict, Verdict.ofElasticsearch]
    split
    · have hbase := (((Noted.start .success url 0 base timestamp).detail "http_connectivity"
        "success").detail "connection_type" "elasticsearch").detail "authentication"
        credentials.presence
      obtain ⟨more, hhealth, hkeys⟩ := hbase.health health
      obtain ⟨rating, hnoted⟩ := hhealth.performance base.elapsedMs
      have hnames : ["http_connectivity", "connection_type", "authentication",
        "elasticsearch_health", "cluster_accessible", "performance"].Nodup := by decide
      refine ⟨_, hnoted, List.Sublist.nodup ?_ hnames⟩
      simpa using hkeys.append (List.Sublist.refl ["performance"])
    · obtain ⟨notes, hnoted, hkeys⟩ := hfailed url 0 .error base
      exact ⟨notes, ((((hnoted.error _).suggestion _).suggestion _).suggestion _).suggestion _,
        hkeys⟩
  | mqtt host port outcome credentials =>
    simp only [verdict, Verdict.ofMqtt]
    split
    · exact ⟨_, (((((Noted.start ..).detail _ _).detail _ _).detail _ _).detail _ _).detail _ _,
        by simp⟩
    · obtain ⟨notes, hnoted, hkeys⟩ := hfailed host port .error outcome
      exact ⟨notes, (((hnoted.error _).suggestion _).suggestion _).suggestion _, hkeys⟩

theorem ofJson?_verdict (f : Finding) (timestamp : Nat) :
    Verdict.ofJson? (f.verdict timestamp).toJson = some (f.verdict timestamp) := by
  obtain ⟨notes, hnoted, hkeys⟩ := f.exists_noted timestamp
  apply Verdict.ofJson?_toJson
  rw [hnoted.details_eq, Details.keys, Details.entries_ofList hkeys]
  exact hkeys

/-- The text of the verdict on a finding is an object with eight members in order, of which the
details are listed as they were noted, each name once. It gives the verdict back, so no other
verdict has it, and it holds no controls. -/
theorem text_gives_verdict_back (f : Finding) (timestamp : Nat) :
    let v := f.verdict timestamp
    (∀ w, Json.Document w v.toJson.compactBytes ↔ w = v.toJson) ∧
    v.toJson.keys = ["status", "response_time_ms", "target_host", "target_port", "details",
      "errors", "suggestions", "timestamp"] ∧
    (∃ notes, v.Noted notes ∧ (notes.map (·.1)).Nodup ∧
      v.toJson.member? "details" = some (.object (notes.map fun n => (n.1, .text n.2)))) ∧
    (∀ w, Json.Document w v.toJson.compactBytes → Verdict.ofJson? w = some v) ∧
    (∀ (g : Finding) (time : Nat), (g.verdict time).toJson.compact = v.toJson.compact →
      g.verdict time = v) ∧
    HasNoControls v.toJson.compact.toList := by
  intro v
  have hdocument (w : Json) : Json.Document w v.toJson.compactBytes ↔ w = v.toJson :=
    Json.document_compactBytes v.isProper_toJson
  refine ⟨hdocument, rfl, ?_, ?_, ?_, ?_⟩
  · obtain ⟨notes, hnoted, hkeys⟩ := f.exists_noted timestamp
    refine ⟨notes, hnoted, hkeys, ?_⟩
    have hentries : v.details.entries = notes := by
      rw [hnoted.details_eq, Details.entries_ofList hkeys]
    rw [← hentries]
    rfl
  · intro w hw
    rw [(hdocument w).mp hw]
    exact f.ofJson?_verdict timestamp
  · intro g time htext
    have hbytes : (g.verdict time).toJson.compactBytes = v.toJson.compactBytes := by
      rw [Json.compactBytes, htext, ← Json.compactBytes]
    have hjson : (g.verdict time).toJson = v.toJson := by
      rw [← hdocument, ← hbytes, Json.document_compactBytes (g.verdict time).isProper_toJson]
    have hread := g.ofJson?_verdict time
    rw [hjson, f.ofJson?_verdict timestamp] at hread
    exact (Option.some_inj.mp hread).symm
  · rw [Json.compact, String.toList_ofList]
    exact Json.hasNoControls_compactChars v.isProper_toJson

end Finding

end Reachability
