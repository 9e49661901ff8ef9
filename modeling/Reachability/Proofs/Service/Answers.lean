import Reachability.Proofs.Verdict
import Reachability.Service.Route

/-!
# Which requests are refused

Whether a request is refused, and why, is decided before anything is asked of the outside: by
its path, then by its method, and then by its body. A request that is not refused gets its
result, and either way the answer is the JSON text of one value.
-/
namespace Reachability.Service

open Json (Document IsProper)

namespace Route

theorem ofPath?_eq_some {path : String} {route : Route} :
    ofPath? path = some route ↔ path = route.path := by
  constructor
  · intro h
    have hfound := List.find?_some
      (show Route.all.find? (fun route => route.path == path) = _ from h)
    exact (eq_of_beq hfound).symm
  · rintro rfl
    rcases route with (_ | _ | _ | _) | _ <;> decide

theorem ofPath?_eq_none {path : String} :
    ofPath? path = none ↔ ∀ route : Route, path ≠ route.path := by
  simp only [Option.eq_none_iff_forall_ne_some, ne_eq, ofPath?_eq_some]

theorem allows_probe {p : Protocol} {method : String} :
    (probe p).allows method = true ↔ method = "POST" := beq_iff_eq

theorem allows_report {method : String} :
    report.allows method = true ↔ method = "GET" ∨ method = "POST" := by
  simp [allows]

/-- Holds if the body of a request with `POST` does not decode, or if what it decodes to breaks
the contract of its probe. -/
inductive Rejects (defaultTimeout : Duration) (body : List UInt8) : Route → Refusal → Prop
  | malformedProbe {p : Protocol} {reason : String}
      (h : probeOf defaultTimeout body p = .error reason) :
      Rejects defaultTimeout body (.probe p) (.malformedBody reason)
  | violation {p : Protocol} {probe : Probe} {v : Violation}
      (h : probeOf defaultTimeout body p = .ok probe) (hv : probe.violation? = some v) :
      Rejects defaultTimeout body (.probe p) (.violation v)
  | malformedReport {reason : String} (h : decodeBody ReportRequest.shape body = .error reason) :
      Rejects defaultTimeout body .report (.malformedBody reason)

end Route

namespace Request

def IsLost (r : Request) : Prop := ∀ route : Route, r.path ≠ route.path

def IsMisdirected (r : Request) : Prop :=
  (∃ p : Protocol, r.path = (Route.probe p).path) ∧ r.method ≠ "POST" ∨
    r.path = Route.report.path ∧ r.method ≠ "GET" ∧ r.method ≠ "POST"

/-- Why a request is refused. -/
inductive Refused (defaultTimeout : Duration) (r : Request) : Refusal → Prop
  | notFound (h : r.IsLost) : Refused defaultTimeout r .notFound
  | methodNotAllowed (h : r.IsMisdirected) : Refused defaultTimeout r .methodNotAllowed
  | rejected {route : Route} {refusal : Refusal} (hpath : r.path = route.path)
      (hmethod : r.method = "POST") (h : route.Rejects defaultTimeout r.body refusal) :
      Refused defaultTimeout r refusal

theorem IsMisdirected.route {r : Request} (h : r.IsMisdirected) :
    ∃ route, Route.ofPath? r.path = some route ∧ route.allows r.method = false := by
  rcases h with ⟨⟨p, hpath⟩, hmethod⟩ | ⟨hpath, hmethod⟩
  · refine ⟨.probe p, Route.ofPath?_eq_some.mpr hpath, ?_⟩
    simpa only [Bool.eq_false_iff, ne_eq, Route.allows_probe] using hmethod
  · refine ⟨.report, Route.ofPath?_eq_some.mpr hpath, ?_⟩
    simpa only [Bool.eq_false_iff, ne_eq, Route.allows_report, not_or] using hmethod

theorem isMisdirected_of_route {r : Request} {route : Route}
    (hpath : Route.ofPath? r.path = some route) (h : route.allows r.method = false) :
    r.IsMisdirected := by
  have hpath := Route.ofPath?_eq_some.mp hpath
  cases route with
  | probe p =>
    refine .inl ⟨⟨p, hpath⟩, ?_⟩
    simpa only [Bool.eq_false_iff, ne_eq, Route.allows_probe] using h
  | report =>
    refine .inr ⟨hpath, ?_⟩
    simpa only [Bool.eq_false_iff, ne_eq, Route.allows_report, not_or] using h

end Request

variable {defaultTimeout : Duration} {r : Request}

theorem respond_of_refused {refusal : Refusal} (h : r.Refused defaultTimeout refusal) :
    respond defaultTimeout r = .done (.ofRefusal refusal) := by
  have hresult : result defaultTimeout r = .done (.error refusal) := by
    cases h with
    | notFound h => simp [result, Route.ofPath?_eq_none.mpr h]
    | methodNotAllowed h =>
      obtain ⟨route, hroute, hallows⟩ := h.route
      simp [result, hroute, hallows]
    | rejected hpath hmethod h =>
      have hroute := Route.ofPath?_eq_some.mpr hpath
      cases h with
      | malformedProbe h => simp [result, hroute, hmethod, Route.allows, runProbe, h]
      | violation h hv =>
        simp [result, hroute, hmethod, Route.allows, runProbe, h, Probe.test, hv]
        rfl
      | malformedReport h => simp [result, hroute, hmethod, Route.allows, makeReport, h]
  rw [respond, hresult]
  rfl

theorem isProper_diagnostics (d : Diagnostics) : d.toJson.IsProper := by
  have hfacts (p : Protocol) : p.facts.IsProper := by
    cases p <;> refine .object ?_ <;> simp only [List.forall_mem_cons]
    · exact ⟨.text _, Json.isProper_naturals _, Json.isProper_natural _, by simp⟩
    · exact ⟨.text _, Json.isProper_naturals _, .text _, by simp⟩
    · exact ⟨.text _, .text _, Json.isProper_naturals _, .text _, by simp⟩
    · exact ⟨.text _, .text _, Json.isProper_naturals _, .text _, by simp⟩
  have hsystem : Diagnostics.systemInfo.IsProper := by
    refine .object ?_
    simp only [List.forall_mem_cons]
    exact ⟨.text _, .text _, by simp⟩
  have hnetwork : Diagnostics.networkDiagnostics.IsProper := by
    refine .object ?_
    simp only [List.forall_mem_cons]
    exact ⟨.text _, .text _, .text _, by simp⟩
  have hguide : Diagnostics.troubleshootingGuide.IsProper := by
    refine .object ?_
    simp only [List.forall_mem_cons]
    exact ⟨Json.isProper_texts _, Json.isProper_texts _, Json.isProper_texts _,
      Json.isProper_texts _, by simp⟩
  refine .object ?_
  simp only [List.forall_mem_append, List.forall_mem_cons, List.forall_mem_map]
  exact ⟨⟨⟨Json.isProper_natural _, .text _, hsystem, hnetwork, by simp⟩, fun p _ => hfacts p⟩,
    hguide, by simp⟩

theorem run_runProbe {σ : Type} (net : Network σ) (s : σ) {p : Protocol} {body : List UInt8}
    (h : ∀ refusal, ¬ (Route.probe p).Rejects defaultTimeout body refusal) :
    ∃ verdict : Verdict, (runProbe defaultTimeout p body).run net s = .ok verdict.toJson := by
  cases hprobe : probeOf defaultTimeout body p with
  | error reason => exact absurd (.malformedProbe hprobe) (h _)
  | ok probe =>
    cases hv : probe.violation? with
    | some v => exact absurd (.violation hprobe hv) (h _)
    | none =>
      exact ⟨probe.measure.run net s, by simp [runProbe, hprobe, Probe.test, hv, Program.run]⟩

theorem run_makeReport {σ : Type} (net : Network σ) (s : σ) {method : String}
    {body : List UInt8}
    (h : method = "GET" ∨ ∀ refusal, ¬ Route.report.Rejects defaultTimeout body refusal) :
    ∃ report : Diagnostics, (makeReport method body).run net s = .ok report.toJson := by
  have hmake {parameters : ReportRequest} (hparameters : (if method == "GET" then .ok {} else
      decodeBody ReportRequest.shape body) = Except.ok parameters) :
      (makeReport method body).run net s = .ok (Diagnostics.generate parameters.exportType
        (net.answer s .epochSeconds).1).toJson := by
    simp only [makeReport, hparameters]
    rfl
  by_cases hget : method = "GET"
  · exact ⟨_, @hmake {} (by simp [hget])⟩
  · have hrejects := h.resolve_left hget
    cases hdecode : decodeBody ReportRequest.shape body with
    | error reason => exact absurd (.malformedReport hdecode) (hrejects _)
    | ok parameters => exact ⟨_, @hmake parameters (by simp [hget, hdecode])⟩

theorem run_respond_of_not_refused {σ : Type} (net : Network σ) (s : σ)
    (h : ∀ refusal, ¬ r.Refused defaultTimeout refusal) :
    ∃ body : Json, body.IsProper ∧ (respond defaultTimeout r).run net s = ⟨200, body⟩ := by
  have hanswer {p : Program (Except Refusal Json)} {body : Json}
      (hp : result defaultTimeout r = p) (hrun : p.run net s = .ok body) :
      (respond defaultTimeout r).run net s = ⟨200, body⟩ := by
    rw [respond, hp]
    simp only [Program.run, Program.trace_bind] at hrun ⊢
    rw [hrun]
    rfl
  cases hroute : Route.ofPath? r.path with
  | none => exact absurd (.notFound (Route.ofPath?_eq_none.mp hroute)) (h .notFound)
  | some route =>
    cases hallows : route.allows r.method with
    | false =>
      exact absurd (.methodNotAllowed (Request.isMisdirected_of_route hroute hallows))
        (h .methodNotAllowed)
    | true =>
      have hrejects (hmethod : r.method = "POST") (refusal : Refusal) :
          ¬ route.Rejects defaultTimeout r.body refusal := by
        intro hrejects
        exact h refusal (.rejected (Route.ofPath?_eq_some.mp hroute) hmethod hrejects)
      cases route with
      | probe p =>
        obtain ⟨verdict, hrun⟩ :=
          run_runProbe net s (hrejects (Route.allows_probe.mp hallows))
        have hresult : result defaultTimeout r = runProbe defaultTimeout p r.body := by
          simp [result, hroute, hallows]
        exact ⟨_, verdict.isProper_toJson, hanswer hresult hrun⟩
      | report =>
        obtain ⟨report, hrun⟩ :=
          run_makeReport net s ((Route.allows_report.mp hallows).imp_right hrejects)
        have hresult : result defaultTimeout r = makeReport r.method r.body := by
          simp [result, hroute, hallows]
        exact ⟨_, isProper_diagnostics report, hanswer hresult hrun⟩

theorem run_respond_of_refused {σ : Type} (net : Network σ) (s : σ) {refusal : Refusal}
    (h : r.Refused defaultTimeout refusal) :
    (respond defaultTimeout r).run net s = .ofRefusal refusal := by
  rw [respond_of_refused h]
  rfl

theorem isProper_ofRefusal (refusal : Refusal) : (Response.ofRefusal refusal).body.IsProper := by
  refine .object ?_
  simp only [List.forall_mem_cons]
  exact ⟨.text _, by simp⟩

/-- For a path that is not known, a method that is not taken and a report with `GET`, the body
of a request makes no difference. -/
theorem respond_congr_body (h : r.IsLost ∨ r.IsMisdirected ∨
    r.path = Route.report.path ∧ r.method = "GET") (body : List UInt8) :
    respond defaultTimeout { r with body } = respond defaultTimeout r := by
  rcases h with h | h | ⟨hpath, hmethod⟩
  · have hr : r.Refused defaultTimeout .notFound := .notFound h
    have hr' : Request.Refused defaultTimeout { r with body } .notFound := .notFound h
    rw [respond_of_refused hr, respond_of_refused hr']
  · have hr : r.Refused defaultTimeout .methodNotAllowed := .methodNotAllowed h
    have hr' : Request.Refused defaultTimeout { r with body } .methodNotAllowed :=
      .methodNotAllowed h
    rw [respond_of_refused hr, respond_of_refused hr']
  · simp [respond, result, Route.ofPath?_eq_some.mpr hpath, hmethod, makeReport]

/-- The status of a refusal tells which of the four rules it comes from. -/
theorem Request.Refused.status_cases {refusal : Refusal} (h : r.Refused defaultTimeout refusal) :
    refusal.status = 404 ∧ r.IsLost ∨ refusal.status = 405 ∧ r.IsMisdirected ∨
      refusal.status = 400 ∧ ∃ route : Route, r.path = route.path ∧ r.method = "POST" ∧
        route.Rejects defaultTimeout r.body refusal := by
  cases h with
  | notFound h => exact .inl ⟨rfl, h⟩
  | methodNotAllowed h => exact .inr (.inl ⟨rfl, h⟩)
  | rejected hpath hmethod h =>
    refine .inr (.inr ⟨?_, _, hpath, hmethod, h⟩)
    cases h <;> rfl

/-- Every request is answered with JSON, and with the status that the first rule to be broken
has: the path, the method, the body and its contract, in this order. -/
theorem every_request_answered {σ : Type} (net : Network σ) (s : σ) (defaultTimeout : Duration)
    (r : Request) :
    let answer := (respond defaultTimeout r).run net s
    answer.contentType = "application/json" ∧
    (∀ value, Document value answer.body.compactBytes ↔ value = answer.body) ∧
    (answer.status = 404 ↔ r.IsLost) ∧
    (answer.status = 405 ↔ r.IsMisdirected) ∧
    (answer.status = 400 ↔ ∃ (route : Route) (refusal : Refusal), r.path = route.path ∧
      r.method = "POST" ∧ route.Rejects defaultTimeout r.body refusal) ∧
    (answer.status = 200 ∨ answer.status = 400 ∨ answer.status = 404 ∨ answer.status = 405) ∧
    (answer.status ≠ 200 → ∃ refusal, r.Refused defaultTimeout refusal ∧
      answer.status = refusal.status ∧ ∀ value, Document value answer.body.compactBytes ↔
        value = .object [("error", .text refusal.message)]) ∧
    (r.IsLost ∨ r.IsMisdirected ∨ r.path = Route.report.path ∧ r.method = "GET" →
      ∀ body, respond defaultTimeout { r with body } = respond defaultTimeout r) := by
  intro answer
  have hrefused {refusal : Refusal} (h : r.Refused defaultTimeout refusal) :
      answer = .ofRefusal refusal := run_respond_of_refused net s h
  have hcases : answer.status = 200 ∧ answer.body.IsProper ∨
      ∃ refusal, r.Refused defaultTimeout refusal ∧ answer = .ofRefusal refusal := by
    by_cases h : ∃ refusal, r.Refused defaultTimeout refusal
    · obtain ⟨refusal, h⟩ := h
      exact .inr ⟨refusal, h, hrefused h⟩
    · obtain ⟨body, hproper, hanswer⟩ := run_respond_of_not_refused net s (not_exists.mp h)
      have hanswer : answer = ⟨200, body⟩ := hanswer
      exact .inl (hanswer ▸ ⟨rfl, hproper⟩)
  have hproper : answer.body.IsProper := by
    rcases hcases with ⟨-, hproper⟩ | ⟨refusal, -, hanswer⟩
    · exact hproper
    · exact hanswer ▸ isProper_ofRefusal refusal
  have hrule : answer.status = 200 ∨ answer.status = 404 ∧ r.IsLost ∨
      answer.status = 405 ∧ r.IsMisdirected ∨ answer.status = 400 ∧
        ∃ (route : Route) (refusal : Refusal), r.path = route.path ∧ r.method = "POST" ∧
          route.Rejects defaultTimeout r.body refusal := by
    rcases hcases with ⟨hstatus, -⟩ | ⟨refusal, h, hanswer⟩
    · exact .inl hstatus
    · have hstatus : answer.status = refusal.status := congrArg Response.status hanswer
      rw [hstatus]
      rcases h.status_cases with h | h | ⟨h, route, hroute⟩
      · exact .inr (.inl h)
      · exact .inr (.inr (.inl h))
      · exact .inr (.inr (.inr ⟨h, route, refusal, hroute⟩))
  refine ⟨rfl, fun value => Json.document_compactBytes hproper, ⟨?_, ?_⟩, ⟨?_, ?_⟩, ⟨?_, ?_⟩, ?_,
    ?_, respond_congr_body⟩
  · intro hstatus
    rcases hrule with h | ⟨-, h⟩ | ⟨h, -⟩ | ⟨h, -⟩
    · omega
    · exact h
    · omega
    · omega
  · intro h
    rw [hrefused (.notFound h)]
    rfl
  · intro hstatus
    rcases hrule with h | ⟨h, -⟩ | ⟨-, h⟩ | ⟨h, -⟩
    · omega
    · omega
    · exact h
    · omega
  · intro h
    rw [hrefused (.methodNotAllowed h)]
    rfl
  · intro hstatus
    rcases hrule with h | ⟨h, -⟩ | ⟨h, -⟩ | ⟨-, h⟩
    · omega
    · omega
    · omega
    · exact h
  · rintro ⟨route, refusal, hpath, hmethod, h⟩
    rw [hrefused (.rejected hpath hmethod h)]
    cases h <;> rfl
  · rcases hrule with h | ⟨h, -⟩ | ⟨h, -⟩ | ⟨h, -⟩ <;> simp [h]
  · intro hstatus
    rcases hcases with ⟨h, -⟩ | ⟨refusal, h, hanswer⟩
    · exact absurd h hstatus
    · refine ⟨refusal, h, congrArg Response.status hanswer, ?_⟩
      intro value
      rw [hanswer]
      exact Json.document_compactBytes (isProper_ofRefusal refusal)

/-- A body that decodes to a test within its contract, so that the answer has status 200. -/
example : probeOf (.ofSeconds 5)
      (Text.Utf8.encode "\x7b\"host\":\"db\",\"port\":5432\x7d".toList) .tcp =
    .ok (.tcp "db" 5432 (.ofSeconds 5)) := by decide +kernel

/-- One that does not decode, so that the answer has status 400 and gives this reason. -/
example : probeOf (.ofSeconds 5) (Text.Utf8.encode "db:5432".toList) .tcp =
    .error "expected value at line 1 column 1" := by decide +kernel

end Reachability.Service
