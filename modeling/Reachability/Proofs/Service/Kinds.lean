import Reachability.Proofs.Service.Asked

/-!
# What a request leads to

A request is refused at once, leads to a test that may run, or leads to a report. Nothing else
comes of it.
-/
namespace Reachability.Service

/-- What answering a request comes to. -/
inductive LeadsTo (defaultTimeout : Duration) (r : Request) : Program Response → Prop
  | refusal {refusal : Refusal} (h : r.Refused defaultTimeout refusal) :
      LeadsTo defaultTimeout r (.done (.ofRefusal refusal))
  | test {p : Protocol} {probe : Probe} (hpath : r.path = (Route.probe p).path)
      (hprobe : probeOf defaultTimeout r.body p = .ok probe) (hallowed : probe.violation? = none) :
      LeadsTo defaultTimeout r (Response.ofTest <$> probe.test)
  | report (exportType : String) (hpath : r.path = Route.report.path) :
      LeadsTo defaultTimeout r
        ((fun time => ⟨200, (Diagnostics.generate exportType time).toJson⟩) <$>
          Program.perform .epochSeconds)

theorem respond_of_report {defaultTimeout : Duration} {r : Request} {parameters : ReportRequest}
    (hroute : Route.ofPath? r.path = some .report)
    (hallows : Route.report.allows r.method = true)
    (hparameters : (if r.method == "GET" then .ok {} else
      decodeBody ReportRequest.shape r.body) = Except.ok parameters) :
    respond defaultTimeout r =
      (fun time => ⟨200, (Diagnostics.generate parameters.exportType time).toJson⟩) <$>
        Program.perform .epochSeconds := by
  simp only [respond, result, hroute, hallows, Bool.not_true, Bool.false_eq_true, if_false,
    makeReport, hparameters]
  rfl

theorem leadsTo_respond (defaultTimeout : Duration) (r : Request) :
    LeadsTo defaultTimeout r (respond defaultTimeout r) := by
  by_cases h : ∃ refusal, r.Refused defaultTimeout refusal
  · obtain ⟨refusal, h⟩ := h
    rw [respond_of_refused h]
    exact .refusal h
  · cases hroute : Route.ofPath? r.path with
    | none => exact absurd ⟨_, .notFound (Route.ofPath?_eq_none.mp hroute)⟩ h
    | some route =>
      cases hallows : route.allows r.method with
      | false =>
        exact absurd ⟨_, .methodNotAllowed (Request.isMisdirected_of_route hroute hallows)⟩ h
      | true =>
        have hpath := Route.ofPath?_eq_some.mp hroute
        have hrejects (hmethod : r.method = "POST") (refusal : Refusal) :
            ¬ route.Rejects defaultTimeout r.body refusal :=
          fun hrejects => h ⟨refusal, .rejected hpath hmethod hrejects⟩
        cases route with
        | probe p =>
          have hmethod := Route.allows_probe.mp hallows
          cases hprobe : probeOf defaultTimeout r.body p with
          | error reason => exact absurd (.malformedProbe hprobe) (hrejects hmethod _)
          | ok probe =>
            cases hv : probe.violation? with
            | some v => exact absurd (.violation hprobe hv) (hrejects hmethod _)
            | none =>
              have hr : r = ⟨"POST", (Route.probe p).path, r.body⟩ := by rw [← hmethod, ← hpath]
              have hrespond : respond defaultTimeout r = Response.ofTest <$> probe.test := by
                rw [hr]
                exact respond_of_probeOf hprobe
              rw [hrespond]
              exact .test hpath hprobe hv
        | report =>
          by_cases hget : r.method = "GET"
          · rw [respond_of_report hroute hallows (if_pos (beq_iff_eq.mpr hget))]
            exact .report _ hpath
          · have hmethod := (Route.allows_report.mp hallows).resolve_left hget
            cases hdecode : decodeBody ReportRequest.shape r.body with
            | error reason => exact absurd (.malformedReport hdecode) (hrejects hmethod _)
            | ok parameters =>
              have hnotGet : ¬ (r.method == "GET") = true := fun h => hget (beq_iff_eq.mp h)
              rw [respond_of_report hroute hallows ((if_neg hnotGet).trans hdecode)]
              exact .report _ hpath

end Reachability.Service
