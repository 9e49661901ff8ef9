import Reachability.Proofs.Service.Members

/-!
# Bodies written in other ways

A route knows some members of a body. What the body asks for is what these say: it does not
matter in which order they stand, how their names and texts are escaped, where there is white
space, or what other members there are. A body of white space says what an empty object does.
-/
namespace Reachability.Service

open Json (Document Meanings Shape valuesOf)

section

variable {ρ : Type} {s : Shape ρ} {meanings : Meanings ρ} {body other : List UInt8}
  {ms others : List (String × Json)} {r : ρ}

theorem names_fields (h : s.Decodes meanings) : s.fields.map (·.name) = meanings.map (·.1) := by
  unfold Shape.Decodes at h
  generalize s.fields = fields at h
  induction h with
  | nil => rfl
  | cons hfirst _ ih => rw [List.map_cons, List.map_cons, hfirst.1, ih]

theorem decodeBody_eq_ok (hs : s.Decodes meanings) (h : HasMembers body ms) :
    decodeBody s body = .ok r ↔ meanings.decode [] s.defaults ms = .ok r := by
  obtain ⟨left, hdecode⟩ := decodeBody_members hs h
  rw [hdecode]
  cases meanings.decode [] s.defaults ms <;> simp [Except.mapError]

/-- Two bodies that have the same values of all known names hold the same parameters. -/
theorem decodeBody_congr (hs : s.Decodes meanings) (hindependent : meanings.Independent)
    (h : HasMembers body ms) (hother : HasMembers other others)
    (hsame : ∀ name ∈ s.fields.map (·.name), valuesOf name ms = valuesOf name others)
    (hdecode : decodeBody s body = .ok r) : decodeBody s other = .ok r := by
  rw [names_fields hs] at hsame
  rw [decodeBody_eq_ok hs h] at hdecode
  rw [decodeBody_eq_ok hs hother]
  exact hindependent.decode_congr hsame hdecode

end

/-! ## Routes and what they read of a body -/

namespace Route

def Parameters : Route → Type
  | .probe .tcp | .probe .udp => HostRequest
  | .probe .elasticsearch => ClusterRequest
  | .probe .mqtt => BrokerRequest
  | .report => ReportRequest

def shape : (route : Route) → Shape route.Parameters
  | .probe .tcp | .probe .udp => HostRequest.shape
  | .probe .elasticsearch => ClusterRequest.shape
  | .probe .mqtt => BrokerRequest.shape
  | .report => ReportRequest.shape

/-- The names of the members that a route knows. -/
def names (route : Route) : List String := route.shape.fields.map (·.name)

theorem exists_meanings (route : Route) :
    ∃ meanings : Meanings route.Parameters, route.shape.Decodes meanings ∧ meanings.Independent := by
  cases route with
  | probe p =>
    cases p with
    | tcp | udp => exact ⟨_, HostRequest.decodes, HostRequest.independent⟩
    | elasticsearch => exact ⟨_, ClusterRequest.decodes, ClusterRequest.independent⟩
    | mqtt => exact ⟨_, BrokerRequest.decodes, BrokerRequest.independent⟩
  | report => exact ⟨_, ReportRequest.decodes, ReportRequest.independent⟩

end Route

variable {defaultTimeout : Duration} {body other : List UInt8}

theorem respond_congr_decodeBody {route : Route}
    (h : decodeBody route.shape body = decodeBody route.shape other) (method : String) :
    respond defaultTimeout ⟨method, route.path, body⟩ =
      respond defaultTimeout ⟨method, route.path, other⟩ := by
  have hresult : result defaultTimeout ⟨method, route.path, body⟩ =
      result defaultTimeout ⟨method, route.path, other⟩ := by
    simp only [result, Route.ofPath?_eq_some.mpr rfl]
    cases route with
    | probe p =>
      have hprobe : probeOf defaultTimeout body p = probeOf defaultTimeout other p := by
        cases p with
        | tcp | udp | elasticsearch | mqtt => exact congrArg (Except.map _) h
      simp only [runProbe, hprobe]
    | report =>
      have hreport : decodeBody ReportRequest.shape body = decodeBody ReportRequest.shape other := h
      simp only [makeReport, hreport]
  simp only [respond, hresult]

theorem respond_congr_routes (h : ∀ route : Route,
    decodeBody route.shape body = decodeBody route.shape other) (method path : String) :
    respond defaultTimeout ⟨method, path, body⟩ = respond defaultTimeout ⟨method, path, other⟩ := by
  cases hroute : Route.ofPath? path with
  | none => simp only [respond, result, hroute]
  | some route =>
    obtain rfl := Route.ofPath?_eq_some.mp hroute
    exact respond_congr_decodeBody (h route) method

/-! ## Rewritten bodies -/

/-- Holds if two bodies are objects that have the same values of all names that a route knows. -/
inductive Route.Rewrites (route : Route) (body other : List UInt8) : Prop
  | intro {ms others : List (String × Json)} (h : Document (.object ms) body)
      (hother : Document (.object others) other)
      (hsame : ∀ name ∈ route.names, valuesOf name ms = valuesOf name others)

def whiteSpaceBytes : List UInt8 := [0x09, 0x0A, 0x0C, 0x0D, 0x20]

theorem isBodyBlank_iff {b : UInt8} : isBodyBlank b = true ↔ b ∈ whiteSpaceBytes := by
  simp only [isBodyBlank, whiteSpaceBytes, Bool.or_eq_true, beq_iff_eq, List.mem_cons,
    List.not_mem_nil, or_false]
  tauto

def emptyObject : List UInt8 := [0x7B, 0x7D]

theorem document_emptyObject : Document (.object []) emptyObject :=
  .mk Json.isBlank_nil (.emptyObject Json.isBlank_nil) Json.isBlank_nil

/-- If one of two bodies that are the same but for how they are written is decoded for a route,
then so is the other, and both get the same answer after the same questions. A body of white
space gets the answer to an empty object. -/
theorem respond_rewritten (defaultTimeout : Duration) :
    (∀ (route : Route) (body other : List UInt8), route.Rewrites body other →
      ∀ parameters, decodeBody route.shape body = .ok parameters →
        decodeBody route.shape other = .ok parameters ∧
        respond defaultTimeout ⟨"POST", route.path, body⟩ =
          respond defaultTimeout ⟨"POST", route.path, other⟩) ∧
    ∀ blank : List UInt8, (∀ b ∈ blank, b ∈ whiteSpaceBytes) → ∀ method path : String,
      respond defaultTimeout ⟨method, path, blank⟩ =
        respond defaultTimeout ⟨method, path, emptyObject⟩ := by
  constructor
  · intro route body other hrewrites parameters hbody
    obtain ⟨h, hother, hsame⟩ := hrewrites
    obtain ⟨meanings, hs, hindependent⟩ := route.exists_meanings
    have hdecode := decodeBody_congr hs hindependent (.object h) (.object hother) hsame hbody
    exact ⟨hdecode, respond_congr_decodeBody (hbody.trans hdecode.symm) "POST"⟩
  · intro blank hblank method path
    have hmembers : HasMembers blank [] :=
      .blank (List.all_eq_true.mpr fun b hb => isBodyBlank_iff.mpr (hblank b hb))
    refine respond_congr_routes (fun route => ?_) method path
    obtain ⟨meanings, hs, -⟩ := route.exists_meanings
    have hdefaults {body : List UInt8} (h : HasMembers body []) :
        decodeBody route.shape body = .ok route.shape.defaults :=
      (decodeBody_eq_ok hs h).mpr rfl
    rw [hdefaults hmembers, hdefaults (.object document_emptyObject)]

/-- Two members in either order, with escapes, white space and a member that no route knows. -/
example :
    let plain := "\x7b\"host\":\"h\",\"port\":80\x7d"
    let rewritten := "\x7b \"more\":[[],\x7b\x7d], \"\\u0070ort\":80, \"host\":\"\\u0068\" \x7d"
    ∀ text ∈ [plain, rewritten],
      decodeBody HostRequest.shape (Json.bytes text.toList) = .ok ⟨"h", 80, none⟩ := by
  decide +kernel

end Reachability.Service
