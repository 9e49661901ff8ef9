import Reachability.Network.Isolated
import Reachability.Proofs.Json.Listed
import Reachability.Proofs.Service.Rewritten

/-!
# Bodies of other shapes

A body is meant to be an object. What is neither an object nor blank is refused before anything is
asked of the outside, whatever else it is, with two exceptions: nobody looks into the strings of
members that the route does not know, and an array stands for the object that gives its items to
the members in the order in which the route has them.
-/
namespace Reachability.Service

open Json (Document LooseObject Meanings Reader Shape)
open Json.Shape (Fits)

theorem takes_portNumber : portNumber.Takes := (Reader.takes_natural _ _).map _

theorem takes_seconds : seconds.Takes := Reader.takes_natural _ _

namespace Route

theorem takes (route : Route) : route.shape.Takes := by
  have hhost : HostRequest.shape.Takes := by
    simp only [Shape.Takes, HostRequest.shape, List.forall_mem_cons]
    exact ⟨Reader.takes_text.into _, takes_portNumber.into _, takes_seconds.optional.into _,
      by simp⟩
  have hcluster : ClusterRequest.shape.Takes := by
    simp only [Shape.Takes, ClusterRequest.shape, List.forall_mem_cons]
    exact ⟨Reader.takes_text.into _, Reader.takes_text.into _, Reader.takes_text.into _,
      takes_seconds.optional.into _, by simp⟩
  have hbroker : BrokerRequest.shape.Takes := by
    simp only [Shape.Takes, BrokerRequest.shape, List.forall_mem_cons]
    exact ⟨Reader.takes_text.into _, takes_portNumber.optional.into _, Reader.takes_text.into _,
      Reader.takes_text.into _, takes_seconds.optional.into _, by simp⟩
  have hreport : ReportRequest.shape.Takes := by
    simp only [Shape.Takes, ReportRequest.shape, List.forall_mem_cons]
    exact ⟨Reader.takes_text.into _, by simp⟩
  cases route with
  | probe p =>
    cases p with
    | tcp | udp => exact hhost
    | elasticsearch => exact hcluster
    | mqtt => exact hbroker
  | report => exact hreport

theorem nodup_names (route : Route) : route.names.Nodup := by
  rcases route with (_ | _ | _ | _) | _ <;> decide

/-- Holds if a body that is posted to a route gets the answer that it is malformed, and nothing is
asked of the outside. -/
def Refuses (route : Route) (defaultTimeout : Duration) (body : List UInt8) : Prop :=
  ∃ reason, respond defaultTimeout ⟨"POST", route.path, body⟩ =
    .done ⟨400, .object [("error", .text ("Invalid request body: " ++ reason))]⟩

theorem refuses_of_error {route : Route} {body : List UInt8} {reason : String}
    (h : decodeBody route.shape body = .error reason) (defaultTimeout : Duration) :
    route.Refuses defaultTimeout body := by
  have hrejects : route.Rejects defaultTimeout body (.malformedBody reason) := by
    cases route with
    | probe p =>
      refine .malformedProbe ?_
      cases p with
      | tcp | udp | elasticsearch | mqtt => exact congrArg (Except.map _) h
    | report => exact .malformedReport h
  have hanswer : respond defaultTimeout ⟨"POST", route.path, body⟩ =
      .done (.ofRefusal (.malformedBody reason)) :=
    respond_of_refused (.rejected rfl rfl hrejects)
  exact ⟨reason, hanswer⟩

end Route

theorem decodeBody_eq_readAll {ρ : Type} {s : Shape ρ} {body : List UInt8} {r : ρ}
    (hblank : body.all isBodyBlank = false) :
    decodeBody s body = .ok r ↔ s.readAll body = .ok r := by
  rw [decodeBody, hblank]
  cases s.readAll body <;> simp [Except.mapError]

theorem all_isBodyBlank_looseObject {known : List String} {ms : List (String × Json)}
    {body : List UInt8} (h : LooseObject known ms body) : body.all isBodyBlank = false := by
  obtain ⟨tail, hskip⟩ := h.skipBlank
  obtain ⟨ws, -, rfl⟩ := Json.exists_of_skipBlank hskip
  have hbrace : isBodyBlank (Json.byte '{') = false := by decide
  simp [hbrace]

/-- Relates a body to the members that a route reads from it. -/
inductive Route.Finds (route : Route) (body : List UInt8) : List (String × Json) → Prop
  | blank (h : body.all isBodyBlank = true) : Finds route body []
  | object {ms : List (String × Json)} (h : LooseObject route.names ms body) : Finds route body ms
  | array {items : List Json} (h : Document (.array items) body)
      (hfits : Fits route.shape.fields items) : Finds route body (route.names.zip items)

namespace Route

variable {route : Route} {body other : List UInt8} {ms : List (String × Json)}
  {parameters : route.Parameters}

theorem Finds.decodeBody_eq_ok (h : route.Finds body ms) {meanings : Meanings route.Parameters}
    (hs : route.shape.Decodes meanings) : decodeBody route.shape body = .ok parameters ↔
      meanings.decode [] route.shape.defaults ms = .ok parameters := by
  cases h with
  | blank h => simp [decodeBody, h, Meanings.decode]
  | object h =>
    rw [decodeBody_eq_readAll (all_isBodyBlank_looseObject h), ← Shape.readAll_unplaced hs h]
    cases route.shape.readAll body <;> simp [Json.unplaced, Except.mapError]
  | array h hfits =>
    rw [decodeBody_eq_readAll (all_isBodyBlank_document h),
      Shape.readAll_array route.takes hs route.nodup_names h]
    exact and_iff_right hfits

theorem exists_finds (h : decodeBody route.shape body = .ok parameters) :
    ∃ ms, route.Finds body ms := by
  cases hblank : body.all isBodyBlank with
  | true => exact ⟨_, .blank hblank⟩
  | false =>
    obtain ⟨meanings, hs, -⟩ := route.exists_meanings
    have hread := (decodeBody_eq_readAll hblank).mp h
    rcases Shape.exists_of_readAll route.takes hs route.nodup_names hread with
      ⟨ms, hobject⟩ | ⟨items, harray, hfits, -⟩
    · exact ⟨ms, .object hobject⟩
    · exact ⟨_, .array harray hfits⟩

/-- Two bodies that hold the same parameters, if any, get the same answer or are both refused. -/
theorem same_or_refuses (h : ∀ parameters, decodeBody route.shape body = .ok parameters ↔
    decodeBody route.shape other = .ok parameters) (defaultTimeout : Duration) :
    respond defaultTimeout ⟨"POST", route.path, body⟩ =
        respond defaultTimeout ⟨"POST", route.path, other⟩ ∨
      route.Refuses defaultTimeout body ∧ route.Refuses defaultTimeout other := by
  cases hbody : decodeBody route.shape body with
  | ok parameters =>
    exact .inl (respond_congr_decodeBody (hbody.trans ((h parameters).mp hbody).symm) "POST")
  | error reason =>
    right
    refine ⟨refuses_of_error hbody defaultTimeout, ?_⟩
    cases hother : decodeBody route.shape other with
    | error reason' => exact refuses_of_error hother defaultTimeout
    | ok parameters =>
      rw [(h parameters).mpr hother] at hbody
      cases hbody

end Route

/-- Whatever else is posted to a route than white space, an object or an array is refused, and so is
an array that does not fit the members of the route. In an object nobody looks into the strings of
members that the route does not know. A body in which the route finds members gets the answer to
an object that has these. -/
theorem refused_unless_shaped (defaultTimeout : Duration) (route : Route) :
    (∀ body : List UInt8, body.all isBodyBlank = false →
      (∀ ms, ¬ LooseObject route.names ms body) →
      (∀ items, Document (.array items) body → ¬ Fits route.shape.fields items) →
        route.Refuses defaultTimeout body) ∧
    ∀ (ms : List (String × Json)) (body other : List UInt8), route.Finds body ms →
      HasMembers other ms →
        respond defaultTimeout ⟨"POST", route.path, body⟩ =
            respond defaultTimeout ⟨"POST", route.path, other⟩ ∨
          route.Refuses defaultTimeout body ∧ route.Refuses defaultTimeout other := by
  constructor
  · intro body hblank hobject harray
    cases hbody : decodeBody route.shape body with
    | error reason => exact Route.refuses_of_error hbody defaultTimeout
    | ok parameters =>
      obtain ⟨ms, hfinds⟩ := Route.exists_finds hbody
      cases hfinds with
      | blank h => exact absurd (hblank.symm.trans h) (by decide)
      | object h => exact absurd h (hobject ms)
      | @array items h hfits => exact absurd hfits (harray items h)
  · intro ms body other hfinds hother
    obtain ⟨meanings, hs, -⟩ := route.exists_meanings
    refine Route.same_or_refuses ?_ defaultTimeout
    intro parameters
    exact (hfinds.decodeBody_eq_ok hs).trans (decodeBody_eq_ok hs hother).symm

def emptyArray : List UInt8 := [0x5B, 0x5D]

theorem document_emptyArray : Document (.array []) emptyArray :=
  .mk Json.isBlank_nil (.emptyArray Json.isBlank_nil) Json.isBlank_nil

/-- A body that is a boolean is refused by all routes, and the report takes an empty array for an
empty object. -/
theorem refused_unless_shaped_boolean : Document (.boolean true) (Json.bytes "true".toList) ∧
    (∀ route : Route, route.Refuses (.ofSeconds 10) (Json.bytes "true".toList)) ∧
    respond (.ofSeconds 10) ⟨"POST", Route.report.path, emptyArray⟩ =
      respond (.ofSeconds 10) ⟨"POST", Route.report.path, emptyObject⟩ := by
  have htrue : Document (.boolean true) (Json.bytes "true".toList) :=
    .mk Json.isBlank_nil .true Json.isBlank_nil
  refine ⟨htrue, ?_, ?_⟩
  · intro route
    refine (refused_unless_shaped (.ofSeconds 10) route).1 _ (all_isBodyBlank_document htrue) ?_ ?_
    · intro ms hobject
      obtain ⟨ms, heq⟩ := hobject.eq_object htrue
      cases heq
    · intro items harray
      cases htrue.unique harray
  · have hanswer := (refused_unless_shaped (.ofSeconds 10) .report).2 _ _ _
      (.array document_emptyArray (Shape.fits_nil.mpr rfl)) (.object document_emptyObject)
    refine hanswer.resolve_right ?_
    rintro ⟨⟨reason, hrefused⟩, -⟩
    have hstatus : ((respond (.ofSeconds 10) ⟨"POST", Route.report.path, emptyArray⟩).run
        (Network.isolated 0) ()).status = 200 := by decide +kernel
    rw [hrefused] at hstatus
    cases hstatus

/-- The body of an object whose member has a string that is no UTF-8. -/
def illFormed : List UInt8 := [0x7B, 0x22, 0x61, 0x22, 0x3A, 0x22, 0xFF, 0x22, 0x7D]

theorem not_document_illFormed (ms : List (String × Json)) : ¬ Document (.object ms) illFormed := by
  have hchar : Json.WrittenChar 'a' [0x61] := .plain (by decide) (by decide) (by decide)
  have hname : Json.WrittenString "a" [0x22, 0x61, 0x22] :=
    @Json.WrittenString.mk "a" [0x61] (.cons hchar .nil)
  refine @Json.not_document_of_string _ _ [0xFF, 0x22, 0x7D] hname ?_ ms
  intro x h
  have hfault : Json.string [0xFF, 0x22, 0x7D] = .error ⟨.badText, 2⟩ := by decide +kernel
  rw [hfault] at h
  cases h

def ReportedWithoutObject (body : List UInt8) : Prop :=
  body.all isBodyBlank = false ∧ (∀ ms, ¬ Document (.object ms) body) ∧
    ((respond (.ofSeconds 10) ⟨"POST", Route.report.path, body⟩).run
      (Network.isolated 0) ()).status = 200

/-- A report is made for an empty array and for a text that is none of JSON. -/
theorem reported_without_object :
    ReportedWithoutObject emptyArray ∧ ReportedWithoutObject illFormed := by
  refine ⟨⟨by decide, ?_, by decide +kernel⟩, by decide, not_document_illFormed, by decide +kernel⟩
  intro ms hobject
  cases document_emptyArray.unique hobject

end Reachability.Service
