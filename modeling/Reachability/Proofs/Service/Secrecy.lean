import Reachability.Proofs.Probe.Credentials
import Reachability.Proofs.Service.Members

/-!
# What an answer tells about credentials

Two bodies that differ in their credentials only lead to the same questions to the network and
to the same answer. The password never makes a difference, and the user name only by whether it
is empty, and not even so where the request is refused or the first attempt of its test fails.
-/
namespace Reachability.Service

open Json (Meanings without)

/-! ## Bodies with other credentials -/

/-- The members of an object other than its credentials. -/
def withoutCredentials (ms : List (String × Json)) : List (String × Json) :=
  without "password" (without "username" ms)

namespace ClusterRequest

/-- Without its credentials an object is decoded to the same but for the credentials. -/
theorem exists_decode_withoutCredentials {ms : List (String × Json)} {r : ClusterRequest}
    (h : meanings.decode [] {} ms = .ok r) :
    ∃ r' : ClusterRequest, meanings.decode [] {} (withoutCredentials ms) = .ok r' ∧
      { r with credentials := {} } = { r' with credentials := {} } := by
  obtain ⟨middle, hmiddle, husername⟩ := independent.exists_decode_without "username" rfl h
  obtain ⟨r', hr', hpassword⟩ := independent.exists_decode_without "password" rfl hmiddle
  refine ⟨r', hr', ?_⟩
  rcases husername with rfl | ⟨_, rfl⟩ <;> rcases hpassword with rfl | ⟨_, rfl⟩ <;> rfl

end ClusterRequest

namespace BrokerRequest

theorem exists_decode_withoutCredentials {ms : List (String × Json)} {r : BrokerRequest}
    (h : meanings.decode [] {} ms = .ok r) :
    ∃ r' : BrokerRequest, meanings.decode [] {} (withoutCredentials ms) = .ok r' ∧
      { r with credentials := {} } = { r' with credentials := {} } := by
  obtain ⟨middle, hmiddle, husername⟩ := independent.exists_decode_without "username" rfl h
  obtain ⟨r', hr', hpassword⟩ := independent.exists_decode_without "password" rfl hmiddle
  refine ⟨r', hr', ?_⟩
  rcases husername with rfl | ⟨_, rfl⟩ <;> rcases hpassword with rfl | ⟨_, rfl⟩ <;> rfl

end BrokerRequest

section

variable {defaultTimeout : Duration} {p : Protocol} {probe : Probe}

theorem exists_probeOfMembers_withoutCredentials {ms : List (String × Json)}
    (h : probeOfMembers defaultTimeout ms p = .ok probe) :
    ∃ probe', probeOfMembers defaultTimeout (withoutCredentials ms) p = .ok probe' ∧
      probe.SameButCredentials probe' := by
  have hhost : HostRequest.meanings.decode [] {} (withoutCredentials ms) =
      HostRequest.meanings.decode [] {} ms := by
    rw [withoutCredentials, Meanings.decode_without rfl, Meanings.decode_without rfl]
  cases p with
  | tcp => exact ⟨probe, by rwa [probeOfMembers, hhost], rfl⟩
  | udp => exact ⟨probe, by rwa [probeOfMembers, hhost], rfl⟩
  | elasticsearch =>
    obtain ⟨r, hr, rfl⟩ := exists_of_map_eq_ok h
    obtain ⟨r', hr', hsame⟩ := ClusterRequest.exists_decode_withoutCredentials hr
    refine ⟨r'.probe defaultTimeout, by rw [probeOfMembers, hr']; rfl, ?_⟩
    exact congrArg (ClusterRequest.probe · defaultTimeout) hsame
  | mqtt =>
    obtain ⟨r, hr, rfl⟩ := exists_of_map_eq_ok h
    obtain ⟨r', hr', hsame⟩ := BrokerRequest.exists_decode_withoutCredentials hr
    refine ⟨r'.probe defaultTimeout, by rw [probeOfMembers, hr']; rfl, ?_⟩
    exact congrArg (BrokerRequest.probe · defaultTimeout) hsame

/-- Holds if two bodies ask for the same but for the credentials: the tests that they ask for
differ in nothing else, or their members do. -/
inductive DifferInCredentials (body other : List UInt8) (probe otherProbe : Probe) : Prop
  | tests (h : probe.SameButCredentials otherProbe)
  | members {ms others : List (String × Json)} (h : HasMembers body ms)
      (hother : HasMembers other others)
      (hsame : withoutCredentials ms = withoutCredentials others)

theorem DifferInCredentials.sameButCredentials {body other : List UInt8} {otherProbe : Probe}
    (h : DifferInCredentials body other probe otherProbe)
    (hbody : probeOf defaultTimeout body p = .ok probe)
    (hother : probeOf defaultTimeout other p = .ok otherProbe) :
    probe.SameButCredentials otherProbe := by
  cases h with
  | tests h => exact h
  | @members ms others hms hothers hsame =>
    obtain ⟨common, hcommon, hprobe⟩ :=
      exists_probeOfMembers_withoutCredentials (probeOfMembers_of_probeOf hms hbody)
    obtain ⟨common', hcommon', hprobe'⟩ :=
      exists_probeOfMembers_withoutCredentials (probeOfMembers_of_probeOf hothers hother)
    obtain rfl : common = common' := by
      rw [hsame, hcommon'] at hcommon
      exact (Except.ok.inj hcommon).symm
    exact Eq.trans hprobe hprobe'.symm

/-! ## Answers -/

theorem respond_of_not_post {method : String} (h : method ≠ "POST") (body : List UInt8) :
    respond defaultTimeout ⟨method, (Route.probe p).path, body⟩ =
      .done (.ofRefusal .methodNotAllowed) :=
  respond_of_refused (.methodNotAllowed (.inl ⟨⟨p, rfl⟩, h⟩))

theorem respond_congr_test {body other : List UInt8} {otherProbe : Probe}
    (hbody : probeOf defaultTimeout body p = .ok probe)
    (hother : probeOf defaultTimeout other p = .ok otherProbe)
    (h : probe.test = otherProbe.test) (method : String) :
    respond defaultTimeout ⟨method, (Route.probe p).path, body⟩ =
      respond defaultTimeout ⟨method, (Route.probe p).path, other⟩ := by
  by_cases hmethod : method = "POST"
  · subst hmethod
    rw [respond_of_probeOf hbody, respond_of_probeOf hother, h]
  · rw [respond_of_not_post hmethod, respond_of_not_post hmethod]

/-- Where a request is refused, or the first attempt of its test fails, any credentials lead to
the same questions and answer. -/
theorem trace_respond_of_failed {body other : List UInt8} {otherProbe : Probe}
    (hbody : probeOf defaultTimeout body p = .ok probe)
    (hother : probeOf defaultTimeout other p = .ok otherProbe)
    (hsame : probe.SameButCredentials otherProbe) {σ : Type} (net : Network σ) (s : σ)
    {method : String}
    (h : ((respond defaultTimeout ⟨method, (Route.probe p).path, body⟩).run net s).status ≠ 200 ∨
      (probe.primary.run net s).isSuccess = false) :
    (respond defaultTimeout ⟨method, (Route.probe p).path, body⟩).trace net s =
      (respond defaultTimeout ⟨method, (Route.probe p).path, other⟩).trace net s := by
  cases hv : probe.violation? with
  | some v =>
    have htest : probe.test = otherProbe.test := by
      rw [Probe.test, Probe.test, ← hsame.violation?_eq, hv]
    rw [respond_congr_test hbody hother htest method]
  | none =>
    by_cases hmethod : method = "POST"
    · subst hmethod
      have hfailed := h.resolve_left (not_not_intro (status_of_none net s hbody hv))
      rw [respond_of_probeOf hbody, respond_of_probeOf hother, Program.trace_map,
        Program.trace_map, hsame.trace_test_of_failed hfailed]
    · rw [respond_of_not_post hmethod, respond_of_not_post hmethod]

end

/-- Of two requests that differ in their credentials only, and agree in whether there is a user
name, both get the same answer after the same questions. Where the request is refused, or the
first attempt fails, this holds for any credentials. The text of credentials does not show the
password. -/
theorem credentials_kept (defaultTimeout : Duration) (p : Protocol) {body other : List UInt8}
    {probe otherProbe : Probe} (hbody : probeOf defaultTimeout body p = .ok probe)
    (hother : probeOf defaultTimeout other p = .ok otherProbe)
    (hdiffer : DifferInCredentials body other probe otherProbe) :
    let answer (method : String) (body : List UInt8) :=
      respond defaultTimeout ⟨method, (Route.probe p).path, body⟩
    (probe.credentials.isConfigured = otherProbe.credentials.isConfigured →
      ∀ method, answer method body = answer method other) ∧
    (∀ {σ : Type} (net : Network σ) (s : σ) (method : String),
      ((answer method body).run net s).status ≠ 200 ∨
        (probe.primary.run net s).isSuccess = false →
      (answer method body).trace net s = (answer method other).trace net s) ∧
    ∀ username password otherPassword,
      (Credentials.mk username password).redacted =
        (Credentials.mk username otherPassword).redacted := by
  intro answer
  have hsame := hdiffer.sameButCredentials hbody hother
  refine ⟨?_, ?_, fun _ _ _ => rfl⟩
  · intro huser method
    exact respond_congr_test hbody hother (hsame.test_eq huser) method
  · exact fun net s method h => trace_respond_of_failed hbody hother hsame net s h

/-- Two bodies for the test of a broker, with a password each. -/
theorem credentials_kept_broker :
    let members (password : String) : List (String × Json) :=
      [("host", .text "h"), ("username", .text "u"), ("password", .text password)]
    let body (password : String) := (Json.object (members password)).compactBytes
    (∀ password, probeOf (.ofSeconds 10) (body password) .mqtt =
      .ok (.mqtt "h" none ⟨"u", password⟩ (.ofSeconds 10))) ∧
    respond (.ofSeconds 10) ⟨"POST", "/api/v1/connectivity/test/mqtt", body "a"⟩ =
      respond (.ofSeconds 10) ⟨"POST", "/api/v1/connectivity/test/mqtt", body "\""⟩ := by
  intro members body
  have hbody (password : String) : Json.Document (.object (members password)) (body password) := by
    refine (Json.document_compactBytes (.object ?_)).mpr rfl
    simp only [members, List.forall_mem_cons]
    exact ⟨.text _, .text _, .text _, by simp⟩
  have hprobe (password : String) : probeOf (.ofSeconds 10) (body password) .mqtt =
      .ok (.mqtt "h" none ⟨"u", password⟩ (.ofSeconds 10)) := by
    obtain ⟨left, hmembers⟩ := probeOf_members (.object (hbody password)) .mqtt
    exact hmembers
  refine ⟨hprobe, ?_⟩
  exact (credentials_kept (.ofSeconds 10) .mqtt (hprobe "a") (hprobe "\"")
    (.members (.object (hbody "a")) (.object (hbody "\"")) rfl)).1 rfl "POST"

end Reachability.Service
