import Mathlib.Data.List.Forall2
import Reachability.Proofs.Attempt.Datagrams
import Reachability.Proofs.Json.Meaning
import Reachability.Proofs.Service.Kinds

/-!
# Datagrams of a service

While requests are answered one after the other, one datagram goes out for each success over UDP
and none for any other request. It is the marker, and it goes to the port that was asked for at
the address that the host had at that time.
-/
namespace Reachability.Service

variable {σ : Type} {net : Network σ} {s : σ} {defaultTimeout : Duration}

def Response.isSuccess (answer : Response) : Bool :=
  answer.status == 200 && match answer.body.member? "status" with
    | some (.text status) => status == "success"
    | _ => false

structure Visit (σ : Type) where
  request : Request
  before : σ
  answer : Response

namespace Visit

def isSuccessOverUdp (v : Visit σ) : Bool :=
  v.request.path == (Route.probe .udp).path && v.answer.isSuccess

/-- Holds of the port that a request asks for, at the address that its host has. -/
def AddressedTo (net : Network σ) (v : Visit σ) (target : SocketAddress) : Prop :=
  ∃ (parameters : HostRequest) (ip : IpAddress),
    decodeBody HostRequest.shape v.request.body = .ok parameters ∧
    Attempt.resolved net v.before parameters.host = .ok ip ∧
    target = .ofIp ip parameters.port

end Visit

/-- The requests that are answered one after the other, each with the network as the one before
has left it. -/
def visits (net : Network σ) (defaultTimeout : Duration) : List Request → σ → List (Visit σ)
  | [], _ => []
  | r :: more, s =>
    ⟨r, s, (respond defaultTimeout r).run net s⟩ ::
      visits net defaultTimeout more ((respond defaultTimeout r).trace net s).2.1

theorem respondAll_cons (r : Request) (more : List Request) :
    respondAll defaultTimeout (r :: more) = respond defaultTimeout r >>= fun answer =>
      (answer :: ·) <$> respondAll defaultTimeout more := rfl

theorem map_request_visits (rs : List Request) :
    (visits net defaultTimeout rs s).map Visit.request = rs := by
  induction rs generalizing s with
  | nil => rfl
  | cons r more ih => simp [visits, ih]

theorem map_answer_visits (rs : List Request) :
    (visits net defaultTimeout rs s).map Visit.answer =
      (respondAll defaultTimeout rs).run net s := by
  induction rs generalizing s with
  | nil => rfl
  | cons r more ih => simp [visits, ih, respondAll_cons, Program.run_bind, Program.run_map]

theorem eq_of_mem_visits {rs : List Request} {v : Visit σ}
    (hv : v ∈ visits net defaultTimeout rs s) :
    v = ⟨v.request, v.before, (respond defaultTimeout v.request).run net v.before⟩ := by
  induction rs generalizing s with
  | nil => cases hv
  | cons r more ih =>
    rcases List.mem_cons.mp hv with rfl | hv
    · rfl
    · exact ih hv

/-- The visits account for everything that is sent. -/
theorem datagrams_respondAll (rs : List Request) :
    (respondAll defaultTimeout rs).datagrams net s =
      (visits net defaultTimeout rs s).flatMap fun v =>
        (respond defaultTimeout v.request).datagrams net v.before := by
  induction rs generalizing s with
  | nil => rfl
  | cons r more ih =>
    simp [visits, ih, respondAll_cons, Program.datagrams_bind, Program.datagrams_map]

theorem isSuccess_ofRefusal (refusal : Refusal) :
    (Response.ofRefusal refusal).isSuccess = false := by
  cases refusal <;> rfl

theorem isSuccess_ofTest (verdict : Verdict) :
    (Response.ofTest (.ok verdict)).isSuccess = (verdict.status == .success) := by
  change (true && match some (Json.text verdict.status.text) with
    | some (.text status) => status == "success"
    | _ => false) = _
  cases verdict.status <;> decide

theorem test_of_allowed {probe : Probe} (h : probe.violation? = none) :
    probe.test = .ok <$> probe.measure := by
  rw [Probe.test, h]
  rfl

theorem probeOf_udp {body : List UInt8} {probe : Probe}
    (h : probeOf defaultTimeout body .udp = .ok probe) :
    ∃ parameters, decodeBody HostRequest.shape body = .ok parameters ∧
      probe = .udp parameters.host parameters.port
        (timeoutFor defaultTimeout parameters.timeout) := by
  obtain ⟨parameters, hdecode, rfl⟩ := exists_of_map_eq_ok h
  exact ⟨parameters, hdecode, rfl⟩

theorem ne_udp_of_probeOf {p : Protocol} (hp : p ≠ .udp) {body : List UInt8} {probe : Probe}
    (h : probeOf defaultTimeout body p = .ok probe) (host : String) (port : UInt16)
    (timeout : Duration) : probe ≠ .udp host port timeout := by
  cases p with
  | udp => exact absurd rfl hp
  | tcp | elasticsearch | mqtt =>
    obtain ⟨parameters, -, rfl⟩ := exists_of_map_eq_ok h
    simp [HostRequest.tcpProbe, ClusterRequest.probe, BrokerRequest.probe]

theorem datagrams_visit_udp {r : Request} (hpath : r.path = (Route.probe .udp).path)
    {parameters : HostRequest} (hdecode : decodeBody HostRequest.shape r.body = .ok parameters)
    (timeout : Duration) :
    let measure := (Probe.udp parameters.host parameters.port timeout).measure
    let visit : Visit σ := ⟨r, s, .ofTest (.ok (measure.run net s))⟩
    (visit.isSuccessOverUdp = true → ∃ target, visit.AddressedTo net target ∧
      measure.datagrams net s = [(target, Attempt.payload)]) ∧
    (visit.isSuccessOverUdp = false → measure.datagrams net s = []) := by
  intro measure visit
  have hmeasure : measure.datagrams net s = (Attempt.udp parameters.host parameters.port).datagrams
      net s ∧ (measure.run net s).status = if ((Attempt.udp parameters.host parameters.port).run
        net s).isSuccess then .success else .warning := Probe.measure_udp _ _ timeout
  have hvisit : visit.isSuccessOverUdp =
      ((Attempt.udp parameters.host parameters.port).run net s).isSuccess := by
    have hsuccess : visit.isSuccessOverUdp = ((measure.run net s).status == .success) := by
      rw [Visit.isSuccessOverUdp, ← isSuccess_ofTest]
      simp [visit, hpath]
    rw [hsuccess, hmeasure.2]
    cases ((Attempt.udp parameters.host parameters.port).run net s).isSuccess <;> rfl
  rw [hvisit, hmeasure.1, Attempt.datagrams_udp]
  cases hresolved : Attempt.resolved net s parameters.host with
  | error failure => simp [Attempt.isSuccess_udp_of_unresolved hresolved]
  | ok ip =>
    refine ⟨fun hsuccess => ?_, fun hfails => by simp [hfails]⟩
    exact ⟨_, ⟨parameters, ip, hdecode, hresolved, rfl⟩, if_pos hsuccess⟩

theorem datagrams_respond (net : Network σ) (s : σ) (defaultTimeout : Duration) (r : Request) :
    let visit : Visit σ := ⟨r, s, (respond defaultTimeout r).run net s⟩
    (visit.isSuccessOverUdp = true → ∃ target, visit.AddressedTo net target ∧
      (respond defaultTimeout r).datagrams net s = [(target, Attempt.payload)]) ∧
    (visit.isSuccessOverUdp = false → (respond defaultTimeout r).datagrams net s = []) := by
  have hleads := leadsTo_respond defaultTimeout r
  generalize respond defaultTimeout r = answering at hleads ⊢
  intro visit
  cases hleads with
  | @refusal refusal _ =>
    have hfails : visit.isSuccessOverUdp = false := by
      simp [visit, Visit.isSuccessOverUdp, Program.run, isSuccess_ofRefusal]
    simp [hfails, Program.datagrams, Program.dialogue]
  | report exportType hpath =>
    have hother : visit.isSuccessOverUdp = false := by
      have hne : r.path ≠ (Route.probe .udp).path := by
        rw [hpath]
        decide
      simp [visit, Visit.isSuccessOverUdp, hne]
    have hperform : Program.Silent (Program.perform .epochSeconds) := .perform (by simp)
    simp [hother, (hperform.map _).datagrams_eq_nil]
  | @test p probe hpath hprobe hallowed =>
    have hanswer : visit.answer = .ofTest (.ok (probe.measure.run net s)) := by
      simp [visit, test_of_allowed hallowed, Program.run_map]
    have hvisit : visit = ⟨r, s, .ofTest (.ok (probe.measure.run net s))⟩ := by
      rw [← hanswer]
    rw [hvisit, test_of_allowed hallowed, Program.datagrams_map, Program.datagrams_map]
    by_cases hp : p = .udp
    · subst hp
      obtain ⟨parameters, hdecode, rfl⟩ := probeOf_udp hprobe
      exact datagrams_visit_udp hpath hdecode _
    · have hother : r.path ≠ (Route.probe .udp).path := by
        rw [hpath]
        revert hp
        cases p <;> decide
      have hsilent := Probe.silent_measure (ne_udp_of_probeOf hp hprobe)
      simp [Visit.isSuccessOverUdp, hother, hsilent.datagrams_eq_nil]

theorem exists_targets {l : List (Visit σ)} (h : ∀ v ∈ l,
    v = ⟨v.request, v.before, (respond defaultTimeout v.request).run net v.before⟩) :
    ∃ targets : List SocketAddress,
      (l.flatMap fun v => (respond defaultTimeout v.request).datagrams net v.before) =
        targets.map (·, Attempt.payload) ∧
      List.Forall₂ (Visit.AddressedTo net) (l.filter Visit.isSuccessOverUdp) targets := by
  induction l with
  | nil => exact ⟨[], rfl, .nil⟩
  | cons v l ih =>
    obtain ⟨hv, hl⟩ := List.forall_mem_cons.mp h
    obtain ⟨targets, hsent, haddressed⟩ := ih hl
    obtain ⟨hsuccess, hother⟩ := datagrams_respond net v.before defaultTimeout v.request
    rw [← hv] at hsuccess hother
    cases hcase : v.isSuccessOverUdp with
    | true =>
      obtain ⟨target, htarget, hdatagram⟩ := hsuccess hcase
      refine ⟨target :: targets, by simp [hdatagram, hsent], ?_⟩
      rw [List.filter_cons_of_pos hcase]
      exact .cons htarget haddressed
    | false =>
      refine ⟨targets, by simp [hother hcase, hsent], ?_⟩
      rwa [List.filter_cons_of_neg (by simp [hcase])]

/-- While requests are answered one after the other, the datagrams that go out are one for each
success over UDP, in order: the marker, to the port asked for at the address found. All other
requests send nothing: those with another path, those with another answer, and those whose host
has no address. -/
theorem one_datagram_for_each_success (net : Network σ) (s : σ) (defaultTimeout : Duration)
    (rs : List Request) :
    let visits := visits net defaultTimeout rs s
    visits.map Visit.request = rs ∧
    visits.map Visit.answer = (respondAll defaultTimeout rs).run net s ∧
    (∃ targets : List SocketAddress,
      (respondAll defaultTimeout rs).datagrams net s = targets.map (·, Attempt.payload) ∧
      List.Forall₂ (Visit.AddressedTo net) (visits.filter Visit.isSuccessOverUdp) targets) ∧
    ∀ v ∈ visits, (v.request.path ≠ (Route.probe .udp).path ∨ v.answer.isSuccess = false ∨
        ∀ target, ¬ v.AddressedTo net target) →
      (respond defaultTimeout v.request).datagrams net v.before = [] := by
  refine ⟨map_request_visits rs, map_answer_visits rs, ?_, ?_⟩
  · rw [datagrams_respondAll]
    exact exists_targets fun v hv => eq_of_mem_visits hv
  · intro v hv hcase
    obtain ⟨hsuccess, hother⟩ := datagrams_respond net v.before defaultTimeout v.request
    rw [← eq_of_mem_visits hv] at hsuccess hother
    apply hother
    rcases hcase with hpath | hanswer | htarget
    · simp [Visit.isSuccessOverUdp, hpath]
    · simp [Visit.isSuccessOverUdp, hanswer]
    · rw [Bool.eq_false_iff]
      intro hcase
      obtain ⟨target, haddressed, -⟩ := hsuccess hcase
      exact htarget target haddressed

end Reachability.Service
