import Reachability.Proofs.Json.Independent
import Reachability.Proofs.Probe.Contract
import Reachability.Proofs.Service.Asked

/-!
# What the members of a body ask for

A body that is an object asks for the test that its members describe, and a blank body for that
of an object without members. Where the members describe no test, the first one at fault says
why, and only the place in the reason depends on how the body is written.
-/
namespace Reachability.Service

open Json (Document Fault Meaning Meanings Problem Reader Shape)

/-- Holds if a body is an object with these members; a blank body has none. -/
inductive HasMembers (body : List UInt8) : List (String × Json) → Prop
  | object {ms : List (String × Json)} (h : Document (.object ms) body) : HasMembers body ms
  | blank (h : body.all isBodyBlank = true) : HasMembers body []

theorem hasMembers_compactBytes {ms : List (String × Json)} (h : (Json.object ms).IsProper) :
    HasMembers (Json.object ms).compactBytes ms :=
  .object ((Json.document_compactBytes h).mpr rfl)

def portMeaning : Meaning UInt16 := fun v => (Meaning.natural 65535 "u16" v).map UInt16.ofNat

def secondsMeaning : Meaning Nat := Meaning.natural (UInt64.size - 1) "u64"

theorem decodes_portNumber : portNumber.Decodes portMeaning := by
  intro v before bs rest hbefore h hrest
  rw [portNumber, Json.unplaced_map, Reader.decodes_natural 65535 "u16" hbefore h hrest,
    portMeaning]
  cases Meaning.natural 65535 "u16" v <;> rfl

theorem decodes_seconds : seconds.Decodes secondsMeaning := Reader.decodes_natural _ _

theorem secondsMeaning_natural {n : Nat} (h : n < UInt64.size) :
    secondsMeaning (Json.natural n) = .ok n := by
  have hnumber : Meaning.number (.ofNat n) = .ok (.natural n) := by
    rw [Meaning.number, Json.Number.ofNumeral_ofNat h, Json.unplaced_ok]
  have hlimit : n ≤ UInt64.size - 1 := Nat.le_sub_one_of_lt h
  simp only [secondsMeaning, Json.natural, Meaning.natural, hnumber, bind, Except.bind, hlimit,
    if_true]

def HostRequest.meanings : Meanings HostRequest := [
  ("host", Meaning.text.into fun host r => { r with host }),
  ("port", portMeaning.into fun port r => { r with port }),
  ("timeout", secondsMeaning.optional.into fun timeout r => { r with timeout })]

def ClusterRequest.meanings : Meanings ClusterRequest := [
  ("url", Meaning.text.into fun url r => { r with url }),
  ("username", Meaning.text.into fun s r =>
    { r with credentials := withUsername s r.credentials }),
  ("password", Meaning.text.into fun s r =>
    { r with credentials := withPassword s r.credentials }),
  ("timeout", secondsMeaning.optional.into fun timeout r => { r with timeout })]

def BrokerRequest.meanings : Meanings BrokerRequest := [
  ("host", Meaning.text.into fun host r => { r with host }),
  ("port", portMeaning.optional.into fun port r => { r with port }),
  ("username", Meaning.text.into fun s r =>
    { r with credentials := withUsername s r.credentials }),
  ("password", Meaning.text.into fun s r =>
    { r with credentials := withPassword s r.credentials }),
  ("timeout", secondsMeaning.optional.into fun timeout r => { r with timeout })]

def ReportRequest.meanings : Meanings ReportRequest := [
  ("export_type", Meaning.text.into fun exportType _ => { exportType })]

theorem HostRequest.decodes : HostRequest.shape.Decodes HostRequest.meanings := by
  refine .cons ⟨rfl, ?_⟩ (.cons ⟨rfl, ?_⟩ (.cons ⟨rfl, ?_⟩ .nil))
  all_goals dsimp only
  · exact Reader.decodes_text.into _
  · exact decodes_portNumber.into _
  · exact decodes_seconds.optional.into _

theorem ClusterRequest.decodes : ClusterRequest.shape.Decodes ClusterRequest.meanings := by
  refine .cons ⟨rfl, ?_⟩ (.cons ⟨rfl, ?_⟩ (.cons ⟨rfl, ?_⟩ (.cons ⟨rfl, ?_⟩ .nil)))
  all_goals dsimp only
  · exact Reader.decodes_text.into _
  · exact Reader.decodes_text.into _
  · exact Reader.decodes_text.into _
  · exact decodes_seconds.optional.into _

theorem BrokerRequest.decodes : BrokerRequest.shape.Decodes BrokerRequest.meanings := by
  refine .cons ⟨rfl, ?_⟩ (.cons ⟨rfl, ?_⟩ (.cons ⟨rfl, ?_⟩ (.cons ⟨rfl, ?_⟩
    (.cons ⟨rfl, ?_⟩ .nil))))
  all_goals dsimp only
  · exact Reader.decodes_text.into _
  · exact decodes_portNumber.optional.into _
  · exact Reader.decodes_text.into _
  · exact Reader.decodes_text.into _
  · exact decodes_seconds.optional.into _

theorem ReportRequest.decodes : ReportRequest.shape.Decodes ReportRequest.meanings := by
  refine .cons ⟨rfl, ?_⟩ .nil
  dsimp only
  exact Reader.decodes_text.into _

theorem HostRequest.independent : HostRequest.meanings.Independent := by
  simp only [meanings, Meanings.independent_cons, Meanings.independent_nil, List.forall_mem_cons,
    List.not_mem_nil, false_imp_iff, implies_true, and_true]
  and_intros <;> exact .into fun _ _ _ => rfl

theorem ClusterRequest.independent : ClusterRequest.meanings.Independent := by
  simp only [meanings, Meanings.independent_cons, Meanings.independent_nil, List.forall_mem_cons,
    List.not_mem_nil, false_imp_iff, implies_true, and_true]
  and_intros <;> exact .into fun _ _ _ => rfl

theorem BrokerRequest.independent : BrokerRequest.meanings.Independent := by
  simp only [meanings, Meanings.independent_cons, Meanings.independent_nil, List.forall_mem_cons,
    List.not_mem_nil, false_imp_iff, implies_true, and_true]
  and_intros <;> exact .into fun _ _ _ => rfl

theorem ReportRequest.independent : ReportRequest.meanings.Independent :=
  Meanings.independent_cons.mpr ⟨fun _ h => absurd h List.not_mem_nil, Meanings.independent_nil⟩

def reasonAt (body : List UInt8) (left : Nat) (problem : Problem) : String :=
  Fault.message body ⟨problem, left⟩

/-- A body is decoded to what its members mean. -/
theorem decodeBody_members {ρ : Type} {s : Shape ρ} {meanings : Meanings ρ} {body : List UInt8}
    {ms : List (String × Json)} (hs : s.Decodes meanings) (h : HasMembers body ms) :
    ∃ left, decodeBody s body =
      (meanings.decode [] s.defaults ms).mapError (reasonAt body left) := by
  cases h with
  | blank h =>
    refine ⟨0, ?_⟩
    rw [decodeBody, h]
    rfl
  | object h =>
    have hread := Shape.readAll_unplaced hs (h.loose _)
    have hblank : body.all isBodyBlank = false := all_isBodyBlank_document h
    rw [decodeBody, hblank, ← hread]
    cases s.readAll body with
    | ok r => exact ⟨0, rfl⟩
    | error f => exact ⟨f.left, rfl⟩

/-- The test that the members of an object ask for. -/
def probeOfMembers (defaultTimeout : Duration) (ms : List (String × Json)) :
    Protocol → Except Problem Probe
  | .tcp => (HostRequest.meanings.decode [] {} ms).map (·.tcpProbe defaultTimeout)
  | .udp => (HostRequest.meanings.decode [] {} ms).map (·.udpProbe defaultTimeout)
  | .elasticsearch => (ClusterRequest.meanings.decode [] {} ms).map (·.probe defaultTimeout)
  | .mqtt => (BrokerRequest.meanings.decode [] {} ms).map (·.probe defaultTimeout)

theorem probeOf_members {defaultTimeout : Duration} {body : List UInt8}
    {ms : List (String × Json)} (h : HasMembers body ms) (p : Protocol) :
    ∃ left, probeOf defaultTimeout body p =
      (probeOfMembers defaultTimeout ms p).mapError (reasonAt body left) := by
  have hmap {ρ : Type} {s : Shape ρ} {meanings : Meanings ρ} (hs : s.Decodes meanings)
      (probe : ρ → Probe) : ∃ left, (decodeBody s body).map probe =
        ((meanings.decode [] s.defaults ms).map probe).mapError (reasonAt body left) := by
    obtain ⟨left, hdecode⟩ := decodeBody_members hs h
    refine ⟨left, ?_⟩
    rw [hdecode]
    cases meanings.decode [] s.defaults ms <;> rfl
  cases p with
  | tcp => exact hmap HostRequest.decodes _
  | udp => exact hmap HostRequest.decodes _
  | elasticsearch => exact hmap ClusterRequest.decodes _
  | mqtt => exact hmap BrokerRequest.decodes _

theorem probeOfMembers_of_probeOf {defaultTimeout : Duration} {body : List UInt8}
    {ms : List (String × Json)} {p : Protocol} {probe : Probe} (h : HasMembers body ms)
    (hprobe : probeOf defaultTimeout body p = .ok probe) :
    probeOfMembers defaultTimeout ms p = .ok probe := by
  obtain ⟨left, hleft⟩ := @probeOf_members defaultTimeout body ms h p
  rw [hprobe] at hleft
  cases hms : probeOfMembers defaultTimeout ms p with
  | error problem =>
    rw [hms] at hleft
    cases hleft
  | ok probe' =>
    rw [hms] at hleft
    exact congrArg _ (Except.ok.inj hleft).symm

theorem status_of_none {σ : Type} (net : Network σ) (s : σ) {defaultTimeout : Duration}
    {body : List UInt8} {p : Protocol} {probe : Probe}
    (hprobe : probeOf defaultTimeout body p = .ok probe) (h : probe.violation? = none) :
    ((respond defaultTimeout ⟨"POST", (Route.probe p).path, body⟩).run net s).status = 200 := by
  rw [respond_of_probeOf hprobe, Program.run, Program.trace_map]
  exact congrArg (fun ended => (Response.ofTest ended).status) (Probe.run_test_of_none net s h)

end Reachability.Service
