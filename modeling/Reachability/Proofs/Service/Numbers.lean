import Reachability.Proofs.Json.Natural
import Reachability.Proofs.Probe.Bounds
import Reachability.Proofs.Service.Members

/-!
# Numbers in requests

A request holds two numbers, a port and a time. Each is taken as it is written, or the request is
refused before anything is asked of the network: no number is brought into range.
-/
namespace Reachability.Service

open Json (Document Meaning Meanings Numeral natural valuesOf without)

/-- What a request can hold a number for. -/
inductive Quantity
  | port
  | timeout
deriving DecidableEq

namespace Quantity

def name : Quantity → String
  | .port => "port"
  | .timeout => "timeout"

/-- The largest number, of 16 bits for a port and of 64 for a time. -/
def limit : Quantity → Nat
  | .port => 65535
  | .timeout => 0xFFFFFFFFFFFFFFFF

def kind : Quantity → String
  | .port => "u16"
  | .timeout => "u64"

/-- Holds if requests for a test have the member: a URL comes without a port. -/
def IsOf : Quantity → Protocol → Prop
  | .port, p => p ≠ .elasticsearch
  | .timeout, _ => True

/-- Holds of a numeral that is nothing but digits and not above the limit. -/
def Takes (q : Quantity) (n : Numeral) : Prop := n.IsPlain ∧ Decimal.value n.whole ≤ q.limit

def set (number : Nat) : Quantity → Probe → Probe
  | .port, .tcp host _ time => .tcp host (.ofNat number) time
  | .port, .udp host _ time => .udp host (.ofNat number) time
  | .port, .mqtt host _ credentials time => .mqtt host (some (.ofNat number)) credentials time
  | .port, .elasticsearch url credentials time => .elasticsearch url credentials time
  | .timeout, .tcp host own _ => .tcp host own (.ofSeconds number)
  | .timeout, .udp host own _ => .udp host own (.ofSeconds number)
  | .timeout, .mqtt host own credentials _ => .mqtt host own credentials (.ofSeconds number)
  | .timeout, .elasticsearch url credentials _ => .elasticsearch url credentials (.ofSeconds number)

def IsIn (number : Nat) : Quantity → Probe → Prop
  | .port, probe => ∃ port, probe.port? = some port ∧ port.toNat = number
  | .timeout, probe => probe.timeout = .ofSeconds number

def violation : Quantity → Violation
  | .port => .missingPort
  | .timeout => .zeroTimeout

variable {q : Quantity} {p : Protocol} {number : Nat} {probe : Probe}

theorem natural_eq_ok {n : Numeral} :
    Meaning.natural q.limit q.kind (.number n) = .ok number ↔
      q.Takes n ∧ Decimal.value n.whole = number := by
  have hlimit : q.limit < UInt64.size := by cases q <;> decide
  rw [Meaning.natural_eq_ok hlimit, Takes, and_assoc]

theorem IsIn.breaks_iff (h : q.IsIn number probe) : probe.Breaks q.violation ↔ number = 0 := by
  cases q with
  | port =>
    obtain ⟨port, hport, rfl⟩ := h
    rw [violation, Probe.breaks_missingPort, hport, Option.some_inj, ← UInt16.toNat_inj]
    rfl
  | timeout =>
    have htimeout : probe.timeout = .ofSeconds number := h
    rw [violation, Probe.breaks_zeroTimeout, htimeout, Duration.isZero_iff]
    simp [Duration.ofSeconds, Duration.zero]

end Quantity

section

variable {ρ α : Type} {meanings : Meanings ρ} {meaning : Meaning α} {set : α → ρ → ρ}
  {convert : Nat → α} {make : ρ → Probe} {defaults : ρ} {q : Quantity} {n : Numeral}
  {ms : List (String × Json)} {probe asked : Probe}

/-- Where the other members ask for a test a number asks for the test with this number. -/
theorem decode_eq_ok_of_number (hindependent : meanings.Independent)
    (hlookup : meanings.lookup q.name = some (meaning.into set))
    (hmeaning : meaning (.number n) =
      (Meaning.natural q.limit q.kind (.number n)).map convert)
    (hmake : ∀ number r, make (set (convert number) r) = q.set number (make r))
    (hn : valuesOf q.name ms = [.number n])
    (hothers : (meanings.decode [] defaults (without q.name ms)).map make = .ok probe) :
    (meanings.decode [] defaults ms).map make = .ok asked ↔
      q.Takes n ∧ q.set (Decimal.value n.whole) probe = asked := by
  obtain ⟨others, hdecode, rfl⟩ := exists_of_map_eq_ok hothers
  have hiff {r : ρ} := hindependent.decode_eq_ok (q := r) hlookup hn hdecode
  constructor
  · intro h
    obtain ⟨r, hr, rfl⟩ := exists_of_map_eq_ok h
    obtain ⟨a, ha, rfl⟩ := hiff.mp hr
    rw [hmeaning] at ha
    obtain ⟨number, hnumber, rfl⟩ := exists_of_map_eq_ok ha
    obtain ⟨htakes, rfl⟩ := Quantity.natural_eq_ok.mp hnumber
    exact ⟨htakes, (hmake _ _).symm⟩
  · rintro ⟨htakes, rfl⟩
    have ha : meaning (.number n) = .ok (convert (Decimal.value n.whole)) := by
      rw [hmeaning, Quantity.natural_eq_ok.mpr ⟨htakes, rfl⟩]
      rfl
    rw [hiff.mpr ⟨_, ha, rfl⟩, ← hmake]
    rfl

end

variable {defaultTimeout : Duration} {q : Quantity} {p : Protocol} {n : Numeral}
  {ms : List (String × Json)} {body others : List UInt8} {probe asked : Probe}

theorem probeOfMembers_eq_ok_of_number (hq : q.IsOf p) (hn : valuesOf q.name ms = [.number n])
    (hothers : probeOfMembers defaultTimeout (without q.name ms) p = .ok probe) :
    probeOfMembers defaultTimeout ms p = .ok asked ↔
      q.Takes n ∧ q.set (Decimal.value n.whole) probe = asked := by
  have hport : portMeaning.optional (.number n) =
      (Meaning.natural Quantity.port.limit Quantity.port.kind (.number n)).map
        (fun number => some (UInt16.ofNat number)) := by
    simp only [Meaning.optional, portMeaning, Quantity.limit, Quantity.kind]
    cases Meaning.natural 65535 "u16" (.number n) <;> rfl
  cases q with
  | port =>
    cases p with
    | tcp | udp =>
      exact decode_eq_ok_of_number HostRequest.independent rfl rfl (fun _ _ => rfl) hn hothers
    | elasticsearch => exact absurd rfl hq
    | mqtt =>
      exact decode_eq_ok_of_number BrokerRequest.independent rfl hport (fun _ _ => rfl) hn hothers
  | timeout =>
    cases p with
    | tcp | udp =>
      exact decode_eq_ok_of_number HostRequest.independent rfl rfl (fun _ _ => rfl) hn hothers
    | elasticsearch =>
      exact decode_eq_ok_of_number ClusterRequest.independent rfl rfl (fun _ _ => rfl) hn hothers
    | mqtt =>
      exact decode_eq_ok_of_number BrokerRequest.independent rfl rfl (fun _ _ => rfl) hn hothers

theorem probeOf_eq_ok_of_number (hq : q.IsOf p) (hbody : HasMembers body ms)
    (hn : valuesOf q.name ms = [.number n]) (hothers : HasMembers others (without q.name ms))
    (hprobe : probeOf defaultTimeout others p = .ok probe) :
    probeOf defaultTimeout body p = .ok asked ↔
      q.Takes n ∧ q.set (Decimal.value n.whole) probe = asked := by
  rw [← probeOfMembers_eq_ok_of_number hq hn (probeOfMembers_of_probeOf hothers hprobe)]
  refine ⟨probeOfMembers_of_probeOf hbody, fun h => ?_⟩
  obtain ⟨left, hleft⟩ := @probeOf_members defaultTimeout body ms hbody p
  rw [hleft, h]
  rfl

theorem isIn_set {number : Nat} (hq : q.IsOf p) (hnumber : number ≤ q.limit)
    (hprobe : probeOf defaultTimeout others p = .ok probe) :
    q.IsIn number (q.set number probe) := by
  cases q with
  | timeout => cases probe <;> rfl
  | port =>
    have hport : (UInt16.ofNat number).toNat = number :=
      UInt16.toNat_ofNat_of_lt' (Nat.lt_of_le_of_lt hnumber (by decide))
    cases p with
    | tcp | udp | mqtt =>
      obtain ⟨r, -, rfl⟩ := exists_of_map_eq_ok hprobe
      exact ⟨_, rfl, hport⟩
    | elasticsearch => exact absurd rfl hq

/-- Of a body whose other members ask for a test a number is taken exactly if it is nothing but
digits and not above its limit. It is then the port or the time of the test: this is what the
contract checks, where the test goes to, and how long it waits. Any other number gets the request
refused before anything is asked. -/
theorem numbers_taken_as_written (defaultTimeout : Duration) {q : Quantity} {p : Protocol}
    (hq : q.IsOf p) {n : Numeral} {ms : List (String × Json)} {body others : List UInt8}
    {probe : Probe} (hbody : Document (.object ms) body)
    (hn : valuesOf q.name ms = [.number n]) (hothers : HasMembers others (without q.name ms))
    (hprobe : probeOf defaultTimeout others p = .ok probe) :
    let number := Decimal.value n.whole
    let answer := respond defaultTimeout ⟨"POST", (Route.probe p).path, body⟩
    ((∃ asked, probeOf defaultTimeout body p = .ok asked) ↔
      n.isNegative = false ∧ n.fraction = [] ∧ n.exponent = none ∧ number ≤ q.limit) ∧
    (∀ asked, probeOf defaultTimeout body p = .ok asked →
      asked = q.set number probe ∧ q.IsIn number asked ∧
      (asked.Breaks q.violation ↔ number = 0) ∧ answer = Response.ofTest <$> asked.test ∧
      ∀ {σ : Type} (net : Network σ) (s : σ), ∀ action ∈ (answer.trace net s).2.2,
        action.Within asked.port? asked.timeout) ∧
    ((∀ asked, probeOf defaultTimeout body p ≠ .ok asked) →
      ∀ {σ : Type} (net : Network σ) (s : σ),
        (answer.run net s).status = 400 ∧ (answer.trace net s).2 = (s, [])) := by
  intro number answer
  have hiff (asked : Probe) : probeOf defaultTimeout body p = .ok asked ↔
      q.Takes n ∧ q.set number probe = asked :=
    probeOf_eq_ok_of_number hq (.object hbody) hn hothers hprobe
  refine ⟨?_, ?_, ?_⟩
  · simp only [hiff, exists_and_left, exists_eq', and_true, Quantity.Takes, Numeral.IsPlain,
      and_assoc, number]
  · intro asked hasked
    obtain ⟨htakes, rfl⟩ := (hiff asked).mp hasked
    have hin : q.IsIn number (q.set number probe) := isIn_set hq htakes.2 hprobe
    have hanswer : answer = Response.ofTest <$> (q.set number probe).test :=
      respond_of_probeOf hasked
    refine ⟨rfl, hin, hin.breaks_iff, hanswer, ?_⟩
    intro σ net s
    rw [hanswer]
    exact ((q.set number probe).asksOnly_test.map _).forall_trace
  · intro hnone σ net s
    cases hdecode : probeOf defaultTimeout body p with
    | ok asked => exact absurd hdecode (hnone asked)
    | error reason =>
      have hrefused : Request.Refused defaultTimeout ⟨"POST", (Route.probe p).path, body⟩
          (.malformedBody reason) := .rejected rfl rfl (.malformedProbe hdecode)
      have hanswer : answer = .done (.ofRefusal (.malformedBody reason)) :=
        respond_of_refused hrefused
      rw [hanswer]
      exact ⟨rfl, rfl⟩

/-- The largest port, and the number after it. -/
theorem numbers_taken_as_written_port :
    let members (port : Nat) : List (String × Json) := [("host", .text "h"), ("port", natural port)]
    let body (port : Nat) := (Json.object (members port)).compactBytes
    let answer (port : Nat) :=
      respond (.ofSeconds 10) ⟨"POST", (Route.probe .tcp).path, body port⟩
    answer 65535 = Response.ofTest <$> (Probe.tcp "h" 65535 (.ofSeconds 10)).test ∧
    ∀ {σ : Type} (net : Network σ) (s : σ), ((answer 65536).run net s).status = 400 := by
  intro members body answer
  have hothers : HasMembers (Json.object [("host", .text "h")]).compactBytes
      [("host", .text "h")] := by
    refine hasMembers_compactBytes (.object ?_)
    simp only [List.forall_mem_cons]
    exact ⟨.text _, by simp⟩
  have hprobe : probeOf (.ofSeconds 10) (Json.object [("host", .text "h")]).compactBytes .tcp =
      .ok (.tcp "h" 0 (.ofSeconds 10)) := by
    obtain ⟨left, hleft⟩ := probeOf_members hothers .tcp
    exact hleft
  have hbody (port : Nat) : Document (.object (members port)) (body port) := by
    refine (Json.document_compactBytes (.object ?_)).mpr rfl
    simp only [members, List.forall_mem_cons]
    exact ⟨.text _, Json.isProper_natural port, by simp⟩
  have htaken (port : Nat) := numbers_taken_as_written (.ofSeconds 10) (q := .port) (p := .tcp)
    (by simp [Quantity.IsOf]) (hbody port) rfl hothers hprobe
  have hlargest : (∃ asked, probeOf (.ofSeconds 10) (body 65535) .tcp = .ok asked) :=
    (htaken 65535).1.mpr ⟨rfl, rfl, rfl, by simp [Quantity.limit, Json.Numeral.ofNat]⟩
  refine ⟨?_, ?_⟩
  · obtain ⟨asked, hasked⟩ := hlargest
    obtain ⟨rfl, -, -, hanswer, -⟩ := (htaken 65535).2.1 asked hasked
    have hnumber : Decimal.value (Numeral.ofNat 65535).whole = 65535 := Decimal.value_digits 65535
    rw [hnumber] at hanswer
    exact hanswer
  · intro σ net s
    refine ((htaken 65536).2.2 ?_ net s).1
    intro asked hasked
    have hle := ((htaken 65536).1.mp ⟨asked, hasked⟩).2.2.2
    simp [Quantity.limit, Json.Numeral.ofNat] at hle

end Reachability.Service
