import Reachability.Proofs.Service.Members
import Reachability.Proofs.Settings.Load

/-!
# A time that is left open

A request that says nothing of its time has that of the settings, which is never zero. So it is
not refused for its time, and it is answered as the request that asks for just this time.
-/
namespace Reachability.Service

open Json (Document Meanings Problem Shape natural valuesOf without)

/-! ## Setting the time -/

def HostRequest.withTimeout (timeout : Option Nat) (r : HostRequest) : HostRequest :=
  { r with timeout }

def ClusterRequest.withTimeout (timeout : Option Nat) (r : ClusterRequest) : ClusterRequest :=
  { r with timeout }

def BrokerRequest.withTimeout (timeout : Option Nat) (r : BrokerRequest) : BrokerRequest :=
  { r with timeout }

/-! ## Members without a time -/

/-- Holds if the members of an object say nothing of a time, or null. -/
def NoTime (ms : List (String × Json)) : Prop :=
  valuesOf "timeout" ms = [] ∨ valuesOf "timeout" ms = [.null]

section

variable {ρ : Type} {meanings : Meanings ρ} {withTimeout : Option Nat → ρ → ρ} {defaults : ρ}
  {ms : List (String × Json)}

theorem decode_of_noTime (hindependent : meanings.Independent)
    (hlookup : meanings.lookup "timeout" = some (secondsMeaning.optional.into withTimeout))
    (hdefaults : withTimeout none defaults = defaults) (h : NoTime ms) :
    meanings.decode [] defaults ms =
      (meanings.decode [] defaults (without "timeout" ms)).map (withTimeout none) := by
  have hnothing : secondsMeaning.optional.into withTimeout .null = .ok (withTimeout none) := rfl
  have happart := hindependent.isApart hlookup hnothing
  rcases h with hnone | hnull
  · rw [Json.without_eq_self hnone]
    calc meanings.decode [] defaults ms
        = meanings.decode [] (withTimeout none defaults) ms := by rw [hdefaults]
      _ = (meanings.decode [] defaults ms).map (withTimeout none) :=
        Meanings.decode_set happart (fun _ _ => Iff.rfl) hnone defaults
  · exact Meanings.decode_of_valuesOf happart hlookup hnothing (by simp) hnull defaults

theorem decode_of_time (hindependent : meanings.Independent)
    (hlookup : meanings.lookup "timeout" = some (secondsMeaning.optional.into withTimeout))
    {n : Nat} (hn : n < UInt64.size) (h : valuesOf "timeout" ms = [natural n]) :
    meanings.decode [] defaults ms =
      (meanings.decode [] defaults (without "timeout" ms)).map (withTimeout (some n)) := by
  have hmeaning : secondsMeaning.optional.into withTimeout (natural n) =
      .ok (withTimeout (some n)) :=
    congrArg (fun x => (x.map some).map withTimeout) (secondsMeaning_natural hn)
  exact Meanings.decode_of_valuesOf (hindependent.isApart hlookup hmeaning) hlookup hmeaning
    (by simp) h defaults

theorem exists_decode_others (hindependent : meanings.Independent)
    (hlookup : meanings.lookup "timeout" = some (secondsMeaning.optional.into withTimeout))
    (hdefaults : withTimeout none defaults = defaults) {n : Nat} (hn : n < UInt64.size)
    {timed : List (String × Json)} (hms : NoTime ms)
    (htimed : valuesOf "timeout" timed = [natural n])
    (hothers : without "timeout" ms = without "timeout" timed) :
    ∃ others : Except Problem ρ,
      meanings.decode [] defaults ms = others.map (withTimeout none) ∧
      meanings.decode [] defaults timed = others.map (withTimeout (some n)) :=
  ⟨meanings.decode [] defaults (without "timeout" ms),
    decode_of_noTime hindependent hlookup hdefaults hms,
    hothers ▸ decode_of_time hindependent hlookup hn htimed⟩

end

theorem probeOfMembers_of_time {n : Nat} (hn : n < UInt64.size) {ms timed : List (String × Json)}
    (hms : NoTime ms) (htimed : valuesOf "timeout" timed = [natural n])
    (hothers : without "timeout" ms = without "timeout" timed) (p : Protocol) :
    probeOfMembers (.ofSeconds n) ms p = probeOfMembers (.ofSeconds n) timed p := by
  have hhost := exists_decode_others HostRequest.independent rfl
    (show HostRequest.withTimeout none {} = {} from rfl) hn hms htimed hothers
  have hcluster := exists_decode_others ClusterRequest.independent rfl
    (show ClusterRequest.withTimeout none {} = {} from rfl) hn hms htimed hothers
  have hbroker := exists_decode_others BrokerRequest.independent rfl
    (show BrokerRequest.withTimeout none {} = {} from rfl) hn hms htimed hothers
  cases p with
  | tcp | udp =>
    obtain ⟨others, hplain, htime⟩ := hhost
    rw [probeOfMembers, probeOfMembers, hplain, htime]
    cases others <;> rfl
  | elasticsearch =>
    obtain ⟨others, hplain, htime⟩ := hcluster
    rw [probeOfMembers, probeOfMembers, hplain, htime]
    cases others <;> rfl
  | mqtt =>
    obtain ⟨others, hplain, htime⟩ := hbroker
    rw [probeOfMembers, probeOfMembers, hplain, htime]
    cases others <;> rfl

/-! ## Bodies without a time -/

def timeoutOf (body : List UInt8) : Protocol → Except String (Option Nat)
  | .tcp | .udp => (decodeBody HostRequest.shape body).map (·.timeout)
  | .elasticsearch => (decodeBody ClusterRequest.shape body).map (·.timeout)
  | .mqtt => (decodeBody BrokerRequest.shape body).map (·.timeout)

/-- Holds of a body that leaves its time open: as an object without this member or with null for
it, or in whatever it decodes to. -/
inductive LeavesTimeOpen (p : Protocol) (body : List UInt8) : Prop
  | members {ms : List (String × Json)} (h : HasMembers body ms) (htime : NoTime ms)
  | decoded (h : ∀ n, timeoutOf body p ≠ .ok (some n))

section

variable {defaultTimeout : Duration} {p : Protocol} {body : List UInt8} {probe : Probe}

theorem timeoutOf_of_probeOf (h : probeOf defaultTimeout body p = .ok probe) :
    ∃ timeout, timeoutOf body p = .ok timeout ∧
      probe.timeout = timeoutFor defaultTimeout timeout := by
  have htimeout {ρ : Type} {decoded : Except String ρ} {timeout : ρ → Option Nat}
      {make : ρ → Probe} (h : decoded.map make = .ok probe)
      (hmake : ∀ r, (make r).timeout = timeoutFor defaultTimeout (timeout r)) :
      ∃ t, decoded.map timeout = .ok t ∧ probe.timeout = timeoutFor defaultTimeout t := by
    obtain ⟨r, rfl, rfl⟩ := exists_of_map_eq_ok h
    exact ⟨timeout r, rfl, hmake r⟩
  cases p with
  | tcp | udp | elasticsearch | mqtt => exact htimeout h fun _ => rfl

theorem timeout_probeOfMembers {ms : List (String × Json)} (hms : NoTime ms)
    (h : probeOfMembers defaultTimeout ms p = .ok probe) : probe.timeout = defaultTimeout := by
  have htimeout {ρ : Type} {meanings : Meanings ρ} {withTimeout : Option Nat → ρ → ρ}
      {defaults : ρ} {make : ρ → Probe}
      (h : (meanings.decode [] defaults ms).map make = .ok probe)
      (hdecode : meanings.decode [] defaults ms =
        (meanings.decode [] defaults (without "timeout" ms)).map (withTimeout none))
      (hmake : ∀ r, (make (withTimeout none r)).timeout = defaultTimeout) :
      probe.timeout = defaultTimeout := by
    obtain ⟨r, hr, rfl⟩ := exists_of_map_eq_ok h
    rw [hdecode] at hr
    obtain ⟨others, -, rfl⟩ := exists_of_map_eq_ok hr
    exact hmake others
  cases p with
  | tcp | udp =>
    exact htimeout h (decode_of_noTime HostRequest.independent rfl rfl hms) fun _ => rfl
  | elasticsearch =>
    exact htimeout h (decode_of_noTime ClusterRequest.independent rfl rfl hms) fun _ => rfl
  | mqtt =>
    exact htimeout h (decode_of_noTime BrokerRequest.independent rfl rfl hms) fun _ => rfl

theorem LeavesTimeOpen.timeout_eq (h : LeavesTimeOpen p body)
    (hprobe : probeOf defaultTimeout body p = .ok probe) : probe.timeout = defaultTimeout := by
  cases h with
  | members hms htime => exact timeout_probeOfMembers htime (probeOfMembers_of_probeOf hms hprobe)
  | decoded h =>
    obtain ⟨timeout, htimeout, hmake⟩ := timeoutOf_of_probeOf hprobe
    cases timeout with
    | none => exact hmake
    | some n => exact absurd htimeout (h n)

def zeroTimeoutAnswer : Response := .ofRefusal (.violation .zeroTimeout)

theorem message_eq_of_ofRefusal {refusal other : Refusal}
    (h : Response.ofRefusal refusal = Response.ofRefusal other) :
    refusal.message = other.message := by
  have hbody := congrArg Response.body h
  simp only [Response.ofRefusal, Json.object.injEq, List.cons.injEq, Prod.mk.injEq,
    Json.text.injEq, and_true, true_and] at hbody
  exact hbody

theorem message_malformedBody_ne (reason : String) :
    (Refusal.malformedBody reason).message ≠ Violation.zeroTimeout.message := by
  intro h
  have h : "Invalid request body: " ++ reason = "Timeout must be greater than zero" := h
  have hfirst := congrArg (fun text : String => text.toList.head?) h
  simp at hfirst

/-- No other refusal of a test reads like that of a time that is zero. -/
theorem ofRefusal_ne_zeroTimeoutAnswer {refusal : Refusal}
    (h : refusal.status = 400) (hne : refusal ≠ .violation .zeroTimeout) :
    Response.ofRefusal refusal ≠ zeroTimeoutAnswer := by
  intro heq
  rw [zeroTimeoutAnswer] at heq
  have hmessage := message_eq_of_ofRefusal heq
  cases refusal with
  | malformedBody reason => exact message_malformedBody_ne reason hmessage
  | violation v =>
    cases v with
    | zeroTimeout => exact hne rfl
    | missingHost | missingUrl | missingPort => exact absurd hmessage (by decide)
  | notFound | methodNotAllowed => cases h

theorem LeavesTimeOpen.answer_ne {σ : Type} (net : Network σ) (s : σ)
    (h : LeavesTimeOpen p body) (hdefault : defaultTimeout.isZero = false) :
    (respond defaultTimeout ⟨"POST", (Route.probe p).path, body⟩).run net s ≠
      zeroTimeoutAnswer := by
  cases hprobe : probeOf defaultTimeout body p with
  | error reason =>
    have hrefused : Request.Refused defaultTimeout ⟨"POST", (Route.probe p).path, body⟩
        (.malformedBody reason) := .rejected rfl rfl (.malformedProbe hprobe)
    rw [run_respond_of_refused net s hrefused]
    exact ofRefusal_ne_zeroTimeoutAnswer rfl (by simp)
  | ok probe =>
    cases hv : probe.violation? with
    | some v =>
      have hrefused : Request.Refused defaultTimeout ⟨"POST", (Route.probe p).path, body⟩
          (.violation v) := .rejected rfl rfl (.violation hprobe hv)
      rw [run_respond_of_refused net s hrefused]
      refine ofRefusal_ne_zeroTimeoutAnswer rfl ?_
      rintro ⟨rfl⟩
      have hzero := Probe.breaks_zeroTimeout.mp (Probe.violation?_eq_some.mp hv).1
      rw [h.timeout_eq hprobe, hdefault] at hzero
      cases hzero
    | none =>
      intro heq
      have hstatus := congrArg Response.status heq
      rw [status_of_none net s hprobe hv] at hstatus
      cases hstatus

end

/-! ## Bodies extended by a time -/

/-- Holds if two bodies are read as records that differ in the time only: the first leaves it
open. -/
def ReadWithTime {ρ : Type} (s : Shape ρ) (withTimeout : Option Nat → ρ → ρ) (n : Nat)
    (body timed : List UInt8) : Prop :=
  ∃ r, decodeBody s body = .ok (withTimeout none r) ∧
    decodeBody s timed = .ok (withTimeout (some n) r)

/-- Holds if a body that leaves its time open is extended by an explicit one: the second has the
same members but for the time, wherever it stands, or is read as the same record but for the
time. -/
inductive ExtendedBy (n : Nat) (body timed : List UInt8) : Protocol → Prop
  | members {p : Protocol} {ms more : List (String × Json)} (h : HasMembers body ms)
      (hmore : HasMembers timed more) (hms : NoTime ms)
      (htime : valuesOf "timeout" more = [natural n])
      (hothers : without "timeout" ms = without "timeout" more) : ExtendedBy n body timed p
  | tcp (h : ReadWithTime HostRequest.shape HostRequest.withTimeout n body timed) :
      ExtendedBy n body timed .tcp
  | udp (h : ReadWithTime HostRequest.shape HostRequest.withTimeout n body timed) :
      ExtendedBy n body timed .udp
  | elasticsearch
      (h : ReadWithTime ClusterRequest.shape ClusterRequest.withTimeout n body timed) :
      ExtendedBy n body timed .elasticsearch
  | mqtt (h : ReadWithTime BrokerRequest.shape BrokerRequest.withTimeout n body timed) :
      ExtendedBy n body timed .mqtt

inductive SameTest (defaultTimeout : Duration) (p : Protocol) (body other : List UInt8) : Prop
  | decoded {probe : Probe} (h : probeOf defaultTimeout body p = .ok probe)
      (hother : probeOf defaultTimeout other p = .ok probe)
  | malformed {problem : Problem} {left left' : Nat}
      (h : probeOf defaultTimeout body p = .error (reasonAt body left problem))
      (hother : probeOf defaultTimeout other p = .error (reasonAt other left' problem))

/-- With the default time a body asks for the same test as the body that is extended by just this
time. -/
theorem ExtendedBy.sameTest {n : Nat} (hn : n < UInt64.size) {p : Protocol}
    {body timed : List UInt8} (h : ExtendedBy n body timed p) :
    SameTest (.ofSeconds n) p body timed := by
  cases h with
  | members h hmore hms htime hothers =>
    have hsame := probeOfMembers_of_time hn hms htime hothers p
    obtain ⟨left, hbody⟩ := probeOf_members h p
    obtain ⟨left', htimed⟩ := probeOf_members hmore p
    rw [hsame] at hbody
    generalize probeOfMembers (.ofSeconds n) _ p = result at hbody htimed
    cases result with
    | ok probe => exact .decoded hbody htimed
    | error problem => exact .malformed hbody htimed
  | tcp h | udp h | elasticsearch h | mqtt h =>
    obtain ⟨r, hbody, htimed⟩ := h
    exact .decoded (by rw [probeOf, hbody]; rfl) (by rw [probeOf, htimed]; rfl)

/-! ## Answers -/

def malformedAnswer (reason : String) : Response := .ofRefusal (.malformedBody reason)

theorem respond_of_malformed {defaultTimeout : Duration} {p : Protocol} {body : List UInt8}
    {reason : String} (h : probeOf defaultTimeout body p = .error reason) :
    respond defaultTimeout ⟨"POST", (Route.probe p).path, body⟩ =
      .done (malformedAnswer reason) :=
  respond_of_refused (.rejected rfl rfl (.malformedProbe h))

/-- Under settings that have been loaded a body that leaves its time open is not answered that
its time is zero. It gets the answer to the body that is extended by the time of the settings;
where it cannot be decoded, neither can the other, and for the same problem, though the place of
the problem may be another. -/
theorem timeout_left_open {path : String} {isExplicit : Bool} {file : FileState} {o : Overrides}
    {settings : Settings} (hload : Settings.load path isExplicit file o = .ok settings)
    (p : Protocol) :
    let defaultTimeout := Duration.ofSeconds settings.defaultTimeout
    let answer (body : List UInt8) :=
      respond defaultTimeout ⟨"POST", (Route.probe p).path, body⟩
    (∀ body, LeavesTimeOpen p body → ∀ {σ : Type} (net : Network σ) (s : σ),
      (answer body).run net s ≠ .ofRefusal (.violation .zeroTimeout)) ∧
    ∀ body timed, ExtendedBy settings.defaultTimeout body timed p →
      (∀ probe, probeOf defaultTimeout body p = .ok probe → answer body = answer timed) ∧
      ∀ reason, probeOf defaultTimeout body p = .error reason →
        ∃ problem left left', answer body = .done (malformedAnswer (reasonAt body left problem)) ∧
          answer timed = .done (malformedAnswer (reasonAt timed left' problem)) := by
  intro defaultTimeout answer
  obtain ⟨hpositive, hsize⟩ := Settings.load_bounds hload
  have hdefault : defaultTimeout.isZero = false := by
    have hne : (settings.defaultTimeout == 0) = false :=
      beq_eq_false_iff_ne.mpr (Nat.ne_of_gt hpositive)
    simp only [defaultTimeout, Duration.isZero, Duration.ofSeconds, hne, Bool.false_and]
  refine ⟨fun body h σ net s => h.answer_ne net s hdefault, ?_⟩
  intro body timed hextended
  cases hextended.sameTest hsize with
  | decoded h hother =>
    refine ⟨fun _ _ => ?_, fun reason hreason => by cases h.symm.trans hreason⟩
    show respond _ _ = respond _ _
    rw [respond_of_probeOf h, respond_of_probeOf hother]
  | malformed h hother =>
    refine ⟨fun probe hprobe => (by cases h.symm.trans hprobe), fun _ _ => ?_⟩
    exact ⟨_, _, _, respond_of_malformed h, respond_of_malformed hother⟩

/-- The settings without a file, and a host and a port without a time. -/
theorem timeout_left_open_default :
    let members : List (String × Json) := [("host", .text "h"), ("port", natural 1)]
    let body := (Json.object members).compactBytes
    let timed := (Json.object (("timeout", natural 10) :: members)).compactBytes
    Settings.load "config.yml" false .absent {} = .ok {} ∧
    respond (.ofSeconds 10) ⟨"POST", "/api/v1/connectivity/test/tcp", body⟩ =
      respond (.ofSeconds 10) ⟨"POST", "/api/v1/connectivity/test/tcp", timed⟩ := by
  intro members body timed
  have hload : Settings.load "config.yml" false .absent {} = .ok {} := rfl
  have hmembers : ∀ m ∈ members, m.2.IsProper := by
    simp only [members, List.forall_mem_cons]
    exact ⟨.text _, Json.isProper_natural 1, by simp⟩
  have hbody : HasMembers body members := hasMembers_compactBytes (.object hmembers)
  have htimed : HasMembers timed (("timeout", natural 10) :: members) := by
    refine hasMembers_compactBytes (.object ?_)
    rw [List.forall_mem_cons]
    exact ⟨Json.isProper_natural 10, hmembers⟩
  have hprobe : probeOf (.ofSeconds 10) body .tcp = .ok (.tcp "h" 1 (.ofSeconds 10)) := by
    obtain ⟨left, hleft⟩ := probeOf_members hbody .tcp
    exact hleft
  have hextended : ExtendedBy 10 body timed .tcp :=
    .members hbody htimed (.inl rfl) rfl rfl
  exact ⟨hload, ((timeout_left_open hload .tcp).2 body timed hextended).1 _ hprobe⟩

/-- A host that is no text: with a null in front of it the problem is two bytes further on than
with the time of the settings in its place, and the answers tell so. -/
theorem timeout_left_open_moves_place :
    let members (time : Json) : List (String × Json) := [("timeout", time), ("host", natural 5)]
    let body (time : Json) := (Json.object (members time)).compactBytes
    let answer (time : Json) :=
      respond (.ofSeconds 10) ⟨"POST", "/api/v1/connectivity/test/tcp", body time⟩
    Settings.load "config.yml" false .absent {} = .ok {} ∧
    ExtendedBy 10 (body .null) (body (natural 10)) .tcp ∧
    answer .null = .done (malformedAnswer
      "invalid type: integer \x605\x60, expected a string at line 1 column 24") ∧
    answer (natural 10) = .done (malformedAnswer
      "invalid type: integer \x605\x60, expected a string at line 1 column 22") ∧
    answer .null ≠ answer (natural 10) := by
  intro members body answer
  have hmembers (time : Json) (htime : time.IsProper) :
      HasMembers (body time) (members time) := by
    refine hasMembers_compactBytes (.object ?_)
    simp only [members, List.forall_mem_cons]
    exact ⟨htime, Json.isProper_natural 5, by simp⟩
  have hnull : answer .null = .done (malformedAnswer
      "invalid type: integer \x605\x60, expected a string at line 1 column 24") :=
    respond_of_malformed (p := .tcp) (by decide +kernel)
  have htimed : answer (natural 10) = .done (malformedAnswer
      "invalid type: integer \x605\x60, expected a string at line 1 column 22") :=
    respond_of_malformed (p := .tcp) (by decide +kernel)
  refine ⟨rfl, .members (hmembers .null .null) (hmembers _ (Json.isProper_natural 10)) (.inr rfl)
    rfl rfl, hnull, htimed, ?_⟩
  rw [hnull, htimed]
  intro h
  have hmessage := message_eq_of_ofRefusal (Program.done.inj h)
  exact absurd hmessage (by decide)

end Reachability.Service
