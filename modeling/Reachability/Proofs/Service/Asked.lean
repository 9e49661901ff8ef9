import Reachability.Proofs.Service.Parameters

/-!
# The answer to what is asked for

The service does what the test itself does. Whoever sends the parameters of a test gets what
the test ends with, and the network sees the same questions.
-/
namespace Reachability.Service

open Json (Document)

/-- A test and its parameters as a caller gives them: a time may be left open, and so may the
port of a broker. -/
inductive Ask
  | tcp (host : String) (port : UInt16) (timeout : Option UInt64)
  | udp (host : String) (port : UInt16) (timeout : Option UInt64)
  | elasticsearch (url : String) (credentials : Credentials) (timeout : Option UInt64)
  | mqtt (host : String) (port : Option UInt16) (credentials : Credentials)
      (timeout : Option UInt64)
deriving DecidableEq

namespace Ask

def protocol : Ask → Protocol
  | .tcp .. => .tcp
  | .udp .. => .udp
  | .elasticsearch .. => .elasticsearch
  | .mqtt .. => .mqtt

def target : Ask → String
  | .tcp host _ _ | .udp host _ _ | .mqtt host _ _ _ => host
  | .elasticsearch url _ _ => url

def limit (defaultTimeout : Duration) : Option UInt64 → Duration
  | none => defaultTimeout
  | some n => .ofSeconds n.toNat

/-- The test itself. Where a broker's port is left open it is 1883. -/
def probe (defaultTimeout : Duration) : Ask → Probe
  | .tcp host port timeout => .tcp host port (limit defaultTimeout timeout)
  | .udp host port timeout => .udp host port (limit defaultTimeout timeout)
  | .elasticsearch url credentials timeout =>
    .elasticsearch url credentials (limit defaultTimeout timeout)
  | .mqtt host port credentials timeout =>
    .mqtt host (some (port.getD 1883)) credentials (limit defaultTimeout timeout)

/-- Holds if an object has the parameters. -/
def StandsIn : Ask → List (String × Json) → Prop
  | .tcp host port timeout, ms => HostRequest.StandsIn ⟨host, port, timeout.map UInt64.toNat⟩ ms
  | .udp host port timeout, ms => HostRequest.StandsIn ⟨host, port, timeout.map UInt64.toNat⟩ ms
  | .elasticsearch url credentials timeout, ms =>
    ClusterRequest.StandsIn ⟨url, credentials, timeout.map UInt64.toNat⟩ ms
  | .mqtt host port credentials timeout, ms =>
    BrokerRequest.StandsIn ⟨host, port, credentials, timeout.map UInt64.toNat⟩ ms

end Ask

theorem timeoutFor_toNat (defaultTimeout : Duration) (timeout : Option UInt64) :
    timeoutFor defaultTimeout (timeout.map UInt64.toNat) = Ask.limit defaultTimeout timeout := by
  cases timeout <;> rfl

theorem test_mqtt_getD (host : String) (port : Option UInt16) (credentials : Credentials)
    (timeout : Duration) :
    (Probe.mqtt host port credentials timeout).test =
      (Probe.mqtt host (some (port.getD 1883)) credentials timeout).test := by
  cases port <;> rfl

/-- The body that holds the parameters of a test asks for that test. -/
theorem exists_probeOf {defaultTimeout : Duration} {ask : Ask} {ms : List (String × Json)}
    {body : List UInt8} (hms : ask.StandsIn ms) (hbody : Document (.object ms) body) :
    ∃ probe, probeOf defaultTimeout body ask.protocol = .ok probe ∧
      probe.test = (ask.probe defaultTimeout).test := by
  have hsize (timeout : Option UInt64) : ∀ n ∈ timeout.map UInt64.toNat, n < UInt64.size := by
    intro n hn
    obtain ⟨t, -, rfl⟩ := Option.map_eq_some_iff.mp hn
    exact t.toNat_lt
  cases ask with
  | tcp host port timeout =>
    have hdecode := HostRequest.StandsIn.decodeBody hms (hsize timeout) hbody
    refine ⟨_, congrArg (Except.map (HostRequest.tcpProbe · defaultTimeout)) hdecode, ?_⟩
    simp only [HostRequest.tcpProbe, timeoutFor_toNat, Ask.probe]
  | udp host port timeout =>
    have hdecode := HostRequest.StandsIn.decodeBody hms (hsize timeout) hbody
    refine ⟨_, congrArg (Except.map (HostRequest.udpProbe · defaultTimeout)) hdecode, ?_⟩
    simp only [HostRequest.udpProbe, timeoutFor_toNat, Ask.probe]
  | elasticsearch url credentials timeout =>
    have hdecode := ClusterRequest.StandsIn.decodeBody hms (hsize timeout) hbody
    refine ⟨_, congrArg (Except.map (ClusterRequest.probe · defaultTimeout)) hdecode, ?_⟩
    simp only [ClusterRequest.probe, timeoutFor_toNat, Ask.probe]
  | mqtt host port credentials timeout =>
    have hdecode := BrokerRequest.StandsIn.decodeBody hms (hsize timeout) hbody
    refine ⟨_, congrArg (Except.map (BrokerRequest.probe · defaultTimeout)) hdecode, ?_⟩
    simp only [BrokerRequest.probe, timeoutFor_toNat, Ask.probe]
    exact test_mqtt_getD host port credentials _

theorem respond_of_probeOf {defaultTimeout : Duration} {p : Protocol} {body : List UInt8}
    {probe : Probe} (h : probeOf defaultTimeout body p = .ok probe) :
    respond defaultTimeout ⟨"POST", (Route.probe p).path, body⟩ =
      Response.ofTest <$> probe.test := by
  have hroute : Route.ofPath? (Route.probe p).path = some (.probe p) :=
    Route.ofPath?_eq_some.mpr rfl
  have hallows : (Route.probe p).allows "POST" = true := Route.allows_probe.mpr rfl
  simp only [respond, result, hroute, hallows, Bool.not_true, Bool.false_eq_true, if_false,
    runProbe, h, bind_assoc, ← bind_pure_comp]
  congr 1
  funext ended
  cases ended <;> rfl

theorem targetHost_of_test {σ : Type} (net : Network σ) (s : σ) {defaultTimeout : Duration}
    {ask : Ask} {verdict : Verdict} (h : (ask.probe defaultTimeout).test.run net s = .ok verdict) :
    verdict.targetHost = ask.target := by
  have htarget : (ask.probe defaultTimeout).target = ask.target := by cases ask <;> rfl
  rw [Probe.test] at h
  split at h
  · cases h
  · have hrun : (ask.probe defaultTimeout).measure.run net s = verdict := by
      simpa [Program.run] using h
    rw [← htarget, ← Probe.targetHost_run net (ask.probe defaultTimeout) s, hrun]

theorem isProper_ofTest (ended : Except Violation Verdict) :
    (Response.ofTest ended).body.IsProper := by
  cases ended with
  | ok verdict => exact verdict.isProper_toJson
  | error v => exact isProper_ofRefusal (.violation v)

/-- Whoever sends the parameters of a test, however they are written, gets what the test ends
with: its verdict on the very target that was sent, or why it was refused. -/
theorem respond_of_asked (defaultTimeout : Duration) (ask : Ask) {ms : List (String × Json)}
    {body : List UInt8} (hms : ask.StandsIn ms) (hbody : Document (.object ms) body) :
    let request : Request := ⟨"POST", (Route.probe ask.protocol).path, body⟩
    respond defaultTimeout request = Response.ofTest <$> (ask.probe defaultTimeout).test ∧
    ∀ {σ : Type} (net : Network σ) (s : σ),
      let answer := (respond defaultTimeout request).run net s
      match (ask.probe defaultTimeout).test.run net s with
      | .ok verdict => answer.status = 200 ∧
          (∀ value, Document value answer.body.compactBytes ↔ value = verdict.toJson) ∧
          verdict.toJson.member? "target_host" = some (.text ask.target)
      | .error v => answer.status = 400 ∧
          ∀ value, Document value answer.body.compactBytes ↔
            value = .object [("error", .text v.message)] := by
  intro request
  obtain ⟨probe, hprobe, htest⟩ := exists_probeOf hms hbody
  have hrespond : respond defaultTimeout request =
      Response.ofTest <$> (ask.probe defaultTimeout).test := by
    rw [respond_of_probeOf hprobe, htest]
  refine ⟨hrespond, ?_⟩
  intro σ net s answer
  have hanswer : answer = .ofTest ((ask.probe defaultTimeout).test.run net s) := by
    show (respond defaultTimeout request).run net s = _
    rw [hrespond, Program.run, Program.trace_map]
    rfl
  rw [hanswer]
  cases hrun : (ask.probe defaultTimeout).test.run net s with
  | ok verdict =>
    refine ⟨rfl, fun value => Json.document_compactBytes (isProper_ofTest (.ok verdict)), ?_⟩
    rw [← targetHost_of_test net s hrun]
    rfl
  | error v =>
    exact ⟨rfl, fun value => Json.document_compactBytes (isProper_ofTest (.error v))⟩

/-- A host with a quote in it, which is escaped, and a test whose time is left open. -/
theorem respond_of_asked_quoted :
    let ask := Ask.mqtt "a\"b" none {} (some 5)
    let members := [("timeout", Json.natural 5), ("host", .text "a\"b")]
    let body := (Json.object members).compactBytes
    ask.StandsIn members ∧ Document (.object members) body ∧
      respond (.ofSeconds 10) ⟨"POST", "/api/v1/connectivity/test/mqtt", body⟩ =
        Response.ofTest <$> (Probe.mqtt "a\"b" (some 1883) {} (.ofSeconds 5)).test := by
  intro ask members body
  have hms : ask.StandsIn members :=
    ⟨by unfold Once; decide, .inl rfl, .inr ⟨rfl, rfl⟩, .inr ⟨rfl, rfl⟩, .inr ⟨rfl, rfl⟩, .inl rfl⟩
  have hproper : (Json.object members).IsProper := by
    refine .object ?_
    simp only [members, List.forall_mem_cons]
    exact ⟨Json.isProper_natural 5, .text _, by simp⟩
  have hbody : Document (.object members) body := (Json.document_compactBytes hproper).mpr rfl
  exact ⟨hms, hbody, (respond_of_asked (.ofSeconds 10) ask hms hbody).1⟩

end Reachability.Service
