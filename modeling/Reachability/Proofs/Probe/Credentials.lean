import Reachability.Probe

/-!
# Credentials and the rest of a probe

A probe makes its first attempt without its credentials, and what it goes on with tells of them
only whether there is a user name, and that only after the attempt succeeded. So nothing that a
probe asks of the network, and nothing in its verdict, depends on a password.
-/
namespace Reachability

namespace Probe

/-! ## The first attempt -/

def primary : Probe → Program Outcome
  | .tcp host port timeout => Attempt.tcp host port timeout
  | .udp host port _ => Attempt.udp host port
  | .elasticsearch url _ timeout => Attempt.http url timeout
  | .mqtt host port _ timeout => Attempt.tcp host (port.getD Mqtt.defaultPort) timeout

/-- What a probe goes on with after its first attempt. -/
def conclude : Probe → Outcome → Program Verdict
  | .tcp host port _, outcome =>
    return .ofTcp host port outcome (← Program.perform .epochSeconds)
  | .udp host port _, outcome =>
    return .ofUdp host port outcome (← Program.perform .epochSeconds)
  | .elasticsearch url credentials timeout, base => do
    let health ← health url timeout base
    return .ofElasticsearch url base health credentials (← Program.perform .epochSeconds)
  | .mqtt host port credentials _, outcome =>
    return .ofMqtt host (port.getD Mqtt.defaultPort) outcome credentials
      (← Program.perform .epochSeconds)

theorem measure_eq (p : Probe) : p.measure = p.primary >>= p.conclude := by
  cases p <;> rfl

/-! ## Other credentials -/

def credentials : Probe → Credentials
  | .elasticsearch _ credentials _ | .mqtt _ _ credentials _ => credentials
  | .tcp .. | .udp .. => {}

def withCredentials (credentials : Credentials) : Probe → Probe
  | .elasticsearch url _ timeout => .elasticsearch url credentials timeout
  | .mqtt host port _ timeout => .mqtt host port credentials timeout
  | .tcp host port timeout => .tcp host port timeout
  | .udp host port timeout => .udp host port timeout

/-- Holds if two probes are the same but for their credentials. -/
def SameButCredentials (p q : Probe) : Prop := p.withCredentials {} = q.withCredentials {}

variable {p q : Probe}

theorem withCredentials_credentials (p : Probe) : p.withCredentials p.credentials = p := by
  cases p <;> rfl

theorem withCredentials_withCredentials (c d : Credentials) (p : Probe) :
    (p.withCredentials c).withCredentials d = p.withCredentials d := by
  cases p <;> rfl

theorem SameButCredentials.eq_withCredentials (h : p.SameButCredentials q) :
    q = p.withCredentials q.credentials := by
  have h : p.withCredentials {} = q.withCredentials {} := h
  calc
    q = (q.withCredentials {}).withCredentials q.credentials := by
      rw [withCredentials_withCredentials, withCredentials_credentials]
    _ = p.withCredentials q.credentials := by rw [← h, withCredentials_withCredentials]

theorem violation?_withCredentials (c : Credentials) (p : Probe) :
    (p.withCredentials c).violation? = p.violation? := by
  cases p <;> rfl

theorem primary_withCredentials (c : Credentials) (p : Probe) :
    (p.withCredentials c).primary = p.primary := by
  cases p <;> rfl

theorem presence_congr {c d : Credentials} (h : c.isConfigured = d.isConfigured) :
    c.presence = d.presence := by
  simp only [Credentials.presence, h]

/-- What a probe goes on with tells of its credentials only whether there is a user name. -/
theorem conclude_withCredentials {c : Credentials}
    (h : p.credentials.isConfigured = c.isConfigured) (outcome : Outcome) :
    (p.withCredentials c).conclude outcome = p.conclude outcome := by
  cases p with
  | tcp _ _ _ | udp _ _ _ => rfl
  | elasticsearch url own timeout =>
    have hpresence : own.presence = c.presence := presence_congr h
    simp only [withCredentials, conclude, Verdict.ofElasticsearch, hpresence]
  | mqtt host port own timeout =>
    have hpresence : own.presence = c.presence := presence_congr h
    simp only [withCredentials, conclude, Verdict.ofMqtt, hpresence]

theorem conclude_withCredentials_of_failed (c : Credentials) {outcome : Outcome}
    (h : outcome.isSuccess = false) :
    (p.withCredentials c).conclude outcome = p.conclude outcome := by
  cases p with
  | tcp _ _ _ | udp _ _ _ => rfl
  | elasticsearch url own timeout =>
    simp only [withCredentials, conclude, Verdict.ofElasticsearch, h, Bool.false_eq_true, if_false]
  | mqtt host port own timeout =>
    simp only [withCredentials, conclude, Verdict.ofMqtt, h, Bool.false_eq_true, if_false]

/-! ## The test -/

theorem SameButCredentials.violation?_eq (h : p.SameButCredentials q) :
    p.violation? = q.violation? := by
  rw [h.eq_withCredentials, violation?_withCredentials]

/-- Two probes that differ in their credentials only, and agree in whether there is a user name,
are one and the same test. -/
theorem SameButCredentials.test_eq (h : p.SameButCredentials q)
    (huser : p.credentials.isConfigured = q.credentials.isConfigured) : p.test = q.test := by
  have hmeasure : p.measure = q.measure := by
    rw [measure_eq, measure_eq, h.eq_withCredentials, primary_withCredentials]
    congr 1
    funext outcome
    exact (conclude_withCredentials huser outcome).symm
  rw [test, test, ← h.violation?_eq, hmeasure]

theorem SameButCredentials.trace_test_of_failed {σ : Type} {net : Network σ} {s : σ}
    (h : p.SameButCredentials q) (hfailed : (p.primary.run net s).isSuccess = false) :
    p.test.trace net s = q.test.trace net s := by
  have hfailed : (p.primary.trace net s).1.isSuccess = false := hfailed
  have hmeasure : p.measure.trace net s = q.measure.trace net s := by
    rw [measure_eq, measure_eq, h.eq_withCredentials, primary_withCredentials,
      Program.trace_bind, Program.trace_bind]
    simp only [conclude_withCredentials_of_failed _ hfailed]
  rw [test, test, ← h.violation?_eq]
  cases p.violation? with
  | some v => rfl
  | none => simp only [Program.trace_bind, hmeasure]

end Probe

end Reachability
