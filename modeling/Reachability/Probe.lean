import Reachability.Attempt
import Reachability.Text.Blank
import Reachability.Verdict.Classify

/-!
# Probes

The four connectivity tests. What a caller asks for is checked first: a probe without a
target, a port or time is refused before it touches the network. A probe that may run
ends with a verdict, whatever the network does.
-/
namespace Reachability

/-- A test and its parameters. -/
inductive Probe
  | tcp (host : String) (port : UInt16) (timeout : Duration)
  /-- The timeout is checked but has no effect, as no answer is awaited. -/
  | udp (host : String) (port : UInt16) (timeout : Duration)
  | elasticsearch (url : String) (credentials : Credentials) (timeout : Duration)
  | mqtt (host : String) (port : Option UInt16) (credentials : Credentials)
      (timeout : Duration)
deriving DecidableEq

/-- What a caller can leave out. -/
inductive Violation
  | missingHost
  | missingUrl
  | missingPort
  | zeroTimeout
deriving DecidableEq, Inhabited

namespace Violation

def message : Violation → String
  | .missingHost => "Missing required parameter: host"
  | .missingUrl => "Missing required parameter: url"
  | .missingPort => "Missing required parameter: port"
  | .zeroTimeout => "Timeout must be greater than zero"

end Violation

namespace Probe

/-- The first violation of a probe with a host, a port and a timeout. -/
def hostViolation? (host : String) (port : UInt16) (timeout : Duration) : Option Violation :=
  if Text.isAllBlank host then some .missingHost
  else if port = 0 then some .missingPort
  else if timeout.isZero then some .zeroTimeout
  else none

/-- The first violation of a probe with a URL and a timeout. -/
def urlViolation? (url : String) (timeout : Duration) : Option Violation :=
  if Text.isAllBlank url then some .missingUrl
  else if timeout.isZero then some .zeroTimeout
  else none

/-- The first violation of a probe, if it may not run. -/
def violation? : Probe → Option Violation
  | .tcp host port timeout => hostViolation? host port timeout
  | .udp host port timeout => hostViolation? host port timeout
  | .elasticsearch url _ timeout => urlViolation? url timeout
  | .mqtt host port _ timeout => hostViolation? host (port.getD Mqtt.defaultPort) timeout

/-- The attempt at the health of a cluster, made only after its base URL was reached. -/
def health (url : String) (timeout : Duration) (base : Outcome) : Program (Option Outcome) :=
  if base.isSuccess then do
    return some (← Attempt.http (Endpoint.healthUrl url) timeout)
  else return none

/-- What a probe does once it may run. -/
def measure : Probe → Program Verdict
  | .tcp host port timeout => do
    let outcome ← Attempt.tcp host port timeout
    return .ofTcp host port outcome (← Program.perform .epochSeconds)
  | .udp host port _ => do
    let outcome ← Attempt.udp host port
    return .ofUdp host port outcome (← Program.perform .epochSeconds)
  | .elasticsearch url credentials timeout => do
    let base ← Attempt.http url timeout
    let health ← health url timeout base
    return .ofElasticsearch url base health credentials (← Program.perform .epochSeconds)
  | .mqtt host port credentials timeout => do
    let port := port.getD Mqtt.defaultPort
    let outcome ← Attempt.tcp host port timeout
    return .ofMqtt host port outcome credentials (← Program.perform .epochSeconds)

/-- The whole test: refused, or run to its verdict. -/
def test (p : Probe) : Program (Except Violation Verdict) :=
  match p.violation? with
  | some v => .done (.error v)
  | none => do return .ok (← p.measure)

end Probe

end Reachability
