/-!
# Ratings of response times

Two scales of three grades each, one for plain connections and one for
Elasticsearch, and the classes of ports on which brokers listen.
-/
namespace Reachability

inductive Latency
  | excellent
  | good
  | poor
deriving DecidableEq, Inhabited

namespace Latency

def ofMilliseconds (ms : Nat) : Latency :=
  if ms < 100 then .excellent else if ms < 500 then .good else .poor

def text : Latency → String
  | .excellent => "excellent"
  | .good => "good"
  | .poor => "poor"

end Latency

inductive Performance
  | excellent
  | good
  | slow
deriving DecidableEq, Inhabited

namespace Performance

def ofMilliseconds (ms : Nat) : Performance :=
  if ms < 200 then .excellent else if ms < 1000 then .good else .slow

def text : Performance → String
  | .excellent => "excellent"
  | .good => "good"
  | .slow => "slow"

end Performance

namespace Mqtt

/-- The port of brokers without encryption. -/
def defaultPort : UInt16 := 1883

/-- The port of brokers with encryption. -/
def tlsPort : UInt16 := 8883

/-- The class of a port. -/
def portType (port : UInt16) : String :=
  if port = defaultPort then "standard_unencrypted"
  else if port = tlsPort then "standard_ssl"
  else "custom"

end Mqtt

end Reachability
