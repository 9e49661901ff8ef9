import Reachability.Credentials
import Reachability.Outcome
import Reachability.Verdict
import Reachability.Verdict.Rating

/-!
# Classification

How the outcome of an attempt becomes a verdict, one rule for each protocol. A failed
attempt is an error, except over UDP, where it is a warning: a datagram that is lost
says little about its target.
-/
namespace Reachability

open Decimal (text)

namespace Verdict

/-- A verdict with nothing but its target, its status and its time. -/
def start (status : Status) (host : String) (port : UInt16) (outcome : Outcome)
    (timestamp : Nat) : Verdict :=
  ⟨status, outcome.elapsedMs, host, port, .empty, [], [], timestamp⟩

/-- The detail that says why an attempt failed. -/
def withFailureReason (v : Verdict) (outcome : Outcome) : Verdict :=
  match outcome.failure with
  | none => v
  | some failure => v.withDetail "failure_reason" failure.message

/-- The verdict on a connection over TCP. -/
def ofTcp (host : String) (port : UInt16) (outcome : Outcome) (timestamp : Nat) : Verdict :=
  if outcome.isSuccess then
    start .success host port outcome timestamp
      |>.withDetail "tcp_handshake" "success"
      |>.withDetail "connection_type" "tcp"
      |>.withDetail "latency_quality" (Latency.ofMilliseconds outcome.elapsedMs).text
  else
    start .error host port outcome timestamp
      |>.withFailureReason outcome
      |>.withError "Failed to establish TCP connection"
      |>.withSuggestion
        ("Check if the target server is running and listening on port " ++ text port.toNat)
      |>.withSuggestion
        ("Verify firewall rules allow connections to " ++ host ++ ":" ++ text port.toNat)
      |>.withSuggestion "Test basic network connectivity with ping"

/-- The verdict on a datagram over UDP. -/
def ofUdp (host : String) (port : UInt16) (outcome : Outcome) (timestamp : Nat) : Verdict :=
  if outcome.isSuccess then
    start .success host port outcome timestamp
      |>.withDetail "udp_reachability" "success"
      |>.withDetail "connection_type" "udp"
      |>.withDetail "note" "UDP is connectionless - success indicates port appears reachable"
  else
    start .warning host port outcome timestamp
      |>.withFailureReason outcome
      |>.withError "UDP port appears unreachable or filtered"
      |>.withSuggestion "UDP is connectionless - this test has limitations"
      |>.withSuggestion ("Check if target service supports UDP on port " ++ text port.toNat)
      |>.withSuggestion "Verify firewall rules allow UDP traffic"
      |>.withSuggestion "Some firewalls silently drop UDP packets"

/-- What the attempt at the health endpoint adds; an attempt not made counts as failed. -/
def withHealth (v : Verdict) (health : Option Outcome) : Verdict :=
  if health.any Outcome.isSuccess then
    v |>.withDetail "elasticsearch_health" "success"
      |>.withDetail "cluster_accessible" "true"
  else
    { v with status := .warning }
      |>.withDetail "elasticsearch_health" "failed"
      |>.withError "HTTP connection successful but Elasticsearch health endpoint failed"
      |>.withSuggestion "Verify this is an Elasticsearch server"
      |>.withSuggestion "Check Elasticsearch authentication requirements"

/-- The rating of the time of the base attempt. -/
def withPerformance (v : Verdict) (elapsedMs : Nat) : Verdict :=
  let performance := Performance.ofMilliseconds elapsedMs
  let rated := v.withDetail "performance" performance.text
  if performance = .slow then
    rated.withSuggestion "Consider network optimization for better performance"
  else rated

/-- The verdict on an Elasticsearch endpoint. Its time is that of the attempt at the base
URL; the health endpoint counts only once that one succeeded. -/
def ofElasticsearch (url : String) (base : Outcome) (health : Option Outcome)
    (credentials : Credentials) (timestamp : Nat) : Verdict :=
  if base.isSuccess then
    start .success url 0 base timestamp
      |>.withDetail "http_connectivity" "success"
      |>.withDetail "connection_type" "elasticsearch"
      |>.withDetail "authentication" credentials.presence
      |>.withHealth health
      |>.withPerformance base.elapsedMs
  else
    start .error url 0 base timestamp
      |>.withFailureReason base
      |>.withError "Failed to connect to Elasticsearch endpoint"
      |>.withSuggestion "Verify the Elasticsearch URL is correct"
      |>.withSuggestion "Check if Elasticsearch is running and accessible"
      |>.withSuggestion "Verify network connectivity and firewall rules"
      |>.withSuggestion "Check SSL/TLS configuration if using HTTPS"

/-- The verdict on a connection to a broker. -/
def ofMqtt (host : String) (port : UInt16) (outcome : Outcome) (credentials : Credentials)
    (timestamp : Nat) : Verdict :=
  if outcome.isSuccess then
    start .success host port outcome timestamp
      |>.withDetail "tcp_connectivity" "success"
      |>.withDetail "connection_type" "mqtt"
      |>.withDetail "note" "TCP connection successful - MQTT protocol test requires full client"
      |>.withDetail "mqtt_port_type" (Mqtt.portType port)
      |>.withDetail "authentication" credentials.presence
  else
    start .error host port outcome timestamp
      |>.withFailureReason outcome
      |>.withError "Failed to establish TCP connection to MQTT broker"
      |>.withSuggestion ("Check if MQTT broker is running on " ++ host ++ ":" ++ text port.toNat)
      |>.withSuggestion "Verify firewall rules allow connections to MQTT broker"
      |>.withSuggestion ("Standard MQTT ports are " ++ text Mqtt.defaultPort.toNat ++
        " (unencrypted) and " ++ text Mqtt.tlsPort.toNat ++ " (SSL)")

end Verdict

end Reachability
