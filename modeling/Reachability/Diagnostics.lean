import Reachability.Json.Compact
import Reachability.Text.Blank
import Reachability.Verdict.Rating

/-!
# Diagnostic reports

What the service can test and what to do about common failures. A report covers one
protocol or, when none is asked for, all four of them; a report on anything else has
the common sections only.
-/
namespace Reachability

inductive Protocol
  | tcp
  | udp
  | elasticsearch
  | mqtt
deriving DecidableEq, Inhabited

namespace Protocol

def name : Protocol → String
  | .tcp => "tcp"
  | .udp => "udp"
  | .elasticsearch => "elasticsearch"
  | .mqtt => "mqtt"

def all : List Protocol := [.tcp, .udp, .elasticsearch, .mqtt]

/-- The key of its section in a report. -/
def sectionName (p : Protocol) : String := p.name ++ "_diagnostics"

private def ports (l : List Nat) : Json := .array (l.map .natural)

/-- The seconds that a probe may take when nothing else is said. -/
def timeoutSeconds : Nat := 10

/-- Its section in a report. -/
def facts : Protocol → Json
  | .tcp => .object [
      ("socket_support", .text "available"),
      ("common_ports", ports [80, 443, 8080, 8443, 9200]),
      ("timeout_default", .natural timeoutSeconds)]
  | .udp => .object [
      ("socket_support", .text "available"),
      ("common_ports", ports [53, 123, 1883, 5683]),
      ("limitations", .text "connectionless protocol - limited testing capability")]
  | .elasticsearch => .object [
      ("http_client", .text "tcp reachability only"),
      ("ssl_support", .text "not verified"),
      ("common_ports", ports [9200, 9243]),
      ("health_endpoint", .text "/_cluster/health")]
  | .mqtt => .object [
      ("tcp_support", .text "available"),
      ("ssl_support", .text "not verified"),
      ("common_ports", ports [1883, 8883]),
      ("protocol_version", .text "3.1.1")]

end Protocol

/-- A report and the protocols that have a section in it. -/
structure Diagnostics where
  /-- Seconds since 1970 when the report was made. -/
  timestamp : Nat
  reportType : String
  sections : List Protocol
deriving DecidableEq, Inhabited

namespace Diagnostics

/-- The type of a report on everything. -/
def fullSystem : String := "full_system"

/-- The report of the type asked for. White space around the type is dropped, and an empty
type asks for every section. -/
def generate (exportType : String) (timestamp : Nat) : Diagnostics :=
  let kind := Text.trim exportType
  { timestamp
    reportType := if kind.isEmpty then fullSystem else kind
    sections := Protocol.all.filter fun p => kind.isEmpty || kind == p.name }

private def advice (l : List String) : Json := .array (l.map .text)

def systemInfo : Json := .object [
  ("version", .text "1.0.0"),
  ("platform", .text "linux")]

def networkDiagnostics : Json := .object [
  ("dns_resolution", .text "available"),
  ("ipv4_connectivity", .text "available"),
  ("ipv6_connectivity", .text "unknown")]

def troubleshootingGuide : Json := .object [
  ("connection_refused", advice [
    "Check if target service is running",
    "Verify port number is correct",
    "Check firewall rules",
    "Test with telnet or nc command"]),
  ("timeout_errors", advice [
    "Check network connectivity",
    "Verify DNS resolution",
    "Test with ping command",
    "Check for network congestion"]),
  ("authentication_failed", advice [
    "Verify username and password",
    "Check API key validity",
    "Confirm authentication method",
    "Test credentials manually"]),
  ("ssl_errors", advice [
    "Check certificate validity",
    "Verify SSL/TLS version support",
    "Check certificate chain",
    "Test with curl --insecure"])]

def toJson (d : Diagnostics) : Json :=
  .object <|
    [("timestamp", .natural d.timestamp),
      ("report_type", .text d.reportType),
      ("system_info", systemInfo),
      ("network_diagnostics", networkDiagnostics)] ++
    d.sections.map (fun p => (p.sectionName, p.facts)) ++
    [("troubleshooting_guide", troubleshootingGuide)]

end Diagnostics

end Reachability
