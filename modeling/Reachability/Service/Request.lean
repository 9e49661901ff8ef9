import Reachability.Json.Reader
import Reachability.Probe

/-!
# Bodies of requests

Each kind of request has a record of parameters, all of which a caller may leave out. A
body of white space only stands for a record without any.
-/
namespace Reachability.Service

open Json (Reader Shape)

/-- The parameters of a TCP or UDP test. -/
structure HostRequest where
  host : String := ""
  port : UInt16 := 0
  timeout : Option Nat := none
deriving DecidableEq, Inhabited

/-- The parameters of an Elasticsearch test. -/
structure ClusterRequest where
  url : String := ""
  credentials : Credentials := {}
  timeout : Option Nat := none
deriving DecidableEq, Inhabited

/-- The parameters of an MQTT test. -/
structure BrokerRequest where
  host : String := ""
  port : Option UInt16 := none
  credentials : Credentials := {}
  timeout : Option Nat := none
deriving DecidableEq, Inhabited

/-- The parameter of a report. -/
structure ReportRequest where
  exportType : String := ""
deriving DecidableEq, Inhabited

/-- The time that a probe may take, by its request or by default. -/
def timeoutFor (defaultTimeout : Duration) (requested : Option Nat) : Duration :=
  (requested.map Duration.ofSeconds).getD defaultTimeout

/-- Reads a port. -/
def portNumber : Reader UInt16 := fun bs =>
  (Reader.natural 65535 "u16" bs).map fun (n, rest) => (UInt16.ofNat n, rest)

/-- Reads a number of seconds. -/
def seconds : Reader Nat := Reader.natural (UInt64.size - 1) "u64"

namespace HostRequest

def shape : Shape HostRequest where
  name := "struct HostPortRequest"
  fields := [
    { name := "host", read := Reader.into Reader.text fun host r => { r with host } },
    { name := "port", read := Reader.into portNumber fun port r => { r with port } },
    { name := "timeout", isRequired := true
      read := Reader.into (Reader.optional seconds) fun timeout r => { r with timeout } }]
  defaults := {}

def tcpProbe (r : HostRequest) (defaultTimeout : Duration) : Probe :=
  .tcp r.host r.port (timeoutFor defaultTimeout r.timeout)

def udpProbe (r : HostRequest) (defaultTimeout : Duration) : Probe :=
  .udp r.host r.port (timeoutFor defaultTimeout r.timeout)

end HostRequest

/-- Sets the user name of some credentials. -/
def withUsername (username : String) (c : Credentials) : Credentials := { c with username }

/-- Sets the password of some credentials. -/
def withPassword (password : String) (c : Credentials) : Credentials := { c with password }

namespace ClusterRequest

def shape : Shape ClusterRequest where
  name := "struct ElasticsearchRequest"
  fields := [
    { name := "url", read := Reader.into Reader.text fun url r => { r with url } },
    { name := "username"
      read := Reader.into Reader.text fun s r =>
        { r with credentials := withUsername s r.credentials } },
    { name := "password"
      read := Reader.into Reader.text fun s r =>
        { r with credentials := withPassword s r.credentials } },
    { name := "timeout", isRequired := true
      read := Reader.into (Reader.optional seconds) fun timeout r => { r with timeout } }]
  defaults := {}

def probe (r : ClusterRequest) (defaultTimeout : Duration) : Probe :=
  .elasticsearch r.url r.credentials (timeoutFor defaultTimeout r.timeout)

end ClusterRequest

namespace BrokerRequest

def shape : Shape BrokerRequest where
  name := "struct MqttRequest"
  fields := [
    { name := "host", read := Reader.into Reader.text fun host r => { r with host } },
    { name := "port", isRequired := true
      read := Reader.into (Reader.optional portNumber) fun port r => { r with port } },
    { name := "username"
      read := Reader.into Reader.text fun s r =>
        { r with credentials := withUsername s r.credentials } },
    { name := "password"
      read := Reader.into Reader.text fun s r =>
        { r with credentials := withPassword s r.credentials } },
    { name := "timeout", isRequired := true
      read := Reader.into (Reader.optional seconds) fun timeout r => { r with timeout } }]
  defaults := {}

def probe (r : BrokerRequest) (defaultTimeout : Duration) : Probe :=
  .mqtt r.host r.port r.credentials (timeoutFor defaultTimeout r.timeout)

end BrokerRequest

namespace ReportRequest

def shape : Shape ReportRequest where
  name := "struct ReportRequest"
  fields := [
    { name := "export_type", read := Reader.into Reader.text fun exportType _ => { exportType } }]
  defaults := {}

end ReportRequest

/-- The white space that a body without parameters may consist of. -/
def isBodyBlank (b : UInt8) : Bool :=
  b == 0x20 || b == 0x09 || b == 0x0A || b == 0x0C || b == 0x0D

/-- The parameters that a body holds, or why it holds none. -/
def decodeBody (s : Shape ρ) (body : List UInt8) : Except String ρ :=
  if body.all isBodyBlank then .ok s.defaults
  else (s.readAll body).mapError (·.message body)

end Reachability.Service
