import Reachability.Diagnostics
import Reachability.Service.Request

/-!
# Answering requests

Five paths lead to the four tests and to the report. A test is asked for with `POST`, a
report with `POST` or, without parameters, with `GET`. Every answer is JSON, and an
answer that is no result has one member that says why.
-/
namespace Reachability.Service

/-- What a path leads to. -/
inductive Route
  | probe (protocol : Protocol)
  | report
deriving DecidableEq, Inhabited

namespace Route

def path : Route → String
  | .probe p => "/api/v1/connectivity/test/" ++ p.name
  | .report => "/api/v1/connectivity/diagnostics/report"

def all : List Route := Protocol.all.map .probe ++ [.report]

def ofPath? (path : String) : Option Route := all.find? (·.path == path)

/-- Whether a method is taken. -/
def allows : Route → (method : String) → Bool
  | .probe _, method => method == "POST"
  | .report, method => method == "GET" || method == "POST"

end Route

/-- Why a request has no result. -/
inductive Refusal
  | malformedBody (reason : String)
  | violation (v : Violation)
  | notFound
  | methodNotAllowed
deriving DecidableEq, Inhabited

namespace Refusal

def message : Refusal → String
  | .malformedBody reason => "Invalid request body: " ++ reason
  | .violation v => v.message
  | .notFound => "Not found"
  | .methodNotAllowed => "Method not allowed"

def status : Refusal → Nat
  | .malformedBody _ | .violation _ => 400
  | .notFound => 404
  | .methodNotAllowed => 405

end Refusal

structure Response where
  status : Nat
  body : Json
deriving Inhabited

namespace Response

def contentType (_ : Response) : String := "application/json"

def ofRefusal (r : Refusal) : Response := ⟨r.status, .object [("error", .text r.message)]⟩

/-- The answer to a test that has ended. -/
def ofTest : Except Violation Verdict → Response
  | .ok verdict => ⟨200, verdict.toJson⟩
  | .error v => ⟨400, .object [("error", .text v.message)]⟩

/-- The answer to a request whose body could not be read off its connection. -/
def unreadableBody (reason : String) : Response :=
  ofRefusal (.malformedBody ("failed to read request body: " ++ reason))

end Response

/-- A request for a path without its query. -/
structure Request where
  method : String
  path : String
  body : List UInt8
deriving DecidableEq, Inhabited

/-- The test that a body asks for. -/
def probeOf (defaultTimeout : Duration) (body : List UInt8) : Protocol → Except String Probe
  | .tcp => (decodeBody HostRequest.shape body).map (·.tcpProbe defaultTimeout)
  | .udp => (decodeBody HostRequest.shape body).map (·.udpProbe defaultTimeout)
  | .elasticsearch => (decodeBody ClusterRequest.shape body).map (·.probe defaultTimeout)
  | .mqtt => (decodeBody BrokerRequest.shape body).map (·.probe defaultTimeout)

/-- Runs the test that a body asks for. -/
def runProbe (defaultTimeout : Duration) (p : Protocol) (body : List UInt8) :
    Program (Except Refusal Json) :=
  match probeOf defaultTimeout body p with
  | .error reason => .done (.error (.malformedBody reason))
  | .ok probe => do
    match ← probe.test with
    | .error v => return .error (.violation v)
    | .ok verdict => return .ok verdict.toJson

/-- Makes the report that a request asks for. -/
def makeReport (method : String) (body : List UInt8) : Program (Except Refusal Json) :=
  let parameters :=
    if method == "GET" then .ok {} else decodeBody ReportRequest.shape body
  match parameters with
  | .error reason => .done (.error (.malformedBody reason))
  | .ok r => do
    return .ok (Diagnostics.generate r.exportType (← Program.perform .epochSeconds)).toJson

/-- The result of a request. -/
def result (defaultTimeout : Duration) (r : Request) : Program (Except Refusal Json) :=
  match Route.ofPath? r.path with
  | none => .done (.error .notFound)
  | some route =>
    if !route.allows r.method then .done (.error .methodNotAllowed)
    else
      match route with
      | .probe p => runProbe defaultTimeout p r.body
      | .report => makeReport r.method r.body

/-- The answer to a request. -/
def respond (defaultTimeout : Duration) (r : Request) : Program Response := do
  match ← result defaultTimeout r with
  | .ok body => return ⟨200, body⟩
  | .error refusal => return .ofRefusal refusal

/-- The answers to some requests, one after the other. -/
def respondAll (defaultTimeout : Duration) : List Request → Program (List Response)
  | [] => .done []
  | r :: more => do
    let response ← respond defaultTimeout r
    return response :: (← respondAll defaultTimeout more)

end Reachability.Service
