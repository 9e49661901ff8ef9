import Reachability.Endpoint
import Reachability.HostName

/-!
# Attempts

One attempt to reach a target: a TCP connection, a UDP datagram, or a TCP connection to
the endpoint of a URL. The time runs from before the name is looked up to the end of the
connection or the send; an attempt that ends earlier takes no time.
-/
namespace Reachability.Attempt

/-- Milliseconds between two readings of the clock, in nanoseconds. -/
def elapsedMs (start finish : Nat) : Nat :=
  Outcome.milliseconds (.ofNanoseconds (finish - start))

/-- The outcome of an attempt to connect. -/
def ofConnection (limit : Duration) (elapsedMs : Nat) : Connection → Outcome
  | .established => .success elapsedMs
  | .failed e => .failed elapsedMs (.connect e)
  | .timedOut => .failed elapsedMs (.connectTimeout limit)

/-- Connects to a host over TCP and gives up after the limit. -/
def tcp (host : String) (port : UInt16) (limit : Duration) : Program Outcome := do
  let start ← Program.perform .instant
  match ← HostName.resolve host with
  | .error failure => return .failed 0 failure
  | .ok ip =>
    let connection ← Program.perform (.connect (.ofIp ip port) limit)
    let finish ← Program.perform .instant
    return ofConnection limit (elapsedMs start finish) connection

/-- The text that the datagram carries. -/
def marker : String := "REACHBOX_CONNECTIVITY_TEST"

/-- The datagram. -/
def payload : List UInt8 := Text.Utf8.encode marker.toList

/-- Where the datagram is sent from: any address of the family of the target. -/
def source : IpAddress → SocketAddress
  | .v4 _ => .v4 .unspecified 0
  | .v6 _ => .v6 .unspecified 0 0

/-- The outcome of a send. -/
def ofSend (elapsedMs : Nat) : Except IoError Nat → Outcome
  | .ok 0 => .failed elapsedMs (.send (.described .writeZero "no bytes sent"))
  | .ok _ => .success elapsedMs
  | .error e => .failed elapsedMs (.send e)

/-- Sends one datagram to a host over UDP; no answer is awaited. -/
def udp (host : String) (port : UInt16) : Program Outcome := do
  let start ← Program.perform .instant
  match ← HostName.resolve host with
  | .error failure => return .failed 0 failure
  | .ok ip =>
    match ← Program.perform (.bind (source ip)) with
    | .error e => return .failed 0 (.socketSetup e)
    | .ok () =>
      let sent ← Program.perform (.send (.ofIp ip port) payload)
      let finish ← Program.perform .instant
      return ofSend (elapsedMs start finish) sent

/-- Connects to the endpoint of a URL over TCP. -/
def http (url : String) (limit : Duration) : Program Outcome :=
  match Endpoint.ofUrl url with
  | .error failure => .done (.failed 0 failure)
  | .ok endpoint => tcp endpoint.host endpoint.port limit

end Reachability.Attempt
