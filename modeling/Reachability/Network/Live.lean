import Reachability.Network
import Reachability.NameServers.Query
import Std.Async.DNS
import Std.Async.TCP
import Std.Async.Timer
import Std.Async.UDP
import Std.Time

/-!
# The machine's own network

The questions of a program are answered with the clocks and the sockets of the machine
that it runs on. Names go to the configured name servers, or to the machine's resolver.
A visit is one request in the course of being answered. It takes its turn at its first
question about the network and keeps it to its end, so the probes of two visits never
overlap, and the turns go by order of arrival.
-/
namespace Reachability.Network.Live

open Std.Async

/-- The number that comes with an error, of which sockets give the negative. -/
def errorCode? : IO.Error → Option UInt32
  | .alreadyExists _ code _ | .otherError code _ | .resourceBusy code _
  | .resourceVanished code _ | .unsupportedOperation code _ | .hardwareFault code _
  | .unsatisfiedConstraints code _ | .illegalOperation code _ | .protocolError code _
  | .timeExpired code _ | .interrupted _ code _ | .noFileOrDirectory _ code _
  | .invalidArgument _ code _ | .permissionDenied _ code _ | .resourceExhausted _ code _
  | .inappropriateType _ code _ | .noSuchThing _ code _ => some code
  | .unexpectedEof | .userError _ => none

def ioError (e : IO.Error) : IoError :=
  match errorCode? e with
  | some code => .os (min code (-code)).toNat
  | none => .described .other e.toString

def socketAddress : SocketAddress → Std.Net.SocketAddress
  | .v4 a port => .v4 ⟨.ofParts a.first a.second a.third a.fourth, port⟩
  | .v6 a port _ => .v6 ⟨⟨a.groups⟩, port⟩

def ipAddress : Std.Net.IPAddr → IpAddress
  | .v4 a => .v4 ⟨a.octets[0], a.octets[1], a.octets[2], a.octets[3]⟩
  | .v6 a => .v6 ⟨a.segments⟩

/-- Runs an action and gives it up after the limit. -/
def within (limit : Duration) (action : Async α) : Async (Option α) :=
  Async.race (do return some (← action)) do
    sleep (.ofNat (min limit.wholeMilliseconds 0x8000000000000000))
    return none

/-- Why a lookup fails that no name server answers. -/
def noAnswer : String := "no addresses found"

/-- Reads until so many bytes have arrived or there are no more. -/
def receive (client : TCP.Socket.Client) (size : Nat) : Async (List UInt8) := go size size []
where
  go : (fuel missing : Nat) → List UInt8 → Async (List UInt8)
    | 0, _, bytes => return bytes
    | fuel + 1, missing, bytes => do
      if missing = 0 then return bytes
      match ← client.recv? missing.toUInt64 with
      | none => return bytes
      | some more => go fuel (missing - more.size) (bytes ++ more.toList)

/-- Asks one name server. -/
def ask (server : NameServer) (message : List UInt8) : Async (List UInt8) := do
  let client ← TCP.Socket.Client.mk
  client.connect (socketAddress (.ofIp server.address server.port))
  client.send ⟨(NameServer.Query.framed message).toArray⟩
  match ← receive client 2 with
  | [high, low] => receive client (NameServer.Query.ofWord high low)
  | _ => return []

/-- The addresses of a name, from the first server that has some. -/
def lookupAt (servers : List NameServer) (host : String) : Async (List IpAddress) := do
  for family in [NameServer.Family.v4, .v6] do
    for server in servers do
      if let some message := NameServer.Query.message? host family then
        let reply ← try within (.ofSeconds 5) (ask server message) catch _ => pure none
        let found := NameServer.Query.answers family (reply.getD [])
        if !found.isEmpty then return found
  return []

def lookup (resolver : Resolver) (host : String) : Async (Except String (List IpAddress)) := do
  try
    match resolver with
    | .servers servers =>
      let found ← lookupAt servers host
      return if found.isEmpty then .error noAnswer else .ok found
    | .system => return .ok ((← DNS.getAddrInfo host "").toList.map ipAddress)
  catch e => return .error e.toString

def connect (target : SocketAddress) (limit : Duration) : Async Connection := do
  try
    let client ← TCP.Socket.Client.mk
    match ← within limit (client.connect (socketAddress target)) with
    | none => return .timedOut
    | some () =>
      try client.shutdown catch _ => pure ()
      return .established
  catch e => return .failed (ioError e)

/-- The machine, with the turn of the visit that came last. -/
structure Machine where
  resolver : Resolver
  last : IO.Ref (IO.Promise Unit)

namespace Machine

/-- A machine on which nobody has a turn. -/
def start (resolver : Resolver) : IO Machine := do
  let free ← IO.Promise.new
  free.resolve ()
  return { resolver, last := ← IO.mkRef free }

end Machine

structure Visit where
  machine : Machine
  /-- The turn of this visit, once it has asked about the network. -/
  turn : IO.Ref (Option (IO.Promise Unit))
  socket : IO.Ref (Option UDP.Socket)

namespace Visit

/-- Waits for the visits that have asked before. -/
def takeTurn (v : Visit) : Async Unit := do
  if (← v.turn.get).isSome then return
  let mine ← IO.Promise.new
  let before ← v.machine.last.modifyGet fun before => (before, mine)
  v.turn.set (some mine)
  await before

def leave (v : Visit) : Async Unit := do
  if let some mine := ← v.turn.get then mine.resolve ()

def answer (v : Visit) : (action : Action) → Async action.Answer
  | .instant => do
    v.takeTurn
    IO.monoNanosNow
  | .epochSeconds => return (← Std.Time.Timestamp.now).toSecondsSinceUnixEpoch.toInt.toNat
  | .lookup host => lookup v.machine.resolver host
  | .connect target limit => connect target limit
  | .bind source => do
    try
      let socket ← UDP.Socket.mk
      socket.bind (socketAddress source)
      v.socket.set (some socket)
      return .ok ()
    catch e => return .error (ioError e)
  | .send target payload => do
    try
      if let some socket := ← v.socket.get then
        socket.send ⟨payload.toArray⟩ (some (socketAddress target))
      return .ok payload.length
    catch e => return .error (ioError e)

end Visit

/-- Runs a program as a visit of its own. -/
def run (m : Machine) (p : Program α) : Async α := do
  let v : Visit := ⟨m, ← IO.mkRef none, ← IO.mkRef none⟩
  try p.interpret v.answer finally v.leave

end Reachability.Network.Live
