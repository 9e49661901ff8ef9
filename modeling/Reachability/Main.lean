import Reachability.ErrorReport
import Reachability.Network.Live
import Reachability.Service.Serve
import Reachability.Settings.Load

/-!
# The program

Loads the settings and serves requests until accepting a connection fails.
-/
namespace Reachability

open Std.Async

/-- What is at the path of a file. -/
def readFile (path : String) : IO FileState := do
  try return .contents (← IO.FS.readBinFile path).toList
  catch e => return .failing (Network.Live.ioError e)

/-- The settings from the environment and the file that it names. -/
def loadSettings : IO (Except SettingsError Settings) := do
  let mut values := []
  for name in ["CONFIG_FILE", "LISTEN_ADDR", "DEFAULT_TIMEOUT_SECONDS", "DNS_HOSTS"] do
    if let some value ← IO.getEnv name then values := (name, value) :: values
  let lookup := fun name => values.lookup name
  let file ← readFile ((lookup "CONFIG_FILE").getD Settings.defaultPath)
  return Settings.loadFrom (fun _ => file) lookup

namespace Service

/-- Answers what arrives on a connection until it ends. -/
partial def converse (m : Network.Live.Machine) (defaultTimeout : Duration)
    (client : TCP.Socket.Client) (phase : Phase) : Async Unit := do
  let received ← client.recv? 65536
  let (phase, arrived) := match received with
    | some bytes => phase.feed bytes.toList
    | none => (.closed, phase.finish)
  for request in arrived do
    let reply ← Network.Live.run m (handle defaultTimeout request)
    client.send ⟨reply.toBytes.toArray⟩
  if phase matches .closed then client.shutdown
  else converse m defaultTimeout client phase

/-- Accepts connections and leaves each to a task of its own, until accepting fails. -/
partial def acceptAll (m : Network.Live.Machine) (defaultTimeout : Duration)
    (server : TCP.Socket.Server) : Async IoError := do
  let attempt ← try Except.ok <$> server.accept catch e => pure (.error (Network.Live.ioError e))
  let handOver (client : TCP.Socket.Client) (next : Async IoError) : Async IoError := do
    background (converse m defaultTimeout client .start)
    next
  turn handOver pure (acceptAll m defaultTimeout server) attempt

end Service

/-- Reports an error and its causes. -/
def fail (message : String) (causes : List String) : IO UInt32 := do
  IO.eprintln (ErrorReport.text message causes)
  return 1

end Reachability

open Reachability in
def main : IO UInt32 := do
  match ← loadSettings with
  | .error e => fail e.message e.causes
  | .ok settings =>
    match Resolver.ofHosts settings.dnsHosts with
    | .error e => fail e.message e.causes
    | .ok resolver =>
      try
        let server ← Std.Async.TCP.Socket.Server.mk
        server.bind (Network.Live.socketAddress settings.listenAddress)
        server.listen 1024
        let machine ← Network.Live.Machine.start resolver
        let e ← (Service.acceptAll machine (.ofSeconds settings.defaultTimeout) server).block
        fail e.message []
      catch e => fail (Network.Live.ioError e).message []
