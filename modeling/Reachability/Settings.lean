import Reachability.Address.Text
import Reachability.IoError
import Reachability.Text.Quoted
import Reachability.Yaml.Error

/-!
# Settings of the service

Where the service listens, how long a probe may take when its request does not say, and
which name servers look up the targets.
-/
namespace Reachability

structure Settings where
  listenAddress : SocketAddress := .v4 .loopback 2502
  /-- Seconds that a probe may take. -/
  defaultTimeout : Nat := 10
  /-- Addresses of name servers; none of them stands for those of the system. -/
  dnsHosts : List String := []
deriving DecidableEq, Inhabited

/-- Why there are no settings. -/
inductive SettingsError
  | unreadable (path : String) (error : IoError)
  | malformed (error : Yaml.Error)
  | invalidListenAddress (text : String)
  | invalidTimeout (text : String)
deriving DecidableEq, Inhabited

namespace SettingsError

def message : SettingsError → String
  | .unreadable path _ => "failed to read config file " ++ path
  | .malformed _ => "invalid YAML in config file"
  | .invalidListenAddress text => "invalid listen address " ++ Text.quoted text
  | .invalidTimeout text =>
    "invalid default timeout " ++ Text.quoted text ++
      ", expected a positive number of seconds"

/-- The messages of the errors behind it. -/
def causes : SettingsError → List String
  | .unreadable _ e => [e.message]
  | .malformed e => [e.message]
  | .invalidListenAddress _ | .invalidTimeout _ => []

end SettingsError

end Reachability
