import Reachability.Settings
import Reachability.Text.Blank
import Reachability.Text.Split

/-!
# Settings from the environment

Three variables override the settings one by one. White space around a value does not
matter. The first value that is not valid ends the matter with an error; what the
variables before it have changed stays changed.
-/
namespace Reachability

/-- The values of the variables that are set. -/
structure Overrides where
  listenAddress : Option String := none
  defaultTimeout : Option String := none
  dnsHosts : Option String := none
deriving DecidableEq, Inhabited

namespace Overrides

/-- The variables by their names. -/
def ofLookup (lookup : String → Option String) : Overrides where
  listenAddress := lookup "LISTEN_ADDR"
  defaultTimeout := lookup "DEFAULT_TIMEOUT_SECONDS"
  dnsHosts := lookup "DNS_HOSTS"

/-- The socket address that a value denotes. -/
def listenAddress? (value : String) : Option SocketAddress :=
  SocketAddress.ofText? (Text.trim value)

/-- The positive number of seconds that a value denotes. -/
def timeout? (value : String) : Option Nat :=
  (Decimal.signedNumberUpTo? (UInt64.size - 1) (Text.trim value).toList).filter (0 < ·)

/-- The texts between the commas of a value that are not blank. -/
def hosts (value : String) : List String :=
  ((Text.splitAtEach ',' value.toList).map Text.trimChars).filter (· ≠ []) |>.map String.ofList

end Overrides

namespace Settings

def overrideListenAddress (s : Settings) : Option String → Except SettingsError Settings
  | none => .ok s
  | some value =>
    match Overrides.listenAddress? value with
    | some listenAddress => .ok { s with listenAddress }
    | none => .error (.invalidListenAddress value)

def overrideTimeout (s : Settings) : Option String → Except SettingsError Settings
  | none => .ok s
  | some value =>
    match Overrides.timeout? value with
    | some defaultTimeout => .ok { s with defaultTimeout }
    | none => .error (.invalidTimeout value)

def overrideDnsHosts (s : Settings) : Option String → Settings
  | none => s
  | some value => { s with dnsHosts := Overrides.hosts value }

/-- Applies the overrides in order. The settings are changed up to the first value that is not
valid, which is the error. -/
def override (s : Settings) (o : Overrides) : Settings × Option SettingsError :=
  match s.overrideListenAddress o.listenAddress with
  | .error e => (s, some e)
  | .ok s =>
    match s.overrideTimeout o.defaultTimeout with
    | .error e => (s, some e)
    | .ok s => (s.overrideDnsHosts o.dnsHosts, none)

/-- The settings after some overrides, one after the other, whether they are valid or not. -/
def overrideAll (s : Settings) (calls : List Overrides) : Settings :=
  calls.foldl (fun s o => (s.override o).1) s

end Settings

end Reachability
