import Reachability.Settings.Overrides
import Reachability.Text.Utf8
import Reachability.Yaml.Reader

/-!
# Loading the settings

The settings come from a file, if there is one, and from the environment. A file may be
missing unless it was asked for by name. It holds UTF-8 and, in it, a YAML mapping with
any of the three settings; other keys are not looked at.
-/
namespace Reachability

/-- What reading at the path of the file gives. -/
inductive FileState
  | failing (error : IoError)
  | contents (bytes : List UInt8)
deriving DecidableEq, Inhabited

namespace FileState

/-- Where there is no file. -/
def absent : FileState := .failing .notFound

/-- Where there is a directory. -/
def directory : FileState := .failing .isDirectory

def notUtf8 : IoError := .described .invalidData "stream did not contain valid UTF-8"

/-- The text of a file. -/
def text : FileState → Except IoError String
  | .failing e => .error e
  | .contents bytes =>
    match Text.Utf8.decode? bytes with
    | some cs => .ok (.ofList cs)
    | none => .error notUtf8

end FileState

namespace Settings

open Yaml

/-- Reads a socket address. -/
def socketAddress : Reader SocketAddress :=
  Reader.scalarText "socket address" fun s =>
    match SocketAddress.ofText? s with
    | some address => .ok address
    | none => .error "invalid socket address syntax"

/-- The keys of a settings file. -/
def fields : List (Reader.Field Settings) := [
  ⟨"listen_addr", Reader.into socketAddress fun listenAddress s => { s with listenAddress }⟩,
  ⟨"default_timeout_seconds",
    Reader.into Reader.natural fun defaultTimeout s => { s with defaultTimeout }⟩,
  ⟨"dns_hosts",
    Reader.into (Reader.sequence Reader.text) fun dnsHosts s => { s with dnsHosts }⟩]

/-- The settings that the text of a file holds. -/
def ofText (text : String) : Except Yaml.Error Settings :=
  Reader.record "struct ServiceConfig" fields {} (Document.ofText text)

/-- The settings of a file. A missing one has the defaults, unless it was asked for by name. -/
def ofFile (path : String) (isExplicit : Bool) (file : FileState) :
    Except SettingsError Settings :=
  match file.text with
  | .error e => if !isExplicit && e.isNotFound then .ok {} else .error (.unreadable path e)
  | .ok text => (ofText text).mapError .malformed

/-- The settings of a file under the overrides, with a positive timeout. -/
def load (path : String) (isExplicit : Bool) (file : FileState) (o : Overrides) :
    Except SettingsError Settings := do
  let s ← ofFile path isExplicit file
  match s.override o with
  | (_, some e) => .error e
  | (s, none) => if s.defaultTimeout = 0 then .error (.invalidTimeout "0") else return s

/-- The path of the file unless the environment names another. -/
def defaultPath : String := "config.yml"

/-- The settings of the file that the variable `CONFIG_FILE` names, or of the default one. -/
def loadFrom (files : String → FileState) (lookup : String → Option String) :
    Except SettingsError Settings :=
  let path := lookup "CONFIG_FILE"
  load (path.getD defaultPath) path.isSome (files (path.getD defaultPath)) (.ofLookup lookup)

end Settings

end Reachability
