import Reachability.Outcome
import Reachability.Url

/-!
# Endpoints

The host and the port that a URL points at. A URL without `://` is read with `http://`
before it, and the port is 443 for `https` and 80 for every other scheme unless the URL
names one.
-/
namespace Reachability

structure Endpoint where
  host : String
  port : UInt16
deriving DecidableEq, Inhabited

namespace Endpoint

/-- Whether one list occurs in another. -/
def occursIn (part : List Char) : List Char → Bool
  | [] => part.isEmpty
  | c :: cs => part.isPrefixOf (c :: cs) || occursIn part cs

/-- The text with a scheme. -/
def withScheme (url : String) : String :=
  if occursIn "://".toList url.toList then url else "http://" ++ url

def defaultPort (scheme : String) : UInt16 :=
  if scheme = "https" then 443 else 80

/-- The endpoint of a URL that has been taken apart, or why there is none. -/
def ofParsed : Except UrlError Url → Except String Endpoint
  | .error e => .error e.message
  | .ok url =>
    match url.host with
    | none => .error "missing host"
    | some host => .ok ⟨host.toText, url.port.getD (defaultPort url.scheme)⟩

/-- The endpoint of a URL. -/
def ofUrl (url : String) : Except Failure Endpoint :=
  match ofParsed (Url.parse (withScheme url)) with
  | .ok endpoint => .ok endpoint
  | .error reason => .error (.malformedUrl url reason)

/-- The path of the health of a cluster. -/
def healthPath : String := "_cluster/health"

/-- The URL of the health of the cluster at a base URL. -/
def healthUrl (base : String) : String :=
  if base.toList.getLast? = some '/' then base ++ healthPath else base ++ "/" ++ healthPath

end Endpoint

end Reachability
