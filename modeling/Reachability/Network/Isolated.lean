import Reachability.Network
import Reachability.Text.Ascii
import Reachability.Text.Split

/-!
# A machine without a network

Its own names, `localhost` and those under it, have the loopback address; no other name
has one. Sockets can be made, but nothing can be reached and no time passes.
-/
namespace Reachability.Network

/-- Why a lookup fails. -/
def lookupFailed : String := "lookup failed"

/-- Whether the last label of a name, a dot at its end aside, is `localhost` in any case. -/
def isLoopbackName (name : String) : Bool :=
  let labels := Text.splitAtEach '.' (name.toList.map Text.lowerAscii)
  let labels := if 1 < labels.length ∧ labels.getLast? = some [] then labels.dropLast else labels
  !labels.contains [] && labels.getLast? = some "localhost".toList

/-- The network of such a machine at a fixed time. -/
def isolated (epochSeconds : Nat) : Network Unit where
  answer _ action :=
    match action with
    | .instant => (0, ())
    | .epochSeconds => (epochSeconds, ())
    | .lookup name =>
      (if isLoopbackName name then .ok [.v4 .loopback] else .error lookupFailed, ())
    | .connect .. => (.failed .networkUnreachable, ())
    | .bind _ => (.ok (), ())
    | .send target _ =>
      (.error (if target.port = 0 then .invalidArgument else .networkUnreachable), ())

end Reachability.Network
