import Reachability.Duration
import Reachability.IoError
import Reachability.Text.Quoted

/-!
# Outcomes of network attempts

A single attempt to reach a target takes some time and either succeeds or fails for
one of six causes. The time is zero when the attempt ended before its timed part.
-/
namespace Reachability

/-- Why an attempt did not succeed. -/
inductive Failure
  | unresolved (host reason : String)
  | socketSetup (error : IoError)
  | connectTimeout (limit : Duration)
  | connect (error : IoError)
  | send (error : IoError)
  | malformedUrl (url reason : String)
deriving DecidableEq, Inhabited

namespace Failure

def message : Failure → String
  | .unresolved host reason => "could not resolve host " ++ host ++ ": " ++ reason
  | .socketSetup e => "socket setup failed: " ++ e.message
  | .connectTimeout limit => "connection timed out after " ++ limit.toText
  | .connect e => "connection failed: " ++ e.message
  | .send e => "datagram send failed: " ++ e.message
  | .malformedUrl url reason => "could not parse url " ++ Text.quoted url ++ ": " ++ reason

/-- The messages of the errors behind it: that of the system error, if there is one. -/
def causes : Failure → List String
  | .socketSetup e | .connect e | .send e => [e.message]
  | .unresolved .. | .connectTimeout _ | .malformedUrl .. => []

end Failure

/-- Time and result of one attempt. -/
structure Outcome where
  elapsedMs : Nat
  failure : Option Failure := none
deriving DecidableEq, Inhabited

namespace Outcome

def success (elapsedMs : Nat) : Outcome := ⟨elapsedMs, none⟩

def failed (elapsedMs : Nat) (failure : Failure) : Outcome := ⟨elapsedMs, some failure⟩

def isSuccess (o : Outcome) : Bool := o.failure.isNone

/-- Whole milliseconds of a duration, at most the largest number of 64 bits. -/
def milliseconds (d : Duration) : Nat := min d.wholeMilliseconds (UInt64.size - 1)

end Outcome

end Reachability
