import Reachability.Service.Connection

/-!
# Serving

The service accepts one connection after the other and leaves each to a task of its own.
It serves as long as accepting succeeds and ends with the first error.
-/
namespace Reachability.Service

/-- What becomes of a service. -/
structure Served (κ : Type) where
  /-- The connections that have been handed to tasks, in order. -/
  connections : List κ
  /-- Why the service ended, if it did. -/
  ending : Option IoError := none
deriving DecidableEq, Inhabited

/-- One turn of a service, after an attempt to accept a connection: the connection is handed over
before the next turn, and an error is the end. -/
def turn (handOver : κ → ρ → ρ) (stop : IoError → ρ) (next : ρ) : Except IoError κ → ρ
  | .ok connection => handOver connection next
  | .error e => stop e

namespace Served

def cons (connection : κ) (served : Served κ) : Served κ :=
  { served with connections := connection :: served.connections }

def ended (e : IoError) : Served κ := { connections := [], ending := some e }

end Served

/-- Serves what accepting gives, time after time. -/
def accept : List (Except IoError κ) → Served κ
  | [] => { connections := [] }
  | attempt :: more => turn .cons .ended (accept more) attempt

/-- Serves at an address once it could be bound. -/
def serve (bound : Except IoError Unit) (accepted : List (Except IoError κ)) : Served κ :=
  match bound with
  | .error e => .ended e
  | .ok () => accept accepted

end Reachability.Service
