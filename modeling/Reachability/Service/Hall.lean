import Reachability.Gate.Interleaving
import Reachability.Service.Connection

/-!
# The hall

All connections are in one hall. Each takes what comes in on it and answers one thing after the
other, and each goes on whenever its turn comes. Tests run on the floor of the hall, where they
share one lock; a connection that has asked for a test waits for its call to end. Everything
else is answered without the lock.

A hall keeps what each connection asks of the network, and which answers it gets.
-/
namespace Reachability.Service

/-- The test that is to be run for something that has come in. -/
def Incoming.test? (defaultTimeout : Duration) : Incoming → Option Probe
  | .request r =>
    match Route.ofPath? r.path with
    | some (.probe p) =>
      if (Route.probe p).allows r.method then (probeOf defaultTimeout r.body p).toOption else none
    | some .report | none => none
  | .unreadable _ | .malformed => none

/-- What a connection does for its next answer. -/
inductive Errand
  /-- It waits for a test, by the number of its call. -/
  | test (call : Nat)
  /-- It goes on with a program of its own. -/
  | direct (rest : Program Reply)

/-- A connection. -/
structure Session where
  phase : Phase := .start
  /-- What has come in and is still to be answered, the first in front. -/
  arrived : List Incoming := []
  errand : Option Errand := none
  /-- The answers in the order in which they have gone out. -/
  replies : List Reply := []

namespace Session

/-- Takes some bytes. -/
def receive (s : Session) (bytes : List UInt8) : Session :=
  let (phase, arrived) := s.phase.feed bytes
  { s with phase, arrived := s.arrived ++ arrived }

/-- Takes the end of what the other side sends. -/
def finish (s : Session) : Session :=
  { s with phase := .closed, arrived := s.arrived ++ s.phase.finish }

/-- Sends an answer. -/
def answer (s : Session) (reply : Reply) : Session :=
  { s with errand := none, replies := s.replies ++ [reply] }

/-- A connection that is gone. -/
def abandon (s : Session) : Session := { s with phase := .closed, arrived := [], errand := none }

/-- Holds when everything that has come in has been answered. -/
def IsAtRest (s : Session) : Prop := s.arrived = [] ∧ s.errand = none

instance (s : Session) : Decidable s.IsAtRest :=
  decidable_of_iff (s.arrived = [] ∧ s.errand.isNone = true) (by simp [IsAtRest])

end Session

/-- What can happen in a hall, always to one connection, by its number. -/
inductive HallMove
  | receive (connection : Nat) (bytes : List UInt8)
  | finish (connection : Nat)
  | proceed (connection : Nat)
  | drop (connection : Nat)
deriving DecidableEq

def HallMove.connection : HallMove → Nat
  | .receive c _ | .finish c | .proceed c | .drop c => c

/-- All connections by their numbers, and the floor for their tests. -/
structure Hall (σ : Type) where
  sessions : Nat → Session := fun _ => {}
  floor : Floor σ
  /-- What the connections have asked of the network, with the answers. -/
  heard : List (Nat × Exchange) := []

namespace Hall

/-- The hall before anything has come in. -/
def opened (network : σ) : Hall σ := { floor := .ofProbes [] network }

def setSession (h : Hall σ) (c : Nat) (s : Session) : Hall σ :=
  { h with sessions := fun d => if d = c then s else h.sessions d }

/-- Begins to answer what has come in first. -/
def attend (defaultTimeout : Duration) (h : Hall σ) (c : Nat) : Hall σ :=
  let s := h.sessions c
  match s.arrived with
  | [] => h
  | i :: arrived =>
    match i.test? defaultTimeout with
    | some probe =>
      let errand := some (Errand.test h.floor.calls.length)
      { h.setSession c { s with arrived, errand } with floor := h.floor.enlist probe }
    | none =>
      let errand := some (Errand.direct (handle defaultTimeout i))
      h.setSession c { s with arrived, errand }

/-- The next step of the call that a connection waits for, or the answer if it has ended. -/
def pursue (net : Network σ) (h : Hall σ) (c : Nat) (call : Call) (i : Nat) : Hall σ :=
  match call.stage.ended? with
  | some ended => h.setSession c ((h.sessions c).answer (.ofResponse (.ofTest ended)))
  | none =>
    { h with
      floor := h.floor.proceed net i
      heard := h.heard ++ (call.stage.exchange? net h.floor.network).toList.map (c, ·) }

/-- The next step of a connection. -/
def proceed (net : Network σ) (defaultTimeout : Duration) (h : Hall σ) (c : Nat) : Hall σ :=
  match (h.sessions c).errand with
  | none => h.attend defaultTimeout c
  | some (.test i) =>
    match h.floor.calls[i]? with
    | some call => h.pursue net c call i
    | none => h
  | some (.direct (.done reply)) => h.setSession c ((h.sessions c).answer reply)
  | some (.direct (.ask action next)) =>
    let (answer, network) := net.answer h.floor.network action
    let errand := some (Errand.direct (next answer))
    { h.setSession c { h.sessions c with errand } with
      floor := { h.floor with network }, heard := h.heard ++ [(c, ⟨action, answer⟩)] }

/-- The end of a connection. The test that it waits for is dropped. -/
def drop (h : Hall σ) (c : Nat) : Hall σ :=
  let g := h.setSession c (h.sessions c).abandon
  match (h.sessions c).errand with
  | some (.test i) => { g with floor := h.floor.dropCall i }
  | some (.direct _) | none => g

def move (net : Network σ) (defaultTimeout : Duration) (h : Hall σ) : HallMove → Hall σ
  | .receive c bytes => h.setSession c ((h.sessions c).receive bytes)
  | .finish c => h.setSession c (h.sessions c).finish
  | .proceed c => h.proceed net defaultTimeout c
  | .drop c => h.drop c

/-- The hall after all moves of a schedule. -/
def run (net : Network σ) (defaultTimeout : Duration) (h : Hall σ) : List HallMove → Hall σ
  | [] => h
  | m :: moves => (h.move net defaultTimeout m).run net defaultTimeout moves

/-- What a connection has asked of the network, with the answers. -/
def heardBy (h : Hall σ) (c : Nat) : List Exchange :=
  (h.heard.filter (·.1 = c)).map (·.2)

end Hall

/-- The reads in which the bytes of a connection come in. -/
def readsOf (c : Nat) : List HallMove → List (List UInt8)
  | [] => []
  | .receive d bytes :: moves => if d = c then bytes :: readsOf c moves else readsOf c moves
  | _ :: moves => readsOf c moves

end Reachability.Service
