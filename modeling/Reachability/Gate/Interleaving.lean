import Reachability.Lock
import Reachability.Network.Dialogue
import Reachability.Probe

/-!
# Calls that share a gate

Several calls go through one gate and take their steps in any order. A call is checked,
asks for the lock of the gate, asks its questions one at a time once it has the lock, and
returns. It may be dropped at any moment, also while it waits for an answer: then it has
asked and does not go on. Whoever leaves hands the lock to the call that has waited longest.

A floor keeps what the calls ask of the network, in order, whatever the schedule is.
-/
namespace Reachability

/-- Where a call is. -/
inductive Stage
  | called
  | waiting
  /-- Inside, with the rest of its program. -/
  | inside (rest : Program Verdict)
  | returned (verdict : Verdict)
  | rejected (violation : Violation)
  | dropped

namespace Stage

def isInside : Stage → Bool
  | .inside _ => true
  | _ => false

def isWaiting : Stage → Bool
  | .waiting => true
  | _ => false

/-- Whether a call neither has the lock nor queues for it. -/
def isIdle (s : Stage) : Bool := !s.isInside && !s.isWaiting

/-- What passes between a call and the network in its next step, if anything does. -/
def exchange? (net : Network σ) (network : σ) : Stage → Option Exchange
  | .inside (.ask action _) => some ⟨action, (net.answer network action).1⟩
  | .inside (.done _) | .called | .waiting | .returned _ | .rejected _ | .dropped => none

/-- How a call has ended, unless it was dropped. -/
def ended? : Stage → Option (Except Violation Verdict)
  | .returned verdict => some (.ok verdict)
  | .rejected violation => some (.error violation)
  | .called | .waiting | .inside _ | .dropped => none

/-- A call that has ended neither has the lock nor queues for it. -/
theorem isIdle_of_ended? {s : Stage} {ended : Except Violation Verdict}
    (h : s.ended? = some ended) : s.isIdle = true := by
  cases s with
  | returned _ | rejected _ => rfl
  | called | waiting | inside _ | dropped => cases h

theorem isWaiting_of_isInside {s : Stage} (h : s.isInside = true) : s.isWaiting = false := by
  cases s with
  | inside _ => rfl
  | called | waiting | returned _ | rejected _ | dropped => cases h

theorem eq_waiting_of_any {s : Option Stage} (h : s.any isWaiting = true) :
    s = some .waiting := by
  cases s with
  | none => simp at h
  | some s =>
    cases s with
    | waiting => rfl
    | called | inside _ | returned _ | rejected _ | dropped => cases h

end Stage

/-- A call of a probe. -/
structure Call where
  probe : Probe
  stage : Stage := .called

/-- One step of the schedule: a call, by its number, goes on or is dropped. -/
inductive Move
  | proceed (call : Nat)
  | drop (call : Nat)
deriving DecidableEq

/-- The call that a step is about. -/
def Move.call : Move → Nat
  | .proceed i | .drop i => i

/-- All calls, the lock by their numbers, and the network that they share. -/
structure Floor (σ : Type) where
  calls : List Call
  lock : Lock Nat := .free
  network : σ
  /-- What has been asked of the network, and by which call. -/
  trace : List (Nat × Action) := []

namespace Floor

/-- The floor before any call has gone on. -/
def ofProbes (probes : List Probe) (network : σ) : Floor σ :=
  { calls := probes.map fun probe => { probe }, network }

/-- The floor with one more call. -/
def enlist (f : Floor σ) (probe : Probe) : Floor σ := { f with calls := f.calls ++ [{ probe }] }

/-- The floor with a call in another stage. -/
def setStage (f : Floor σ) (i : Nat) (stage : Stage) : Floor σ :=
  { f with calls := f.calls.modify i fun c => { c with stage } }

/-- Lets a call that has the lock begin. -/
def letIn (f : Floor σ) (i : Nat) : Floor σ :=
  { f with calls := f.calls.modify i fun c => { c with stage := .inside c.probe.measure } }

/-- Asks for the lock on behalf of a call. -/
def acquire (f : Floor σ) (i : Nat) : Floor σ :=
  let g := { f with lock := f.lock.acquire i }
  match f.lock with
  | .free => g.letIn i
  | .held .. => g.setStage i .waiting

/-- Takes the lock from its holder and gives it to the call that has waited longest. -/
def release (f : Floor σ) : Floor σ :=
  let g := { f with lock := f.lock.release }
  match g.lock with
  | .free => g
  | .held i _ => g.letIn i

/-- The next step of a call. -/
def proceed (net : Network σ) (f : Floor σ) (i : Nat) : Floor σ :=
  match f.calls[i]? with
  | none => f
  | some c =>
    match c.stage with
    | .called =>
      match c.probe.violation? with
      | some v => f.setStage i (.rejected v)
      | none => f.acquire i
    | .inside (.done v) => (f.setStage i (.returned v)).release
    | .inside (.ask action next) =>
      let (reply, network) := net.answer f.network action
      { f.setStage i (.inside (next reply)) with network, trace := f.trace ++ [(i, action)] }
    | .waiting | .returned _ | .rejected _ | .dropped => f

/-- The end of a call that nobody waits for any more. -/
def dropCall (f : Floor σ) (i : Nat) : Floor σ :=
  match f.calls[i]? with
  | none => f
  | some c =>
    match c.stage with
    | .called => f.setStage i .dropped
    | .waiting => { f.setStage i .dropped with lock := f.lock.withdraw i }
    | .inside _ => (f.setStage i .dropped).release
    | .returned _ | .rejected _ | .dropped => f

def move (net : Network σ) (f : Floor σ) : Move → Floor σ
  | .proceed i => f.proceed net i
  | .drop i => f.dropCall i

/-- The floor after all steps of a schedule. -/
def run (net : Network σ) (f : Floor σ) : List Move → Floor σ
  | [] => f
  | m :: moves => (f.move net m).run net moves

/-- What has been seen on the network, and by which call it was caused. -/
def traffic (f : Floor σ) : List (Nat × Action) := f.trace.filter (·.2.isTraffic)

end Floor

end Reachability
