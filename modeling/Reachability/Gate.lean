import Reachability.Diagnostics
import Reachability.Lock
import Reachability.Probe

/-!
# The gate

Probes run one at a time. A task that may run asks for the lock of the gate and is inside
while it holds it. It leaves when its work is done or when it is dropped, and the lock goes
to the task that has waited longest. Besides probes there are holds: tasks that stay inside
until they are asked to finish.

`Gate.step` takes a gate from one settled state to the next: it changes the tasks that the
step is about and then hands the lock on until a task keeps it.
-/
namespace Reachability

/-- What a task does inside. -/
inductive Work
  | hold
  | probe (p : Probe)
deriving DecidableEq

/-- Where a task is. -/
inductive TaskState
  | waiting
  | running
  /-- A hold that has left. -/
  | finished
  /-- A probe that has left with a verdict. -/
  | judged (status : Status)
  /-- A probe that was refused before it could wait. -/
  | rejected (violation : Violation)
  | dropped
deriving DecidableEq, Inhabited

structure Task where
  id : String
  work : Work
  state : TaskState
  /-- Whether a hold has been asked to finish. -/
  isAsked : Bool := false
deriving DecidableEq

/-- What can happen at a gate. -/
inductive GateStep
  | hold (id : String)
  | probe (id : String) (p : Probe)
  | finish (id : String)
  | drop (id : String)
  | report (exportType : String)
deriving DecidableEq

/-- The report that a step asks for. It is made at once, whatever the gate is like. -/
def GateStep.report? (timestamp : Nat) : GateStep → Option Diagnostics
  | .report exportType => some (.generate exportType timestamp)
  | .hold _ | .probe .. | .finish _ | .drop _ => none

namespace Task

def isWaiting (t : Task) : Bool := t.state == .waiting

def isRunning (t : Task) : Bool := t.state == .running

/-- The task after it has entered: inside, or already out again. -/
def enter (judge : Probe → Status) (t : Task) : Task :=
  match t.work with
  | .hold => { t with state := if t.isAsked then .finished else .running }
  | .probe p => { t with state := .judged (judge p) }

/-- The task after it has been asked to finish. Only a hold listens. -/
def finish (t : Task) : Task :=
  match t.work, t.state with
  | .hold, .waiting => { t with isAsked := true }
  | .hold, .running => { t with isAsked := true, state := .finished }
  | _, _ => t

/-- The task after it has been dropped, which matters only until it is done. -/
def drop (t : Task) : Task :=
  match t.state with
  | .waiting | .running => { t with state := .dropped }
  | _ => t

/-- Changes a task that has an identifier. -/
def ifNamed (id : String) (f : Task → Task) (t : Task) : Task := if t.id = id then f t else t

/-- Whether it is inside or waits to be. -/
def isInLine (t : Task) : Bool := t.isRunning || t.isWaiting

theorem isInLine_of_isRunning {t : Task} (h : t.isRunning = true) : t.isInLine = true := by
  simp [isInLine, h]

theorem isInLine_of_isWaiting {t : Task} (h : t.isWaiting = true) : t.isInLine = true := by
  simp [isInLine, h]

theorem isRunning_eq_false {t : Task} (h : t.isWaiting = true) : t.isRunning = false := by
  simp only [isWaiting, beq_iff_eq] at h
  simp [isRunning, h]

@[simp] theorem id_enter (judge : Probe → Status) (t : Task) : (t.enter judge).id = t.id := by
  unfold enter
  split <;> rfl

@[simp] theorem work_enter (judge : Probe → Status) (t : Task) :
    (t.enter judge).work = t.work := by
  unfold enter
  split <;> rfl

@[simp] theorem isAsked_enter (judge : Probe → Status) (t : Task) :
    (t.enter judge).isAsked = t.isAsked := by
  unfold enter
  split <;> rfl

@[simp] theorem id_finish (t : Task) : t.finish.id = t.id := by
  unfold finish
  split <;> rfl

@[simp] theorem work_finish (t : Task) : t.finish.work = t.work := by
  unfold finish
  split <;> rfl

@[simp] theorem work_drop (t : Task) : t.drop.work = t.work := by
  unfold drop
  split <;> rfl

@[simp] theorem id_drop (t : Task) : t.drop.id = t.id := by
  unfold drop
  split <;> rfl

/-- A hold that is asked to finish before it has entered goes on waiting. -/
@[simp] theorem isWaiting_finish (t : Task) : t.finish.isWaiting = t.isWaiting := by
  unfold finish isWaiting
  split
  · rfl
  · rename_i hs
    rw [hs]
    rfl
  · rfl

/-- A hold that stays in line after it has been asked to finish knows of it. -/
theorem isAsked_finish {t : Task} (hw : t.work = .hold) (h : t.finish.isInLine = true) :
    t.finish.isAsked = true := by
  unfold finish at h ⊢
  split <;> simp_all [isInLine, isRunning, isWaiting]

@[simp] theorem isInLine_drop (t : Task) : t.drop.isInLine = false := by
  unfold drop
  split <;> simp_all [isInLine, isRunning, isWaiting]

/-- Out of line a task cannot be asked to finish. -/
theorem finish_eq_self {t : Task} (h : t.isInLine = false) : t.finish = t := by
  unfold finish
  split <;> simp_all [isInLine, isRunning, isWaiting]

/-- Out of line a task cannot be dropped. -/
theorem drop_eq_self {t : Task} (h : t.isInLine = false) : t.drop = t := by
  unfold drop
  split <;> simp_all [isInLine, isRunning, isWaiting]

@[simp] theorem isWaiting_drop (t : Task) : t.drop.isWaiting = false := by
  have h := t.isInLine_drop
  simp only [isInLine, Bool.or_eq_false_iff] at h
  exact h.2

@[simp] theorem isWaiting_enter (judge : Probe → Status) (t : Task) :
    (t.enter judge).isWaiting = false := by
  unfold enter isWaiting
  split
  · cases t.isAsked <;> rfl
  · rfl

/-- Only a hold that nobody has asked to finish stays inside. -/
theorem enter_of_isRunning {judge : Probe → Status} {t : Task}
    (h : (t.enter judge).isRunning = true) :
    t.work = .hold ∧ t.isAsked = false ∧ t.enter judge = { t with state := .running } := by
  unfold enter isRunning at h
  unfold enter
  split at h
  · rename_i hw
    cases ha : t.isAsked
    · simp [hw]
    · simp [ha] at h
  · simp at h

end Task

/-- All tasks in the order in which they came, and the lock by their identifiers. -/
structure Gate where
  tasks : List Task := []
  lock : Lock String := .free
deriving DecidableEq

namespace Gate

/-- A gate without tasks. -/
def empty : Gate := {}

/-- The state in which a task arrives. -/
def arrival : Work → TaskState
  | .hold => .waiting
  | .probe p =>
    match p.violation? with
    | some v => .rejected v
    | none => .waiting

/-- A task waits when it arrives, unless it is refused. -/
theorem arrival_eq (work : Work) : arrival work = .waiting ∨ ∃ v, arrival work = .rejected v := by
  cases work with
  | hold => exact Or.inl rfl
  | probe p =>
    cases h : p.violation? with
    | none => exact Or.inl (by simp [arrival, h])
    | some v => exact Or.inr ⟨v, by simp [arrival, h]⟩

/-- Lets the first waiting task with an identifier inside. -/
def letIn (judge : Probe → Status) (id : String) : List Task → List Task
  | [] => []
  | t :: rest =>
    if t.id = id && t.isWaiting then t.enter judge :: rest else t :: letIn judge id rest

/-- Whether a task with an identifier is inside. -/
def isInside (id : String) (tasks : List Task) : Bool :=
  tasks.any fun t => t.id = id && t.isRunning

/-- Lets the holder of the lock in, and as long as the holder does not stay inside, releases the
lock and lets in whoever gets it then. The second part tells who entered. -/
def handOver (judge : Probe → Status) (tasks : List Task) (lock : Lock String) :
    Gate × List String :=
  match lock with
  | .free => (⟨tasks, .free⟩, [])
  | .held id queue =>
    let tasks := letIn judge id tasks
    if isInside id tasks then (⟨tasks, .held id queue⟩, [id])
    else
      let rest := handOver judge tasks (Lock.held id queue).release
      (rest.1, id :: rest.2)
termination_by lock.line.length
decreasing_by
  rw [Lock.line_release]
  exact Nat.lt_succ_self _

/-- Releases the lock if its holder has left. -/
def settle (judge : Probe → Status) (tasks : List Task) (lock : Lock String) :
    Gate × List String :=
  match lock with
  | .free => (⟨tasks, .free⟩, [])
  | .held id _ =>
    if isInside id tasks then (⟨tasks, lock⟩, []) else handOver judge tasks lock.release

/-- A new task: turned away at once, inside at once, or at the end of the queue. -/
def arrive (judge : Probe → Status) (g : Gate) (id : String) (work : Work) :
    Gate × List String :=
  let tasks := g.tasks ++ [{ id, work, state := arrival work }]
  if arrival work = .waiting then
    let lock := g.lock.acquire id
    match g.lock with
    | .free => handOver judge tasks lock
    | .held .. => (⟨tasks, lock⟩, [])
  else (⟨tasks, g.lock⟩, [])

/-- The settled gate after a step, and who entered in it. -/
def step (judge : Probe → Status) (g : Gate) : GateStep → Gate × List String
  | .hold id => g.arrive judge id .hold
  | .probe id p => g.arrive judge id (.probe p)
  | .finish id => settle judge (g.tasks.map (Task.ifNamed id Task.finish)) g.lock
  | .drop id => settle judge (g.tasks.map (Task.ifNamed id Task.drop)) (g.lock.withdraw id)
  | .report _ => (g, [])

/-- The gate after all of the steps. -/
def after (judge : Probe → Status) (g : Gate) : List GateStep → Gate
  | [] => g
  | s :: rest => after judge (g.step judge s).1 rest

/-- Who entered in the course of the steps, in order. -/
def entries (judge : Probe → Status) (g : Gate) : List GateStep → List String
  | [] => []
  | s :: rest =>
    let (g, entered) := g.step judge s
    entered ++ entries judge g rest

end Gate

end Reachability
