/-!
# Locks

A lock that one party holds at a time while the others queue for it in the order in which
they came. Whoever gives it up hands it to the one that has waited longest, so that it is
never free while somebody waits.
-/
namespace Reachability

/-- A lock that is free, or held while others wait, the first to have it next in front. -/
inductive Lock (ι : Type)
  | free
  | held (holder : ι) (queue : List ι)
deriving DecidableEq, Inhabited

namespace Lock

/-- Who has it. -/
def holder? : Lock ι → Option ι
  | .free => none
  | .held holder _ => some holder

/-- Those who wait, the first to have it next in front. -/
def queue : Lock ι → List ι
  | .free => []
  | .held _ queue => queue

/-- Who has it or waits for it, in the order in which they get it. -/
def line : Lock ι → List ι
  | .free => []
  | .held holder queue => holder :: queue

/-- The lock when someone asks for it: held at once if it is free. -/
def acquire (i : ι) : Lock ι → Lock ι
  | .free => .held i []
  | .held holder queue => .held holder (queue ++ [i])

/-- The lock when its holder has given it up. -/
def release : Lock ι → Lock ι
  | .free | .held _ [] => .free
  | .held _ (i :: queue) => .held i queue

/-- The lock when one of those who wait has gone away. -/
def withdraw [DecidableEq ι] (i : ι) : Lock ι → Lock ι
  | .free => .free
  | .held holder queue => .held holder (queue.filter (· ≠ i))

theorem line_release (lock : Lock ι) : lock.release.line = lock.line.tail := by
  cases lock with
  | free => rfl
  | held holder queue => cases queue <;> rfl

theorem eq_of_line_eq {lock lock' : Lock ι} (h : lock.line = lock'.line) : lock = lock' := by
  cases lock <;> cases lock' <;> simp_all [line]

theorem exists_line_eq (line : List ι) : ∃ lock : Lock ι, lock.line = line := by
  cases line with
  | nil => exact ⟨.free, rfl⟩
  | cons holder queue => exact ⟨.held holder queue, rfl⟩

/-- What holds of a free lock, and of a held one if it holds once that is released, holds of
every lock: released often enough, a lock is free. -/
@[elab_as_elim] theorem releaseRec {motive : Lock ι → Prop} (free : motive .free)
    (held : ∀ holder queue, motive (release (.held holder queue)) → motive (.held holder queue))
    (lock : Lock ι) : motive lock := by
  cases lock with
  | free => exact free
  | held holder queue =>
    induction queue generalizing holder with
    | nil => exact held holder [] free
    | cons i queue ih => exact held holder (i :: queue) (ih i)

variable [DecidableEq ι]

theorem holder?_withdraw (i : ι) (lock : Lock ι) : (lock.withdraw i).holder? = lock.holder? := by
  cases lock <;> rfl

theorem queue_withdraw (i : ι) (lock : Lock ι) :
    (lock.withdraw i).queue = lock.queue.filter (· ≠ i) := by
  cases lock <;> rfl

end Lock

end Reachability
