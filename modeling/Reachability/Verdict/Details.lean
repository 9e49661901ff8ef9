import Reachability.Json

/-!
# Details of a verdict

Named texts with distinct names, in the order in which the names were first given.
A name that is given again changes its text and keeps its place.
-/
namespace Reachability

structure Details where
  entries : List (String × String) := []
deriving DecidableEq, Inhabited

namespace Details

/-- Sets the text of the first entry with this name, or adds an entry at the end. -/
def setEntry (key value : String) : List (String × String) → List (String × String)
  | [] => [(key, value)]
  | (k, v) :: rest =>
    if k = key then (k, value) :: rest else (k, v) :: setEntry key value rest

def empty : Details := {}

def insert (d : Details) (key value : String) : Details :=
  ⟨setEntry key value d.entries⟩

def get? (d : Details) (key : String) : Option String :=
  d.entries.lookup key

def contains (d : Details) (key : String) : Bool := (d.get? key).isSome

def toList (d : Details) : List (String × String) := d.entries

def keys (d : Details) : List String := d.entries.map (·.1)

def size (d : Details) : Nat := d.entries.length

def isEmpty (d : Details) : Bool := d.entries.isEmpty

/-- The object with one member for each entry, in order. -/
def toJson (d : Details) : Json :=
  .object (d.entries.map fun (k, v) => (k, .text v))

end Details

end Reachability
