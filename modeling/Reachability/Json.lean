import Reachability.Json.Numeral

/-!
# JSON values

Members of an object keep the order in which they are listed, and numbers are kept as
they are written.
-/
namespace Reachability

inductive Json
  | null
  | boolean (value : Bool)
  | number (numeral : Json.Numeral)
  | text (value : String)
  | array (items : List Json)
  | object (members : List (String × Json))
deriving Inhabited

namespace Json

/-- The number of a natural number. -/
def natural (n : Nat) : Json := .number (.ofNat n)

/-- The names of the members of an object, in order. -/
def keys : Json → List String
  | .object members => members.map (·.1)
  | _ => []

/-- The first member of an object with a name. -/
def member? (name : String) : Json → Option Json
  | .object members => members.lookup name
  | _ => none

end Json

end Reachability
