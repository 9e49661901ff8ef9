import Reachability.Json.Number
import Reachability.Json.Text

/-!
# Skipping JSON values

A value that nobody asks for is stepped over, whatever it is and however deep: open
arrays and objects are kept in a list, so depth costs no more than length.
-/
namespace Reachability.Json

/-- An open array or object. -/
inductive Bracket
  | array
  | object
deriving DecidableEq, Inhabited

namespace Bracket

/-- The byte that closes it. -/
def closing : Bracket → UInt8
  | array => byte ']'
  | object => byte '\x7d'

/-- The problem of a text that ends inside of it. -/
def endProblem : Bracket → Problem
  | array => .endOfArray
  | object => .endOfObject

/-- The problem of a text in which neither a comma nor its end follows. -/
def commaProblem : Bracket → Problem
  | array => .noArrayEnd
  | object => .noObjectEnd

end Bracket

namespace Skip

/-- What begins with a byte: a bracket, which is open from there on, or a whole value. -/
def begin (b : UInt8) (bs : List UInt8) : Except Fault (Option Bracket × List UInt8) :=
  let whole (r : Except Fault (List UInt8)) : Except Fault (Option Bracket × List UInt8) :=
    r.map (none, ·)
  if b == byte 'n' then whole ((word ("ull".toList.map byte) bs).map (·.2))
  else if b == byte 't' then whole ((word ("rue".toList.map byte) bs).map (·.2))
  else if b == byte 'f' then whole ((word ("alse".toList.map byte) bs).map (·.2))
  else if b == byte '-' || Numeral.isDigit b then whole (Number.skip (b :: bs))
  else if b == byte '"' then whole (skipString 0 bs)
  else if b == byte '[' then .ok (some .array, bs)
  else if b == byte '\x7b' then .ok (some .object, bs)
  else failBehind .noValue (b :: bs)

/-- Steps over a member name and its colon. -/
def memberName (bs : List UInt8) : Except Fault (List UInt8) :=
  match skipBlank bs with
  | [] => failAt .endOfObject []
  | b :: bs =>
    if b != byte '"' then failBehind .noKey (b :: bs)
    else do
      let bs ← skipString 0 bs
      match skipBlank bs with
      | [] => failAt .endOfObject []
      | b :: bs => if b == byte ':' then return bs else failBehind .noColon (b :: bs)

/-- What comes next inside of open brackets, innermost first. -/
inductive Next
  /-- A value in these brackets, the first of which is not new. -/
  | value (open_ : List Bracket) (rest : List UInt8)
  /-- All brackets are closed. -/
  | done (rest : List UInt8)

/-- Closes brackets up to a comma or the first value in a new bracket. -/
def close (mayBeComma : Bool) : List Bracket → (fuel : Nat) → List UInt8 → Except Fault Next
  | [], _, bs => .ok (.done bs)
  | _, 0, bs => .ok (.done bs)
  | bracket :: outer, fuel + 1, bs =>
    match skipBlank bs with
    | [] => failAt bracket.endProblem []
    | b :: bs =>
      if mayBeComma && b == byte ',' then .ok (.value (bracket :: outer) bs)
      else if b == bracket.closing then close true outer fuel bs
      else if mayBeComma then failBehind bracket.commaProblem (b :: bs)
      else .ok (.value (bracket :: outer) (b :: bs))

end Skip

/-- Steps over a value in open brackets and over the rest of these. -/
def skipIn (brackets : List Bracket) : (fuel : Nat) → List UInt8 → Except Fault (List UInt8)
  | 0, bs => .ok bs
  | fuel + 1, bs =>
    match skipBlank bs with
    | [] => failAt .endOfValue []
    | b :: bs => do
      let (new, bs) ← Skip.begin b bs
      let brackets := new.toList ++ brackets
      match ← Skip.close new.isNone brackets fuel bs with
      | .done rest => return rest
      | .value brackets bs =>
        let bs ← if brackets.head? == some .object then Skip.memberName bs else pure bs
        skipIn brackets fuel bs

/-- Steps over a value. -/
def skip (bs : List UInt8) : Except Fault (List UInt8) := skipIn [] (bs.length + 1) bs

end Reachability.Json
