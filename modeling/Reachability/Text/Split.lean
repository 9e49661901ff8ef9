/-!
# Pieces of a text

A separator cuts a text into pieces, one more than there are separators.
-/
namespace Reachability.Text

/-- The characters between the separators. -/
def splitAtEach (sep : Char) : List Char → List (List Char)
  | [] => [[]]
  | c :: cs =>
    if c = sep then [] :: splitAtEach sep cs
    else match splitAtEach sep cs with
      | [] => [[c]]
      | piece :: pieces => (c :: piece) :: pieces

end Reachability.Text
