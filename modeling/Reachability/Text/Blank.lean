/-!
# White space

The white space of host names, URLs and settings is the Unicode property
`White_Space`, not the six ASCII blanks. `trim` drops it from both ends of a
text and keeps what stands between.
-/
namespace Reachability.Text

/-- The Unicode property `White_Space`: twenty-five characters. -/
def isBlank (c : Char) : Bool :=
  let n := c.toNat
  (0x09 ≤ n && n ≤ 0x0D) || n == 0x20 || n == 0x85 || n == 0xA0 || n == 0x1680 ||
    (0x2000 ≤ n && n ≤ 0x200A) || n == 0x2028 || n == 0x2029 || n == 0x202F ||
    n == 0x205F || n == 0x3000

/-- Drops the end of a list as long as `p` holds of it. -/
def dropTrailing (p : α → Bool) (l : List α) : List α :=
  (l.reverse.dropWhile p).reverse

/-- The text without the white space at its two ends. -/
def trimChars (cs : List Char) : List Char :=
  dropTrailing isBlank (cs.dropWhile isBlank)

def trim (s : String) : String :=
  String.ofList (trimChars s.toList)

/-- Holds of a text that consists of white space only, the empty one included. -/
def isAllBlank (s : String) : Bool :=
  s.toList.all isBlank

@[simp] theorem toList_trim (s : String) : (trim s).toList = trimChars s.toList := by
  simp [trim]

end Reachability.Text
