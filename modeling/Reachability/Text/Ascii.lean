/-!
# ASCII letters
-/
namespace Reachability.Text

def isAscii (c : Char) : Bool := c.toNat < 0x80

/-- A capital of ASCII in lower case, any other character as it is. -/
def lowerAscii (c : Char) : Char :=
  if 'A' ≤ c ∧ c ≤ 'Z' then Char.ofNat (c.toNat + 32) else c

def isAsciiLetter (c : Char) : Bool :=
  ('a' ≤ c && c ≤ 'z') || ('A' ≤ c && c ≤ 'Z')

end Reachability.Text
