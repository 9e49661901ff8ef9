import Reachability.Hexadecimal
import Reachability.Text.Printable

/-!
# Quoted text

Messages quote a text in double quotes, so that its ends and its invisible
characters can be seen. A quote and a backslash carry a backslash, the common
control characters have a letter, and everything without a glyph of its own is
written by its code point.
-/
namespace Reachability.Text

/-- How one character stands between the quotes. -/
def quotedChar (c : Char) : String :=
  if c = '\x00' then "\\0"
  else if c = '\t' then "\\t"
  else if c = '\r' then "\\r"
  else if c = '\n' then "\\n"
  else if c = '\\' then "\\\\"
  else if c = '"' then "\\\""
  else if isGraphemeExtender c || !isPrintable c then
    "\\u\x7b" ++ Hexadecimal.text c.toNat ++ "\x7d"
  else c.toString

/-- The text in double quotes, escaped. -/
def quoted (s : String) : String :=
  "\"" ++ String.join (s.toList.map quotedChar) ++ "\""

end Reachability.Text
