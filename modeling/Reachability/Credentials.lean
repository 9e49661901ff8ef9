import Reachability.Text.Quoted

/-!
# Credentials

A user name and a password that accompany a test. They are sent nowhere: a verdict
says only whether a user name was given, and their text never shows the password.
-/
namespace Reachability

structure Credentials where
  username : String := ""
  password : String := ""
deriving DecidableEq, Inhabited

namespace Credentials

def isConfigured (c : Credentials) : Bool := !c.username.isEmpty

/-- What a verdict says about them. -/
def presence (c : Credentials) : String :=
  if c.isConfigured then "configured" else "none"

/-- A text for people to read, with the password left out. -/
def redacted (c : Credentials) : String :=
  "Credentials \x7b username: " ++ Text.quoted c.username ++
    ", password: \"<redacted>\" \x7d"

end Credentials

end Reachability
