import Reachability.Url.Host

/-!
# URLs

Of a URL the scheme, the host and the port are taken apart, as the URL standard of the
web reads them: white space and controls at the ends and line breaks anywhere do not
count, a backslash is a slash in the schemes of the web, and user information ends at
the last `@`. Path, query and fragment are not checked.
-/
namespace Reachability

/-- How a scheme writes its hosts. -/
inductive SchemeKind
  /-- A scheme of the web with its usual port. -/
  | web (port : UInt16)
  | file
  | opaqueHost
deriving DecidableEq, Inhabited

structure Url where
  scheme : String
  host : Option Host
  /-- The port, unless it is missing or the usual one of the scheme. -/
  port : Option UInt16
deriving DecidableEq, Inhabited

namespace Url

def schemeKind (scheme : List Char) : SchemeKind :=
  match String.ofList scheme with
  | "http" => .web 80
  | "https" => .web 443
  | "ws" => .web 80
  | "wss" => .web 443
  | "ftp" => .web 21
  | "file" => .file
  | _ => .opaqueHost

/-- The characters that count: neither controls and blanks at the ends nor line breaks and
tabs. -/
def significant (cs : List Char) : List Char :=
  let isEdge (c : Char) : Bool := c.toNat ≤ 0x20
  let trimmed := ((cs.dropWhile isEdge).reverse.dropWhile isEdge).reverse
  trimmed.filter fun c => !(c == '\t' || c == '\n' || c == '\r')

def isSchemeChar (c : Char) : Bool :=
  Text.isAsciiLetter c || Decimal.isDigit c || c == '+' || c == '-' || c == '.'

/-- The scheme in lower case and what follows its colon. -/
def splitScheme? (cs : List Char) : Option (List Char × List Char) :=
  match cs.dropWhile isSchemeChar with
  | ':' :: rest =>
    if cs.head?.any Text.isAsciiLetter then
      some ((cs.takeWhile isSchemeChar).map Text.lowerAscii, rest)
    else none
  | _ => none

/-- Whether a character ends the authority. A backslash does in the schemes of the web. -/
def endsAuthority (isWeb : Bool) (c : Char) : Bool :=
  c == '/' || c == '?' || c == '#' || (isWeb && c == '\\')

/-- What stands before the last `@` of a list, if there is one, and what stands after it. -/
def splitAtLast (cs : List Char) : Option (List Char) × List Char :=
  if cs.contains '@' then
    let tail := (cs.reverse.takeWhile (· != '@')).reverse
    (some (cs.take (cs.length - tail.length - 1)), tail)
  else (none, cs)

/-- The authority at the front of a list and what follows it. -/
def splitAuthority (isWeb : Bool) (cs : List Char) : List Char × List Char :=
  (cs.takeWhile (!endsAuthority isWeb ·), cs.dropWhile (!endsAuthority isWeb ·))

/-- The host at the front of an authority, up to a colon outside of brackets, and the rest. -/
def splitHost (inBrackets : Bool) : List Char → List Char × List Char
  | [] => ([], [])
  | c :: cs =>
    if c = ':' ∧ !inBrackets then ([], c :: cs)
    else
      let inBrackets := if c = '[' then true else if c = ']' then false else inBrackets
      let (host, rest) := splitHost inBrackets cs
      (c :: host, rest)

/-- The port behind a host. A backslash ends it in every scheme. -/
def portOf (cs : List Char) : Except UrlError (Option UInt16) :=
  match cs with
  | [] => .ok none
  | _ :: cs =>
    let digits := cs.takeWhile Decimal.isDigit
    match cs.dropWhile Decimal.isDigit with
    | c :: _ =>
      if c = '\\' then number digits else .error .invalidPort
    | [] => number digits
where
  number (digits : List Char) : Except UrlError (Option UInt16) :=
    if digits = [] then .ok none
    else if Decimal.value digits ≤ 65535 then .ok (some (UInt16.ofNat (Decimal.value digits)))
    else .error .invalidPort

/-- Host and port of a URL of the web, from behind its slashes on. -/
def webAuthority (cs : List Char) : Except UrlError (Host × Option UInt16) := do
  let (authority, _) := splitAuthority true cs
  let (_, rest) := splitAtLast authority
  let (hostText, portText) := splitHost false rest
  if hostText = [] then .error .emptyHost
  else
    let host ← Host.ofWebText hostText
    let port ← portOf portText
    return (host, port)

/-- Host and port of a URL of another scheme, from behind its two slashes on. A missing host
is refused where a user or a port goes with it. -/
def opaqueAuthority (cs : List Char) : Except UrlError (Option Host × Option UInt16) := do
  let (authority, after) := splitAuthority false cs
  let (user, rest) := splitAtLast authority
  if user = some [] ∧ rest = [] ∧ after ≠ [] then .error .emptyHost
  else
    let (hostText, portText) := splitHost false rest
    let host ← Host.ofOpaqueText hostText
    if hostText = [] then
      if portText ≠ [] ∨ (user.any fun u => u ≠ [] && u ≠ [':']) then .error .emptyHost
      else return (none, none)
    else
      let port ← portOf portText
      return (some host, port)

/-- A letter and a colon or a bar, the name of a drive. -/
def isDrive (cs : List Char) : Bool :=
  match cs with
  | [letter, sign] => Text.isAsciiLetter letter && (sign == ':' || sign == '|')
  | _ => false

/-- A path segment as it is compared with `.` and `..`. -/
def dotSegment (cs : List Char) : List Char :=
  match cs with
  | '%' :: '2' :: e :: rest =>
    if e = 'e' ∨ e = 'E' then '.' :: dotSegment rest else cs
  | c :: rest => c :: dotSegment rest
  | [] => []

/-- Whether the first segment that stays in a path is the name of a drive. `depth` counts the
segments before. -/
def startsWithDrive (depth : Nat) : List (List Char) → Bool
  | [] => false
  | s :: rest =>
    if dotSegment s = ['.', '.'] then startsWithDrive (depth - 1) rest
    else if dotSegment s = ['.'] then startsWithDrive depth rest
    else (depth == 0 && isDrive s) || startsWithDrive (depth + 1) rest

/-- The segments of a path behind its first slash, up to a query or fragment. -/
def pathSegments (cs : List Char) : List (List Char) :=
  let path := (cs.takeWhile fun c => !(c == '?' || c == '#')).map fun c =>
    if c = '\\' then '/' else c
  Text.splitAtEach '/' (path.drop 1)

/-- The host of a file, from behind the colon of its scheme on. This machine, and a drive,
count as no host. -/
def fileHost (cs : List Char) : Except UrlError (Option Host) :=
  let isSlash (c : Char) : Bool := c == '/' || c == '\\'
  match cs with
  | a :: b :: rest =>
    if isSlash a && isSlash b then
      let (hostText, path) := splitAuthority true rest
      if hostText = [] ∨ isDrive hostText then .ok none
      else do
        let host ← Host.ofWebText hostText
        if host = .domain "localhost" ∨ startsWithDrive 0 (pathSegments path) then return none
        else return some host
    else .ok none
  | _ => .ok none

/-- The URL of a scheme with the text behind its colon. -/
def ofScheme (scheme rest : List Char) : Except UrlError Url := do
  let name := String.ofList scheme
  match schemeKind scheme with
  | .web usual =>
    let isSlash (c : Char) : Bool := c == '/' || c == '\\'
    let (host, port) ← webAuthority (rest.dropWhile isSlash)
    return ⟨name, some host, if port = some usual then none else port⟩
  | .file => return ⟨name, ← fileHost rest, none⟩
  | .opaqueHost =>
    match rest with
    | '/' :: '/' :: rest =>
      let (host, port) ← opaqueAuthority rest
      return ⟨name, host, port⟩
    | _ => return ⟨name, none, none⟩

/-- Reads an absolute URL. -/
def parse (text : String) : Except UrlError Url :=
  match splitScheme? (significant text.toList) with
  | none => .error .relativeWithoutBase
  | some (scheme, rest) => ofScheme scheme rest

end Url

end Reachability
