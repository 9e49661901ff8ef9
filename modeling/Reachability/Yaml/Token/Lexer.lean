import Reachability.Yaml.Token.Block
import Reachability.Yaml.Token.Flow
import Reachability.Yaml.Token.Name

/-!
# Cutting a text into tokens

A scalar or a collection in brackets may turn out to be a key, which only a later colon
tells: it must follow on the same line and within 1024 characters. Tokens therefore wait
in a queue as long as the first of them may become a key. Outside of brackets a token
that stands deeper than the collection around it opens a new one, and one that stands
less deep closes what it has left.

`Token.scan` gives the tokens of a text up to its end or up to the first fault.
-/
namespace Reachability.Yaml

/-- A place where a key may begin. -/
structure PossibleKey where
  /-- Whether nothing but a key may stand there. -/
  isRequired : Bool
  /-- The number of its first token. -/
  number : Nat
  mark : Mark
deriving DecidableEq, Inhabited

structure Lexer where
  cursor : Cursor
  /-- The tokens that wait, in order. -/
  queue : List Token := []
  /-- How many tokens have left the queue. -/
  released : Nat := 0
  /-- The possible key outside of all brackets and inside each open one, innermost first. -/
  keys : List (Option PossibleKey) := [none]
  /-- The column of the innermost block collection; negative outside of all. -/
  indent : Int := -1
  outerIndents : List Int := []
  /-- Whether a key may begin at the next token. -/
  isKeyAllowed : Bool := true
deriving Inhabited

namespace Lexer

def mark (l : Lexer) : Mark := l.cursor.mark

/-- Whether the text stands in brackets. -/
def isFlow (l : Lexer) : Bool := 1 < l.keys.length

/-- Appends a token to the queue. -/
def push (l : Lexer) (kind : TokenKind) (start finish : Mark) : Lexer :=
  { l with queue := l.queue ++ [⟨kind, start, finish⟩] }

/-- Puts a token before the one with a number. -/
def insert (l : Lexer) (number : Nat) (kind : TokenKind) (mark : Mark) : Lexer :=
  let position := number - l.released
  { l with queue := l.queue.take position ++ ⟨kind, mark, mark⟩ :: l.queue.drop position }

/-- Appends the token of an indicator of so many characters and steps over it. -/
def indicator (l : Lexer) (kind : TokenKind) (width : Nat := 1) : Lexer :=
  let after := l.cursor.skip width
  { l.push kind l.mark after.mark with cursor := after }

/-- A key that is required but cannot be one any more. -/
def missingKey (l : Lexer) (key : PossibleKey) : Error :=
  .malformed .noKeyIndicator l.mark (some (.simpleKey, key.mark))

/-- Whether a key can no longer follow. -/
def isStale (l : Lexer) (key : PossibleKey) : Bool :=
  key.mark.line < l.mark.line || key.mark.index + 1024 < l.mark.index

/-- The keys that are still possible, given outermost first. -/
def freshKeys (l : Lexer) : List (Option PossibleKey) → Except Error (List (Option PossibleKey))
  | [] => .ok []
  | key :: keys => do
    let key ← match key with
      | none => .ok none
      | some k =>
        if !l.isStale k then .ok (some k)
        else if k.isRequired then .error (l.missingKey k)
        else .ok none
    return key :: (← freshKeys l keys)

/-- Drops the keys that are not possible any more. -/
def dropStale (l : Lexer) : Except Error Lexer := do
  let keys ← l.freshKeys l.keys.reverse
  return { l with keys := keys.reverse }

/-- Drops the innermost possible key. -/
def dropKey (l : Lexer) : Except Error Lexer :=
  match l.keys with
  | some key :: keys =>
    if key.isRequired then .error (l.missingKey key) else .ok { l with keys := none :: keys }
  | _ => .ok l

/-- Notes that a key may begin here, if one is allowed. -/
def saveKey (l : Lexer) : Except Error Lexer := do
  if !l.isKeyAllowed then return l
  let l ← l.dropKey
  let key : PossibleKey :=
    { isRequired := !l.isFlow && l.indent == l.mark.column
      number := l.released + l.queue.length
      mark := l.mark }
  return { l with keys := some key :: l.keys.drop 1 }

/-- Opens a block collection at a column that is deeper than the one around it. -/
def openBlock (l : Lexer) (column : Nat) (number : Option Nat) (kind : TokenKind) (mark : Mark) :
    Lexer :=
  if l.isFlow || (column : Int) ≤ l.indent then l
  else
    let l := { l with outerIndents := l.indent :: l.outerIndents, indent := column }
    match number with
    | none => l.push kind mark mark
    | some number => l.insert number kind mark

/-- Closes the block collections that are deeper than a column. -/
def close (l : Lexer) (column : Int) : Lexer :=
  if l.isFlow then l else go l.outerIndents l
where
  go : List Int → Lexer → Lexer
  | [], l => l
  | outer :: more, l =>
    if column < l.indent then
      go more { l.push .blockEnd l.mark l.mark with indent := outer, outerIndents := more }
    else l

/-- Steps over blanks, comments and line breaks. A tab is a blank only where no key may begin.
A line may begin with a byte order mark. -/
def skipToToken : (fuel : Nat) → Lexer → Lexer
  | 0, l => l
  | fuel + 1, l =>
    let c := l.cursor
    let c := if c.mark.column == 0 && c.isAt '\ufeff' then c.skip else c
    let c := c.skipWhile fun x => x == ' ' || (x == '\t' && (l.isFlow || !l.isKeyAllowed))
    let c := if c.isAt '#' then c.skipLine else c
    match c.takeBreak? with
    | none => { l with cursor := c }
    | some (_, c) =>
      skipToToken fuel { l with cursor := c, isKeyAllowed := l.isKeyAllowed || !l.isFlow }

/-- Appends a token that a reader takes from the text. -/
def pushRead (l : Lexer) : Token × Cursor → Lexer
  | (token, cursor) => { l with queue := l.queue ++ [token], cursor }

/-- Takes the end of the text. -/
def streamEnd (l : Lexer) : Except Error Lexer := do
  let mark := if l.mark.column == 0 then l.mark else { l.mark with line := l.mark.line + 1, column := 0 }
  let l := { l with cursor := { l.cursor with mark } }
  let l ← (l.close (-1)).dropKey
  return { l with isKeyAllowed := false }.push .streamEnd mark mark

/-- Leaves all block collections. -/
def leaveBlocks (l : Lexer) : Except Error Lexer := do
  let l ← (l.close (-1)).dropKey
  return { l with isKeyAllowed := false }

/-- Takes an opening bracket. -/
def openBracket (l : Lexer) (kind : TokenKind) : Except Error Lexer := do
  let l ← l.saveKey
  return { l with keys := none :: l.keys, isKeyAllowed := true }.indicator kind

/-- Takes a closing bracket. -/
def closeBracket (l : Lexer) (kind : TokenKind) : Except Error Lexer := do
  let l ← l.dropKey
  let keys := if l.isFlow then l.keys.drop 1 else l.keys
  return { l with keys, isKeyAllowed := false }.indicator kind

/-- Takes a comma in brackets. -/
def flowEntry (l : Lexer) : Except Error Lexer := do
  let l ← l.dropKey
  return { l with isKeyAllowed := true }.indicator .flowEntry

/-- A fault that names no activity. -/
def notAllowed (l : Lexer) (problem : Problem) : Error := .malformed problem l.mark none

/-- Takes a dash. -/
def blockEntry (l : Lexer) : Except Error Lexer := do
  if !l.isFlow && !l.isKeyAllowed then throw (l.notAllowed .sequenceEntryNotAllowed)
  let l ← (l.openBlock l.mark.column none .blockSequenceStart l.mark).dropKey
  return { l with isKeyAllowed := true }.indicator .blockEntry

/-- Takes a question mark. -/
def key (l : Lexer) : Except Error Lexer := do
  if !l.isFlow && !l.isKeyAllowed then throw (l.notAllowed .mappingKeyNotAllowed)
  let l ← (l.openBlock l.mark.column none .blockMappingStart l.mark).dropKey
  return { l with isKeyAllowed := !l.isFlow }.indicator .key

/-- Takes a colon, which makes a key of a possible one. -/
def value (l : Lexer) : Except Error Lexer := do
  match l.keys with
  | some k :: keys =>
    let l := l.insert k.number .key k.mark
    let l := l.openBlock k.mark.column (some k.number) .blockMappingStart k.mark
    return { l with keys := none :: keys, isKeyAllowed := false }.indicator .value
  | _ =>
    if !l.isFlow && !l.isKeyAllowed then throw (l.notAllowed .mappingValueNotAllowed)
    let l := l.openBlock l.mark.column none .blockMappingStart l.mark
    return { l with isKeyAllowed := !l.isFlow }.indicator .value

/-- Takes a token that may be a key or begin one. -/
def keyLike (l : Lexer) (read : Cursor → Except Error (Token × Cursor)) : Except Error Lexer := do
  let l ← l.saveKey
  return { l with isKeyAllowed := false }.pushRead (← read l.cursor)

/-- Takes a plain scalar. After one that ended on a later line a key may begin. -/
def plain (l : Lexer) : Except Error Lexer := do
  let l ← l.saveKey
  let (token, hasBreak, after) ← Token.plain l.isFlow (l.indent + 1).toNat l.cursor
  return { l with isKeyAllowed := hasBreak }.pushRead (token, after)

/-- Takes a block scalar. -/
def block (l : Lexer) (isLiteral : Bool) : Except Error Lexer := do
  let l ← l.dropKey
  return { l with isKeyAllowed := true }.pushRead (← Token.block isLiteral l.indent l.cursor)

/-- Whether a plain scalar may begin with a character. -/
def beginsPlain (l : Lexer) (x : Char) (next : Option Char) : Bool :=
  !(endsWord (some x) || "-?:,[]\x7b\x7d#&*!|>'\"%@\x60".toList.contains x) ||
    (x == '-' && !next.any isSpace) ||
    (!l.isFlow && (x == '?' || x == ':') && !endsWord next)

/-- Takes the token that begins with a character. -/
def take (l : Lexer) (x : Char) : Except Error Lexer :=
  let c := l.cursor
  let next := c.at? 1
  let isAlone := l.isFlow || endsWord next
  if c.mark.column == 0 && x == '%' then do
    let l ← l.leaveBlocks
    return l.pushRead (← Token.directive l.cursor)
  else if c.isLineOf '-' then do return (← l.leaveBlocks).indicator .documentStart 3
  else if c.isLineOf '.' then do return (← l.leaveBlocks).indicator .documentEnd 3
  else if x == '[' then l.openBracket .flowSequenceStart
  else if x == '\x7b' then l.openBracket .flowMappingStart
  else if x == ']' then l.closeBracket .flowSequenceEnd
  else if x == '\x7d' then l.closeBracket .flowMappingEnd
  else if x == ',' then l.flowEntry
  else if x == '-' && endsWord next then l.blockEntry
  else if x == '?' && isAlone then l.key
  else if x == ':' && isAlone then l.value
  else if x == '*' then l.keyLike (Token.anchor true)
  else if x == '&' then l.keyLike (Token.anchor false)
  else if x == '!' then l.keyLike (Token.tag l.isFlow)
  else if x == '|' && !l.isFlow then l.block true
  else if x == '>' && !l.isFlow then l.block false
  else if x == '\'' then l.keyLike (Token.quoted true)
  else if x == '"' then l.keyLike (Token.quoted false)
  else if l.beginsPlain x next then l.plain
  else .error (.malformed .badToken l.mark (some (.token, l.mark)))

/-- Takes the next token, with those that its place opens or closes. -/
def step (l : Lexer) : Except Error Lexer := do
  let l ← (l.skipToToken (l.cursor.rest.length + 1)).dropStale
  let l := l.close l.mark.column
  match l.cursor.head? with
  | none => l.streamEnd
  | some x => l.take x

/-- Whether the first token of the queue may become a key. -/
def isWaiting (l : Lexer) : Bool :=
  l.keys.any fun key => key.any (·.number == l.released)

/-- Lets go of the tokens that will not become keys. -/
def release (l : Lexer) : List Token × Lexer :=
  go l.queue l
where
  go : List Token → Lexer → List Token × Lexer
  | [], l => ([], { l with queue := [] })
  | token :: queue, l =>
    if l.isWaiting then ([], { l with queue := token :: queue })
    else
      let (tokens, l) := go queue { l with released := l.released + 1 }
      (token :: tokens, l)

/-- The tokens up to the end of the text, or up to a fault. -/
def run : (fuel : Nat) → Lexer → List Token × Option Error
  | 0, _ => ([], none)
  | fuel + 1, l =>
    match l.step >>= dropStale with
    | .error e => ([], some e)
    | .ok l =>
      let (tokens, l) := l.release
      if tokens.any (·.kind == .streamEnd) then (tokens, none)
      else
        let (more, fault) := run fuel l
        (tokens ++ more, fault)

end Lexer

/-- The tokens of a text, as many of them as are certain before the first fault. -/
def Token.scan (text : List Char) : List Token × Option Error :=
  Lexer.run (text.length + 2) { cursor := { rest := text } }

end Reachability.Yaml
