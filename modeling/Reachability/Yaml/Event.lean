import Reachability.Yaml.Token.Lexer

/-!
# Events

The grammar of documents turns tokens into events: scalars, aliases, and the starts and
ends of collections. Values and keys that are left out become empty plain scalars. The
events before a fault are kept, since whoever reads them may find something else to say
before it comes to the fault.
-/
namespace Reachability.Yaml

inductive EventKind
  | alias (name : String)
  | scalar (anchor : Option String) (value : Scalar)
  | sequenceStart (anchor : Option String)
  | sequenceEnd
  | mappingStart (anchor : Option String)
  | mappingEnd
deriving DecidableEq, Inhabited

structure Event where
  kind : EventKind
  mark : Mark
deriving DecidableEq, Inhabited

/-- What is left to read and what has been read. -/
structure Builder where
  tokens : List Token
  /-- Why there are no more tokens than these. -/
  fault : Option Error
  /-- The events, last first. -/
  events : List Event := []
  /-- What tag handles stand for. -/
  handles : List (String × String) := []

/-- A part of the grammar: takes tokens and adds events, also when it fails. -/
abbrev Build (α : Type) := ExceptT Error (StateM Builder) α

namespace Build

/-- The next token. -/
def peek : Build Token := do
  let b ← get
  match b.tokens with
  | token :: _ => return token
  | [] => throw (b.fault.getD .endOfStream)

/-- Steps over the next token. -/
def skip : Build Unit := modify fun b => { b with tokens := b.tokens.drop 1 }

/-- The token after the next one, which becomes the next. -/
def second : Build Token := do
  skip
  peek

def emit (kind : EventKind) (mark : Mark) : Build Unit :=
  modify fun b => { b with events := ⟨kind, mark⟩ :: b.events }

/-- Adds an empty scalar. -/
def emitAbsent (mark : Mark) : Build Unit := emit (.scalar none .empty) mark

/-- A fault at a token, met in an activity that began elsewhere. -/
def fail (problem : Problem) (token : Token) (activity : Activity) (start : Mark) : Build α :=
  throw (.malformed problem token.start (some (activity, start)))

/-- Anchor and tag of a node. -/
structure Properties where
  anchor : Option String := none
  /-- Handle and suffix of the tag with the place where it stands. -/
  tag : Option (String × String × Mark) := none

/-- Reads an anchor, a tag, or both in either order. -/
def properties : Build Properties := do
  let first ← peek
  match first.kind with
  | .anchor name =>
    let token ← second
    match token.kind with
    | .tag handle tagSuffix =>
      skip
      return { anchor := name, tag := some (handle, tagSuffix, token.start) }
    | _ => return { anchor := name }
  | .tag handle tagSuffix =>
    let token ← second
    match token.kind with
    | .anchor name =>
      skip
      return { anchor := name, tag := some (handle, tagSuffix, first.start) }
    | _ => return { tag := some (handle, tagSuffix, first.start) }
  | _ => return {}

/-- The whole tag of a node that starts at a place. -/
def wholeTag (start : Mark) : Option (String × String × Mark) → Build (Option String)
  | none => return none
  | some (handle, tagSuffix, mark) => do
    if handle.isEmpty then return some tagSuffix
    match (← get).handles.lookup handle with
    | some tagPrefix => return some (tagPrefix ++ tagSuffix)
    | none => throw (.malformed .undefinedHandle mark (some (.node, start)))

/-- A scalar with its tag, which `!` leaves out. -/
def taggedScalar (tag : Option String) (style : Style) (text : String) : Scalar :=
  { tag := tag.filter (· != "!"), style, text }

mutual

/-- Reads a node. Outside of brackets it may be a block collection, and as a value of a mapping
a sequence without an indentation of its own. -/
def node (isBlock mayBeIndentless : Bool) : (fuel : Nat) → Build Unit
  | 0 => return
  | fuel + 1 => do
    let first ← peek
    if let .alias name := first.kind then
      skip
      emit (.alias name) first.start
      return
    let p ← properties
    let tag ← wholeTag first.start p.tag
    let token ← peek
    match token.kind with
    | .blockEntry =>
      if mayBeIndentless then
        emit (.sequenceStart p.anchor) first.start
        indentlessSequence fuel
      else absent isBlock p tag first token
    | .scalar style text =>
      skip
      emit (.scalar p.anchor (taggedScalar tag style text)) first.start
    | .flowSequenceStart =>
      skip
      emit (.sequenceStart p.anchor) first.start
      flowSequence token.start true fuel
    | .flowMappingStart =>
      skip
      emit (.mappingStart p.anchor) first.start
      flowMapping token.start true fuel
    | .blockSequenceStart =>
      if isBlock then
        skip
        emit (.sequenceStart p.anchor) first.start
        blockSequence token.start fuel
      else absent isBlock p tag first token
    | .blockMappingStart =>
      if isBlock then
        skip
        emit (.mappingStart p.anchor) first.start
        blockMapping token.start fuel
      else absent isBlock p tag first token
    | _ => absent isBlock p tag first token

/-- Takes anchor or tag alone for an empty scalar. -/
def absent (isBlock : Bool) (p : Properties) (tag : Option String) (first token : Token) :
    Build Unit :=
  if p.anchor.isSome || p.tag.isSome then
    emit (.scalar p.anchor (taggedScalar tag .plain "")) first.start
  else fail .noNodeContent token (if isBlock then .blockNode else .flowNode) first.start

/-- Reads the entries of a block sequence and its end. -/
def blockSequence (start : Mark) : (fuel : Nat) → Build Unit
  | 0 => return
  | fuel + 1 => do
    let token ← peek
    match token.kind with
    | .blockEntry =>
      match (← second).kind with
      | .blockEntry | .blockEnd => emitAbsent token.finish
      | _ => node true false fuel
      blockSequence start fuel
    | .blockEnd =>
      skip
      emit .sequenceEnd token.start
    | _ => fail .noEntryIndicator token .blockCollection start

/-- Reads the entries of a sequence that shares the indentation of the mapping around it. -/
def indentlessSequence : (fuel : Nat) → Build Unit
  | 0 => return
  | fuel + 1 => do
    let token ← peek
    match token.kind with
    | .blockEntry =>
      match (← second).kind with
      | .blockEntry | .key | .value | .blockEnd => emitAbsent token.finish
      | _ => node true false fuel
      indentlessSequence fuel
    | _ => emit .sequenceEnd token.start

/-- Reads the keys and values of a block mapping and its end. -/
def blockMapping (start : Mark) : (fuel : Nat) → Build Unit
  | 0 => return
  | fuel + 1 => do
    let token ← peek
    match token.kind with
    | .key =>
      match (← second).kind with
      | .key | .value | .blockEnd => emitAbsent token.finish
      | _ => node true true fuel
      let token ← peek
      match token.kind with
      | .value =>
        match (← second).kind with
        | .key | .value | .blockEnd => emitAbsent token.finish
        | _ => node true true fuel
      | _ => emitAbsent token.start
      blockMapping start fuel
    | .blockEnd =>
      skip
      emit .mappingEnd token.start
    | _ => fail .noKey token .blockMapping start

/-- Reads the entries of a sequence in brackets and its end. -/
def flowSequence (start : Mark) (isFirst : Bool) : (fuel : Nat) → Build Unit
  | 0 => return
  | fuel + 1 => do
    let token ← peek
    if token.kind == .flowSequenceEnd then
      skip
      emit .sequenceEnd token.start
      return
    let token ←
      if isFirst then pure token
      else if token.kind == .flowEntry then second
      else fail .noSequenceEnd token .flowSequence start
    match token.kind with
    | .flowSequenceEnd =>
      skip
      emit .sequenceEnd token.start
    | .key =>
      skip
      emit (.mappingStart none) token.start
      flowPair fuel
      flowSequence start false fuel
    | _ =>
      node false false fuel
      flowSequence start false fuel

/-- Reads a key and a value that make a mapping of their own in a sequence. -/
def flowPair : (fuel : Nat) → Build Unit
  | 0 => return
  | fuel + 1 => do
    let token ← peek
    match token.kind with
    | .value | .flowEntry | .flowSequenceEnd =>
      skip
      emitAbsent token.finish
    | _ => node false false fuel
    let token ← peek
    match token.kind with
    | .value =>
      let token ← second
      match token.kind with
      | .flowEntry | .flowSequenceEnd => emitAbsent token.start
      | _ => node false false fuel
    | _ => emitAbsent token.start
    emit .mappingEnd (← peek).start

/-- Reads the keys and values of a mapping in brackets and its end. -/
def flowMapping (start : Mark) (isFirst : Bool) : (fuel : Nat) → Build Unit
  | 0 => return
  | fuel + 1 => do
    let token ← peek
    if token.kind == .flowMappingEnd then
      skip
      emit .mappingEnd token.start
      return
    let token ←
      if isFirst then pure token
      else if token.kind == .flowEntry then second
      else fail .noMappingEnd token .flowMapping start
    match token.kind with
    | .flowMappingEnd =>
      skip
      emit .mappingEnd token.start
    | .key =>
      let token ← second
      match token.kind with
      | .value | .flowEntry | .flowMappingEnd => emitAbsent token.start
      | _ => node false false fuel
      let token ← peek
      match token.kind with
      | .value =>
        let token ← second
        match token.kind with
        | .flowEntry | .flowMappingEnd => emitAbsent token.start
        | _ => node false false fuel
      | _ => emitAbsent token.start
      flowMapping start false fuel
    | _ =>
      node false false fuel
      emitAbsent (← peek).start
      flowMapping start false fuel

end

end Build

end Reachability.Yaml
