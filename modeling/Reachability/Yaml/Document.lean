import Reachability.Text.Utf8
import Reachability.Yaml.Event

/-!
# Documents

A text holds one document or several; only the first is read, and whether it is the only
one. An alias stands for the node whose anchor has its number. The number of an anchor
counts the different names before it, so an anchor that takes a name for the second time
shares its number with the next new name, and of two with one number the later one counts.
-/
namespace Reachability.Yaml

inductive NodeKind
  /-- The node of an anchor with this number. -/
  | alias (number : Nat)
  | scalar (value : Scalar)
  | sequenceStart
  | sequenceEnd
  | mappingStart
  | mappingEnd
deriving DecidableEq, Inhabited

/-- A scalar or alias, or the start or the end of a collection. -/
structure Node where
  kind : NodeKind
  mark : Mark
deriving DecidableEq, Inhabited

structure Document where
  nodes : List Node := []
  /-- The numbers of anchors with the nodes from theirs on, last first. -/
  anchors : List (Nat × List Node) := []
  /-- Why the document ends before its end, if it does. -/
  fault : Option Error := none
  /-- Whether there is no other document. -/
  isOnly : Bool := true
deriving Inhabited

namespace Build

/-- A directive that has a fault of its own. -/
def failAt (problem : Problem) (token : Token) : Build α :=
  throw (.malformed problem token.start none)

/-- What tag handles stand for when a document does not say it. -/
def defaultHandles : List (String × String) := [("!", "!"), ("!!", "tag:yaml.org,2002:")]

/-- Reads the directives before a document. -/
def directives (hasVersion : Bool) : (fuel : Nat) → Build Unit
  | 0 => return
  | fuel + 1 => do
    let token ← peek
    match token.kind with
    | .versionDirective major minor =>
      if hasVersion then failAt .duplicateVersion token
      if major != 1 || !(minor == 1 || minor == 2) then failAt .incompatibleVersion token
      skip
      directives true fuel
    | .tagDirective handle tagPrefix =>
      if ((← get).handles.lookup handle).isSome then failAt .duplicateHandle token
      modify fun b => { b with handles := b.handles ++ [(handle, tagPrefix)] }
      skip
      directives hasVersion fuel
    | _ => return

/-- Reads the content of a document behind its start mark. -/
def content (fuel : Nat) : Build Unit := do
  let token ← peek
  match token.kind with
  | .versionDirective .. | .tagDirective .. | .documentStart | .documentEnd | .streamEnd =>
    emitAbsent token.start
  | _ => node true false fuel

/-- Reads the first document up to its end mark, if it has one. -/
def document (fuel : Nat) : Build Unit := do
  let addDefaults : Build Unit :=
    modify fun b => { b with handles := b.handles ++ defaultHandles }
  let first ← peek
  match first.kind with
  | .streamEnd => return
  | .versionDirective .. | .tagDirective .. | .documentStart =>
    directives false fuel
    addDefaults
    let token ← peek
    if token.kind != .documentStart then failAt .noDocumentStart token
    skip
    content fuel
  | _ =>
    addDefaults
    node true false fuel
  let token ← peek
  if token.kind == .documentEnd then skip

end Build

namespace Document

/-- The number of each name that has been used for an anchor, and how many names there are. -/
abbrev Names := List (String × Nat)

/-- The names after one more anchor, which gets the number of names before it. -/
def addName (names : Names) (name : String) : Names :=
  let count := (names.map (·.1)).eraseDups.length
  (name, count) :: names

/-- What can become of an event: a node, with the number of its anchor. -/
def nodeKind (names : Names) (mark : Mark) :
    EventKind → Except Error (NodeKind × Option String)
  | .alias name =>
    match names.lookup name with
    | some number => .ok (.alias number, none)
    | none => .error (.unknownAnchor mark)
  | .scalar anchor value => .ok (.scalar value, anchor)
  | .sequenceStart anchor => .ok (.sequenceStart, anchor)
  | .sequenceEnd => .ok (.sequenceEnd, none)
  | .mappingStart anchor => .ok (.mappingStart, anchor)
  | .mappingEnd => .ok (.mappingEnd, none)

/-- The nodes of a list of events up to the first alias without an anchor, and the numbers of
the anchors with the nodes from theirs on, first to last. -/
def ofEvents (names : Names) :
    List Event → List Node × List (Nat × List Node) × Option Error
  | [] => ([], [], none)
  | ⟨kind, mark⟩ :: events =>
    match nodeKind names mark kind with
    | .error e => ([], [], some e)
    | .ok (kind, none) =>
      let (nodes, anchors, fault) := ofEvents names events
      (⟨kind, mark⟩ :: nodes, anchors, fault)
    | .ok (kind, some name) =>
      let names := addName names name
      let (nodes, anchors, fault) := ofEvents names events
      let nodes := ⟨kind, mark⟩ :: nodes
      let number := (names.lookup name).getD 0
      (nodes, (number, nodes) :: anchors, fault)

/-- Whether the tokens behind a document hold no other one. -/
def isLastBefore (tokens : List Token) (fault : Option Error) : Bool :=
  match tokens.dropWhile (·.kind == .documentEnd) with
  | token :: _ => token.kind == .streamEnd
  | [] => fault.isNone

/-- The first document of a text without a byte order mark. -/
def ofChars (text : List Char) : Document :=
  let (tokens, fault) := Token.scan text
  let (result, b) := (Build.document (4 * tokens.length + 8)).run.run { tokens, fault }
  let (nodes, anchors, unknown) := ofEvents [] b.events.reverse
  let stopped := match result with
    | .ok () => none
    | .error e => some e
  { nodes, anchors := anchors.reverse
    fault := unknown.orElse fun _ => stopped
    isOnly := isLastBefore b.tokens b.fault }

/-- Whether a document may hold a character. -/
def mayHold (c : Char) : Bool :=
  let n := c.toNat
  n == 0x09 || n == 0x0A || n == 0x0D || (0x20 ≤ n && n ≤ 0x7E) || n == 0x85 ||
    (0xA0 ≤ n && n ≤ 0xFFFD) || 0x10000 ≤ n

/-- How many bytes stand before the first character that no document may hold. -/
def badOffset? (offset : Nat) : List Char → Option Nat
  | [] => none
  | c :: cs => if mayHold c then badOffset? (offset + c.utf8Size) cs else some offset

/-- The first document of a text. -/
def ofText (text : String) : Document :=
  let chars := text.toList
  match badOffset? 0 chars with
  | some offset => { fault := some (.controlCharacter offset) }
  | none =>
    match chars with
    | '\ufeff' :: chars => ofChars chars
    | _ => ofChars chars

/-- The nodes from that of an anchor on. -/
def target (d : Document) (number : Nat) : List Node := (d.anchors.lookup number).getD []

end Document

end Reachability.Yaml
