import Reachability.Yaml.Document
import Reachability.Yaml.Resolution

/-!
# Reading values from a document

A reader takes one node from the front of a list of nodes, together with everything
inside it. An alias is read where its anchor stands, and messages name that place. A record is
a mapping with known keys, all of which may be missing; other keys are skipped with their
values.
-/
namespace Reachability.Yaml

/-- Reads one node. The path leads to it and is empty for the whole document. -/
abbrev Reader (α : Type) := Document → (path : String) → List Node → Except Error (α × List Node)

namespace Reader

/-- The first node, and those after it. -/
def next (d : Document) : List Node → Except Error (Node × List Node)
  | node :: nodes => .ok (node, nodes)
  | [] => .error (d.fault.getD .endOfStream)

/-- A node that is no alias. -/
structure Resolved where
  node : Node
  /-- The nodes after it. -/
  inside : List Node
  /-- The nodes after the alias, if it was reached through one. -/
  afterAlias : Option (List Node) := none

/-- The nodes after a resolved node that has nothing inside. -/
def Resolved.after (r : Resolved) : List Node := r.afterAlias.getD r.inside

/-- The first node, or the one that it stands for. -/
def resolve (d : Document) (nodes : List Node) : Except Error Resolved := do
  let (node, rest) ← next d nodes
  match node.kind with
  | .alias number =>
    let (node, inside) ← next d (d.target number)
    return { node, inside, afterAlias := rest }
  | _ => return { node, inside := rest }

def unexpected (path : String) (mismatch : Mismatch) (node : Node) : Except Error α :=
  .error (.unexpected path mismatch node.mark)

/-- How a node differs from one of the kind that was expected. -/
def mismatch (expected : String) : NodeKind → Mismatch
  | .scalar s => s.meaning.mismatch expected
  | .mappingStart | .mappingEnd => .type "map" expected
  | .sequenceStart | .sequenceEnd | .alias _ => .type "sequence" expected

/-- Reads a scalar of any kind as a text. -/
def scalarText (expected : String) (parse : String → Except String α) : Reader α :=
  fun d path nodes => do
    let r ← resolve d nodes
    match r.node.kind with
    | .scalar s =>
      match parse s.text with
      | .ok a => return (a, r.after)
      | .error reason => unexpected path (.rejected reason) r.node
    | kind => unexpected path (mismatch expected kind) r.node

/-- Reads a text. -/
def text : Reader String := scalarText "a string" .ok

/-- Whether a scalar may be read as an integer: it is plain, or a literal with that tag. -/
def mayBeInteger (s : Scalar) : Bool :=
  s.style == .plain || (s.style == .literal && s.tag == some (Resolution.coreTag "int"))

/-- Reads an integer of 64 bits without a sign. -/
def natural : Reader Nat := fun d path nodes => do
  let r ← resolve d nodes
  let found := match r.node.kind with
    | .scalar s => if mayBeInteger s then Resolution.natural? s.text.toList else none
    | _ => none
  match found.filter (· < UInt64.size) with
  | some n => return (n, r.after)
  | none => unexpected path (mismatch "u64" r.node.kind) r.node

/-- Steps over the nodes inside so many collections and over their ends; with none, over one
node. -/
def skip (d : Document) (depth : Nat) : List Node → Except Error (List Node)
  | [] => .error (d.fault.getD .endOfStream)
  | node :: nodes =>
    let depth := match node.kind with
      | .alias _ | .scalar _ => depth
      | .sequenceStart | .mappingStart => depth + 1
      | .sequenceEnd | .mappingEnd => depth - 1
    if depth = 0 then .ok nodes else skip d depth nodes

/-- Reads the elements of a sequence and its end. -/
def elements (element : Reader α) (d : Document) (path : String) :
    (fuel index : Nat) → List Node → Except Error (List α × List Node)
  | 0, _, nodes => .ok ([], nodes)
  | fuel + 1, index, nodes => do
    let (node, rest) ← next d nodes
    if node.kind == .sequenceEnd then return ([], rest)
    let (a, rest) ← element d (path ++ "[" ++ Decimal.text index ++ "]") nodes
    let (more, rest) ← elements element d path fuel (index + 1) rest
    return (a :: more, rest)

/-- Reads a sequence; where nothing is written, an empty one. -/
def sequence (element : Reader α) : Reader (List α) := fun d path nodes => do
  let r ← resolve d nodes
  match r.node.kind with
  | .sequenceStart =>
    let (items, rest) ← elements element d path (r.inside.length + 1) 0 r.inside
    return (items, r.afterAlias.getD rest)
  | .scalar s =>
    if s.isAbsent then return ([], r.after)
    else unexpected path (mismatch "a sequence" r.node.kind) r.node
  | kind => unexpected path (mismatch "a sequence" kind) r.node

/-- A known key of a record and what its value changes. -/
structure Field (ρ : Type) where
  name : String
  read : Reader (ρ → ρ)

/-- A reader whose value changes a record. -/
def into (r : Reader α) (set : α → ρ → ρ) : Reader (ρ → ρ) := fun d path nodes => do
  let (a, rest) ← r d path nodes
  return (set a, rest)

/-- The path to the value of a key, which is not named when it is an alias. -/
def memberPath (path : String) : NodeKind → String
  | .scalar s => if path.isEmpty then s.text else path ++ "." ++ s.text
  | _ => if path.isEmpty then "?" else path ++ ".?"

/-- Reads the keys and values of a mapping that starts at `start`, and its end. -/
def members (fields : List (Field ρ)) (d : Document) (path : String) (start : Node) :
    (fuel : Nat) → (seen : List String) → ρ → List Node → Except Error (ρ × List Node)
  | 0, _, r, nodes => .ok (r, nodes)
  | fuel + 1, seen, r, nodes => do
    let (node, rest) ← next d nodes
    if node.kind == .mappingEnd then return (r, rest)
    let (name, rest) ← scalarText "field identifier" .ok d path nodes
    match fields.find? (·.name == name) with
    | none =>
      let rest ← skip d 0 rest
      members fields d path start fuel seen r rest
    | some field =>
      if seen.contains name then unexpected path (.duplicate name) start
      else
        let (set, rest) ← field.read d (memberPath path node.kind) rest
        members fields d path start fuel (name :: seen) (set r) rest

/-- Reads a whole document as a record, with defaults where there is none. -/
def record (expected : String) (fields : List (Field ρ)) (defaults : ρ) (d : Document) :
    Except Error ρ := do
  let value ← match d.nodes, d.fault with
    | [], none => pure defaults
    | [], some fault => throw fault
    | node :: nodes, _ =>
      match node.kind with
      | .mappingStart =>
        let (r, _) ← members fields d "" node (nodes.length + 1) [] defaults nodes
        pure r
      | .scalar s =>
        if s.isAbsent then pure defaults
        else unexpected "" (mismatch expected node.kind) node
      | kind => unexpected "" (mismatch expected kind) node
  match d.fault with
  | some fault => throw fault
  | none => if d.isOnly then return value else throw .severalDocuments

end Reader

end Reachability.Yaml
