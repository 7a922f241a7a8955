import SceneScript.Yaml.Node
import SceneScript.Yaml.Scalar

/-! # YAML documents

The nodes of a document become values from the outside in, each collection after all that stand less
deep. What a mapping takes over from others is settled when its turn comes.

* `Part` — what a node has become;
* `Builder` — the nodes with what they have become so far;
* `Graph.toDatum` — the value of a document;
* `Yaml.parse` — a whole document; an empty one holds null.
-/

namespace SceneScript.Yaml

abbrev Entries := List (NodeId × NodeId)

/-- A scalar with the node that it comes from; what is written with the word for no number comes
from no node of its own. -/
structure Leaf where
  value : Scalar
  origin : Option NodeId

/-- What a node has become; a collection knows its parts by their nodes. -/
inductive Part where
  | leaf (leaf : Leaf)
  | list (items : List NodeId)
  | mapping (entries : List (Leaf × NodeId))
  | set (members : List Leaf)
  | pairs (entries : Entries)

namespace Leaf

def isNaN (leaf : Leaf) : Bool :=
  match leaf.value with
  | .float x => x.isNaN
  | _ => false

/-- What is not a number is the same key only where it comes from the same node. -/
def sameKey (a b : Leaf) : Bool :=
  a.value.sameKey b.value || (a.isNaN && b.isNaN && a.origin = b.origin)

/-- Writes a key: one that is present stays as it is. -/
def putIn (key : Leaf) (value : NodeId) : List (Leaf × NodeId) → List (Leaf × NodeId)
  | [] => [(key, value)]
  | (k, v) :: rest =>
    if k.sameKey key then (k, value) :: rest else (k, v) :: putIn key value rest

end Leaf

/-! ## Building -/

structure Building where
  nodes : Array Node
  /-- What nodes have become, a collection at first without its parts. -/
  parts : Array (Option Part)
  /-- The collections whose parts are not known, the latest first. -/
  waiting : List NodeId := []

abbrev Builder := StateT Building (Except Fault)

namespace Builder

def nodeAt (id : NodeId) : Builder Node := do orMalformed (← get).nodes[id]?

def tagIs (tag : Tag) (id : NodeId) : Builder Bool := return (← nodeAt id).tag = tag

def setPart (id : NodeId) (part : Part) : Builder Unit :=
  modify fun b => { b with parts := b.parts.setIfInBounds id (some part) }

def changeNode (id : NodeId) (change : Node → Node) : Builder Unit :=
  modify fun b => { b with nodes := b.nodes.modify id change }

/-- The text of a node; a mapping has that of the first entry whose key is an equals sign. -/
def textAt : Nat → NodeId → Builder Text
  | 0, _ => throw .tooDeep
  | fuel + 1, id => do
    match (← nodeAt id).content with
    | .scalar text => return text
    | .sequence _ => throw .malformed
    | .mapping entries =>
      match ← entries.findM? fun (key, _) => tagIs .value key with
      | some (_, value) => textAt fuel value
      | none => throw .malformed

def leafAt (id : NodeId) (node : Node) : Builder Leaf := do
  let text ← textAt ((← get).nodes.size + 1) id
  match node.tag, node.content with
  | .moment, .mapping _ => throw .momentOfMapping
  | _, _ =>
    let value ← scalarOf node.tag text
    let isShared := node.tag = .float && isWrittenNaN text
    return { value, origin := if isShared then none else some id }

/-- What a node becomes; the parts of a collection have to wait. -/
def build (id : NodeId) : Builder Part := do
  if let some part := ((← get).parts[id]?).join then return part
  let collect (part : Part) : Builder Part := do
    modify fun b => { b with waiting := id :: b.waiting }
    return part
  let node ← nodeAt id
  let part ←
    match node.tag with
    | .sequence => collect (.list [])
    | .mapping => collect (.mapping [])
    | .set => collect (.set [])
    | .pairs => collect (.pairs [])
    | .merge | .value | .other => throw .malformed
    | _ => Part.leaf <$> leafAt id node
  setPart id part
  return part

/-! ## Mappings -/

def entriesAt (id : NodeId) : Builder Entries := do
  match (← nodeAt id).content with
  | .mapping entries => return entries
  | _ => throw .malformed

def setEntries (id : NodeId) (entries : Entries) : Builder Unit :=
  changeNode id fun node => { node with content := .mapping entries }

/-- Puts the entries of other mappings, those found so far first, in front of those of a mapping
that takes them over. The first mapping of a sequence counts most. -/
def flatten : Nat → NodeId → Entries → Builder Unit
  | 0, _, _ => throw .tooDeep
  | fuel + 1, id, merged => do
    let entries ← entriesAt id
    match ← entries.findM? fun (key, _) => tagIs .merge key with
    | none =>
      for (key, _) in entries do
        if ← tagIs .value key then changeNode key fun node => { node with tag := .text }
      setEntries id (merged ++ entries)
    | some (mark, source) =>
      setEntries id (entries.erase (mark, source))
      let taken (source : NodeId) : Builder Entries := do
        flatten fuel source []
        entriesAt source
      match (← nodeAt source).content with
      | .scalar _ => throw .malformed
      | .mapping _ => flatten fuel id (merged ++ (← taken source))
      | .sequence sources =>
        flatten fuel id (merged ++ (← sources.mapM taken).reverse.flatten)

/-- Every step of flattening but the last for each mapping takes an entry away. -/
def flattenFuel (nodes : Array Node) : Nat :=
  nodes.foldl (fun count node =>
    match node.content with
    | .mapping entries => count + entries.length
    | _ => count) 1

/-- A key is a scalar. -/
def keyAt (id : NodeId) : Builder Leaf := do
  match ← build id with
  | .leaf leaf => return leaf
  | _ => throw .malformed

/-- Later entries replace earlier ones with the same key. -/
def mappingAt (id : NodeId) : Builder (List (Leaf × NodeId)) := do
  flatten (flattenFuel (← get).nodes) id []
  (← entriesAt id).foldlM
    (fun found (key, value) => do
      let key ← keyAt key
      let _ ← build value
      return key.putIn value found)
    []

/-! ## Collections -/

/-- The only entry of a mapping. -/
def pairAt (id : NodeId) : Builder (NodeId × NodeId) := do
  match ← entriesAt id with
  | [(key, value)] =>
    let _ ← build key
    let _ ← build value
    return (key, value)
  | _ => throw .malformed

/-- Finds the parts of a collection. -/
def complete (id : NodeId) : Builder Unit := do
  let node ← nodeAt id
  let part ←
    match node.tag, node.content with
    | .sequence, .sequence items =>
      for item in items do
        let _ ← build item
      pure (Part.list items)
    | .mapping, .mapping _ => Part.mapping <$> mappingAt id
    | .set, .mapping _ => (fun entries => Part.set (entries.map (·.1))) <$> mappingAt id
    | .pairs, .sequence items => Part.pairs <$> items.mapM pairAt
    | _, _ => throw .malformed
  setPart id part

/-- All collections that wait, and then those that wait after them. -/
def completeAll : Nat → Builder Unit
  | 0 => throw .tooDeep
  | fuel + 1 => do
    match (← get).waiting with
    | [] => return
    | waiting =>
      modify fun b => { b with waiting := [] }
      for id in waiting.reverse do complete id
      completeAll fuel

end Builder

/-- What the nodes become. -/
def Graph.parts (graph : Graph) : Except Fault (Array (Option Part)) := do
  let size := graph.nodes.size
  let build : Builder Unit := do
    let _ ← Builder.build graph.root
    Builder.completeAll (size + 1)
  let start : Building := { nodes := graph.nodes, parts := Array.replicate size none }
  let (_, building) ← build.run start
  return building.parts

/-! ## Values -/

/-- The values of nodes that do not depend on what stands around them. -/
abbrev Settled := Array (Option Datum)

/-- A collection inside itself is a pair, a list or a mapping. -/
def Part.isMapping : Part → Bool
  | .mapping _ => true
  | _ => false

/-- The value of a node inside others, and those of them that it holds again. -/
def valueAt (parts : Array (Option Part)) :
    Nat → List NodeId → NodeId → StateM Settled (Datum × List NodeId)
  | 0, _, _ => return (.null, [])
  | fuel + 1, around, id => do
    if let some datum := ((← get)[id]?).join then return (datum, [])
    let valueOf := valueAt parts fuel (id :: around)
    let valuesOf (ids : List NodeId) : StateM Settled (List Datum × List NodeId) := do
      let found ← ids.mapM valueOf
      return (found.map (·.1), (found.flatMap (·.2)).eraseDups)
    let some part := (parts[id]?).join | return (.null, [])
    if around.contains id then return (.again part.isMapping, [id])
    let (datum, held) ←
      match part with
      | .leaf leaf => pure (.scalar leaf.value, [])
      | .set members => pure (.set (members.map (·.value)), [])
      | .list items => do
        let (items, held) ← valuesOf items
        pure (.list items, held)
      | .mapping entries => do
        let (values, held) ← valuesOf (entries.map (·.2))
        pure (.mapping ((entries.map (·.1.value)).zip values), held)
      | .pairs entries => do
        let (keys, heldInKeys) ← valuesOf (entries.map (·.1))
        let (values, heldInValues) ← valuesOf (entries.map (·.2))
        let pairs := (keys.zip values).map fun (key, value) => Datum.tuple [key, value]
        pure (.list pairs, heldInKeys ++ heldInValues)
    let held := held.filter (· ≠ id)
    if held = [] then modify fun settled => settled.setIfInBounds id (some datum)
    return (datum, held)

def Graph.toDatum (graph : Graph) : Except Fault Datum := do
  let parts ← graph.parts
  let size := graph.nodes.size
  return ((valueAt parts (size + 1) [] graph.root).run (Array.replicate size none)).1.1

def parse (document : Text) : Except Fault Datum := do
  let (tokens, fault) := Token.scan document
  match ← Graph.read tokens fault with
  | none => return .null
  | some graph => graph.toDatum

end SceneScript.Yaml
