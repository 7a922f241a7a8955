import SceneScript.Yaml.Tag

/-! # YAML nodes

A document is a graph of scalars, sequences and mappings, each with the tag that says what it stands
for. An alias leads to a node that stands elsewhere, perhaps around it.

* `NodeId`, `Node`, `Graph` — the nodes of a document;
* `Reader` — what is left of the tokens, and the nodes so far;
* `Graph.read` — the nodes of a document, if it has any.
-/

namespace SceneScript.Yaml

/-- Nodes are numbered in the order in which they start. -/
abbrev NodeId := Nat

inductive NodeContent where
  | scalar (text : Text)
  | sequence (items : List NodeId)
  | mapping (entries : List (NodeId × NodeId))
  deriving Repr, DecidableEq

structure Node where
  tag : Tag
  content : NodeContent
  deriving Repr, DecidableEq

structure Graph where
  nodes : Array Node
  root : NodeId

/-! ## Reading nodes -/

/-- The tokens that are left and what is wrong after them, what the handles of tags stand for, the
nodes, those that have anchors, and the number of nodes around the place that has been reached. -/
structure Reading where
  tokens : List Token
  fault : Option Fault := none
  handles : List (Text × Text) := []
  nodes : Array Node := #[]
  anchors : List (Text × NodeId) := []
  depth : Nat := 0

abbrev Reader := StateT Reading (Except Fault)

namespace Reader

def refuse {α : Type} : Reader α := throw .malformed

def peek : Reader (Option Token) := do
  let r ← get
  match r.tokens, r.fault with
  | [], some fault => throw fault
  | tokens, _ => return tokens.head?

def skip : Reader Unit := modify fun r => { r with tokens := r.tokens.tail }

def nextIs (tokens : List Token) : Reader Bool :=
  return (← peek).any tokens.contains

/-- Passes a token if it comes next. -/
def accept (token : Token) : Reader Bool := do
  if ← nextIs [token] then
    skip
    return true
  else return false

def expect (token : Token) : Reader Unit := do
  if !(← accept token) then refuse

def readAnchor : Reader (Option Text) := do
  match ← peek with
  | some (.anchor name) => skip; return some name
  | _ => return none

def expand (spelling : TagSpelling) : Reader Text := do
  match spelling.handle with
  | none => return spelling.suffix
  | some handle =>
    match (← get).handles.lookup handle with
    | some start => return start ++ spelling.suffix
    | none => refuse

def readTag : Reader (Option Text) := do
  match ← peek with
  | some (.tag spelling) => skip; return some (← expand spelling)
  | _ => return none

/-- The anchor and the tag of a node, in either order. -/
def readProperties : Reader (Option Text × Option Text) := do
  match ← readAnchor with
  | some name => return (some name, ← readTag)
  | none =>
    let tag ← readTag
    return (← readAnchor, tag)

/-- A new node, which has an anchor from here on. -/
def add (anchor : Option Text) (node : Node) : Reader NodeId := do
  let r ← get
  let id := r.nodes.size
  set { r with
    nodes := r.nodes.push node
    anchors := (anchor.toList.map (·, id)) ++ r.anchors }
  return id

def addScalar (anchor : Option Text) (tag : Tag) (text : Text) : Reader NodeId :=
  add anchor ⟨tag, .scalar text⟩

/-- What stands where nothing is written. -/
def addAbsent : Reader NodeId := addScalar none .null []

/-- How deep nodes may stand in each other. -/
def deepestNesting : Nat := 485

/-- A node whose content is read after the node has been made, as it may refer to the node. -/
def addAround (anchor : Option Text) (tag : Tag) (content : Reader NodeContent) :
    Reader NodeId := do
  let id ← add anchor ⟨tag, .sequence []⟩
  if deepestNesting ≤ (← get).depth then throw .tooDeep
  modify fun r => { r with depth := r.depth + 1 }
  let content ← content
  modify fun r =>
    { r with nodes := r.nodes.modify id fun node => { node with content }, depth := r.depth - 1 }
  return id

/-- The node of an anchor. -/
def resolve (name : Text) : Reader NodeId := do
  match (← get).anchors.lookup name with
  | none => refuse
  | some id => return id

end Reader

open Reader

/-- Where a node stands decides which blocks it may be. -/
inductive Place where
  | flow
  | block
  /-- An entry of a mapping, where a sequence needs no indentation. -/
  | entry
  deriving DecidableEq

mutual

def readNode : Nat → Place → Reader NodeId
  | 0, _ => refuse
  | fuel + 1, place => do
    if let some (.alias name) ← peek then
      skip
      resolve name
    else
      let (anchor, written) ← readProperties
      readContent fuel place anchor written

/-- A node after its anchor, which may be declared once, and its tag; one that has either may be
empty. -/
def readContent : Nat → Place → Option Text → Option Text → Reader NodeId
  | 0, _, _, _ => refuse
  | fuel + 1, place, anchor, written => do
    let next ← peek
    let declared := (← get).anchors
    if anchor.any fun name => (declared.lookup name).isSome then refuse
    let sequence (items : Reader (List NodeId)) : Reader NodeId :=
      addAround anchor (Tag.ofWritten written .sequence) (NodeContent.sequence <$> items)
    let mapping (entries : Reader (List (NodeId × NodeId))) : Reader NodeId :=
      addAround anchor (Tag.ofWritten written .mapping) (NodeContent.mapping <$> entries)
    match next, place with
    | some (.scalar text isPlain), _ =>
      skip
      let default := if isPlain || written.isSome then Tag.ofPlain text else .text
      addScalar anchor (Tag.ofWritten written default) text
    | some .flowSequenceStart, _ => skip; sequence (readFlowItems fuel true)
    | some .flowMappingStart, _ => skip; mapping (readFlowEntries fuel true)
    | some .blockEntry, .entry =>
      sequence (readItems fuel [.blockEntry, .key, .value, .blockEnd])
    | some .blockSequenceStart, .block | some .blockSequenceStart, .entry =>
      skip
      sequence do
        let items ← readItems fuel [.blockEntry, .blockEnd]
        expect .blockEnd
        return items
    | some .blockMappingStart, .block | some .blockMappingStart, .entry =>
      skip
      mapping (readEntries fuel)
    | _, _ =>
      if anchor.isSome || written.isSome then
        addScalar anchor (Tag.ofWritten written .null) []
      else refuse

/-- A node, or nothing before the given tokens. -/
def readNodeBefore : Nat → List Token → Place → Reader NodeId
  | 0, _, _ => refuse
  | fuel + 1, ends, place => do
    if ← nextIs ends then addAbsent else readNode fuel place

/-- A value after its colon, or nothing. -/
def readValueBefore : Nat → List Token → Place → Reader NodeId
  | 0, _, _ => refuse
  | fuel + 1, ends, place => do
    if ← accept .value then readNodeBefore fuel ends place else addAbsent

/-- The entries of a block sequence. -/
def readItems : Nat → List Token → Reader (List NodeId)
  | 0, _ => refuse
  | fuel + 1, ends => do
    if ← accept .blockEntry then
      let item ← readNodeBefore fuel ends .block
      return item :: (← readItems fuel ends)
    else return []

/-- The entries of a block mapping up to its end. -/
def readEntries : Nat → Reader (List (NodeId × NodeId))
  | 0 => refuse
  | fuel + 1 => do
    if ← accept .key then
      let key ← readNodeBefore fuel [.key, .value, .blockEnd] .entry
      let value ← readValueBefore fuel [.key, .value, .blockEnd] .entry
      return (key, value) :: (← readEntries fuel)
    else
      expect .blockEnd
      return []

/-- The items of a sequence in brackets; a key makes a mapping of one entry. -/
def readFlowItems : Nat → Bool → Reader (List NodeId)
  | 0, _ => refuse
  | fuel + 1, isFirst => do
    if ← accept .flowSequenceEnd then return []
    if !isFirst then expect .flowEntry
    if ← accept .key then
      let item ← addAround none .mapping do
        let key ← readNodeBefore fuel [.value, .flowEntry, .flowSequenceEnd] .flow
        let value ← readValueBefore fuel [.flowEntry, .flowSequenceEnd] .flow
        return .mapping [(key, value)]
      return item :: (← readFlowItems fuel false)
    else if ← accept .flowSequenceEnd then return []
    else
      let item ← readNode fuel .flow
      return item :: (← readFlowItems fuel false)

/-- The entries of a mapping in braces; one without a colon has nothing as its value. -/
def readFlowEntries : Nat → Bool → Reader (List (NodeId × NodeId))
  | 0, _ => refuse
  | fuel + 1, isFirst => do
    if ← accept .flowMappingEnd then return []
    if !isFirst then expect .flowEntry
    if ← accept .key then
      let key ← readNodeBefore fuel [.value, .flowEntry, .flowMappingEnd] .flow
      let value ← readValueBefore fuel [.flowEntry, .flowMappingEnd] .flow
      return (key, value) :: (← readFlowEntries fuel false)
    else if ← accept .flowMappingEnd then return []
    else
      let key ← readNode fuel .flow
      let value ← addAbsent
      return (key, value) :: (← readFlowEntries fuel false)

end

/-! ## Documents -/

def defaultHandles : List (Text × Text) := [(['!'], ['!']), ("!!", Tag.family)]

/-- The directives before a document: at most one version, which is the first, and one meaning for
each handle. -/
def readDirectives : List Token → Bool → List (Text × Text) →
    Except Fault (List Token × List (Text × Text))
  | .versionDirective major _ :: rest, hasVersion, handles =>
    if hasVersion ∨ major ≠ 1 then .error .malformed else readDirectives rest true handles
  | .tagDirective handle start :: rest, hasVersion, handles =>
    if (handles.lookup handle).isSome then .error .malformed
    else readDirectives rest hasVersion ((handle, start) :: handles)
  | .otherDirective :: rest, hasVersion, handles => readDirectives rest hasVersion handles
  | tokens, _, handles => .ok (tokens, handles ++ defaultHandles)

def isDirective : Token → Bool
  | .versionDirective .. | .tagDirective .. | .otherDirective => true
  | _ => false

/-- The end of a document, after which no other document may come. -/
def Reader.endDocument : Nat → Reader Unit
  | 0 => refuse
  | fuel + 1 => do
    if ← accept .documentEnd then endDocument fuel
    else if (← peek).isSome then refuse

/-- What a document holds after the mark at its start. -/
def readMarked (fuel : Nat) : Reader NodeId := do
  let next ← peek
  let isEmpty : Bool :=
    match next with
    | none => true
    | some token => isDirective token || token = .documentStart || token = .documentEnd
  if isEmpty then addAbsent else readNode fuel .block

/-- The start of a document whose directives are read. -/
def Reader.startDocument : Reader Unit := do
  let r ← get
  let (tokens, handles) ← readDirectives r.tokens false []
  set { r with tokens, handles }
  expect .documentStart

/-- The nodes of the only document; a stream may also hold none. -/
def Reader.readStream (fuel : Nat) : Reader (Option NodeId) := do
  let finish (reader : Reader NodeId) : Reader (Option NodeId) := do
    let root ← reader
    endDocument fuel
    return some root
  match ← peek with
  | none => return none
  | some first =>
    if isDirective first || first = .documentStart || first = .documentEnd then
      modify fun r => { r with tokens := r.tokens.dropWhile (· = .documentEnd) }
      if (← peek).isNone then return none
      startDocument
      finish (readMarked fuel)
    else finish (readNode fuel .block)

def Graph.read (tokens : List Token) (fault : Option Fault) : Except Fault (Option Graph) := do
  let reading : Reading := { tokens, fault, handles := defaultHandles }
  let (root, reading) ← (readStream (4 * tokens.length + 4)).run reading
  return root.map fun root => ⟨reading.nodes, root⟩

end SceneScript.Yaml
