import SceneScript.Index.Record

/-! # The variable index

The index gathers the variables of all scene files. A full scan reads the files in the background
and replaces everything at once; texts of single files may be put in or taken out at any time, also
while full scans are under way.

* `VariableIndex.update` — one file gets a new text, or none;
* `VariableIndex.beginScan`, `VariableIndex.commitScan`, `VariableIndex.abandonScan` — the life of
  a full scan, which publishes only if no later one has begun;
* `VariableIndex.isDefined`, `VariableIndex.undefinedNames`, `VariableIndex.locations` — queries.

An edit that lands while a full scan is under way is kept in `edits` and made again on what the
scan read, so that the scan does not bring an older text back.
-/

namespace SceneScript

structure VariableIndex where
  records : Records := ∅
  files : List Text := []
  /-- The number of full scans begun so far. -/
  generation : Nat := 0
  /-- The number of full scans begun and not yet ended. -/
  scansRunning : Nat := 0
  /-- The latest text of each file edited during a full scan, or nothing for a removed file. -/
  edits : OrderedMap Text (Option Text) := ∅
  deriving Repr, DecidableEq

/-- What is announced whenever an index has changed. -/
structure IndexUpdate where
  fullScan : Bool
  variableCount : Nat
  file : Option Text
  deriving Repr, DecidableEq

/-- Texts of files, in the order in which they are indexed. -/
abbrev FileTexts := List (Text × Text)

/-- The records and the files that an index publishes together. -/
structure IndexSnapshot where
  records : Records := ∅
  files : List Text := []
  deriving Repr, DecidableEq

namespace IndexSnapshot

/-- Replaces what `file` contributes by what its new text contributes, if it has one. -/
def edit (vocabulary : Vocabulary) (file : Text) (text : Option Text) (snapshot : IndexSnapshot) :
    IndexSnapshot :=
  let rest := snapshot.records.withoutFile file
  match text with
  | none => ⟨rest, snapshot.files.filter (· ≠ file)⟩
  | some text =>
    ⟨rest.addScript file (Script.parse vocabulary text),
     if snapshot.files.contains file then snapshot.files else snapshot.files ++ [file]⟩

def ofTexts (vocabulary : Vocabulary) (texts : FileTexts) : IndexSnapshot :=
  ⟨texts.foldl
      (fun records (file, text) => records.addScript file (Script.parse vocabulary text)) ∅,
   firstOccurrences (texts.map (·.1))⟩

end IndexSnapshot

namespace VariableIndex

def snapshot (index : VariableIndex) : IndexSnapshot := ⟨index.records, index.files⟩

def publish (index : VariableIndex) (snapshot : IndexSnapshot) : VariableIndex :=
  { index with records := snapshot.records, files := snapshot.files }

def announcement (index : VariableIndex) (file : Option Text) : IndexUpdate :=
  ⟨file.isNone, index.records.size, file⟩

/-! ## Single files -/

def update (vocabulary : Vocabulary) (file : Text) (text : Option Text) (index : VariableIndex) :
    VariableIndex :=
  { index.publish (index.snapshot.edit vocabulary file text) with
    edits := if index.scansRunning = 0 then index.edits else index.edits.insert file text }

/-- Full scans under way are not told, and go on. -/
def clear (index : VariableIndex) : VariableIndex := index.publish {}

/-! ## Full scans -/

/-- A full scan takes the next generation as its number. Edits are forgotten when no other scan
is under way that could need them. -/
def beginScan (index : VariableIndex) : Nat × VariableIndex :=
  (index.generation + 1,
   { index with
     generation := index.generation + 1
     scansRunning := index.scansRunning + 1
     edits := if index.scansRunning = 0 then ∅ else index.edits })

/-- A full scan that fails or is cancelled changes nothing. -/
def abandonScan (index : VariableIndex) : VariableIndex :=
  { index with scansRunning := index.scansRunning - 1 }

def replayEdits (vocabulary : Vocabulary) (index : VariableIndex) (read : IndexSnapshot) :
    IndexSnapshot :=
  index.edits.entries.foldl (fun snapshot (file, text) => snapshot.edit vocabulary file text) read

/-- Ends full scan number `number`, which read `texts`: nothing if a later scan has begun. -/
def commitScan? (vocabulary : Vocabulary) (number : Nat) (texts : FileTexts)
    (index : VariableIndex) : Option VariableIndex :=
  if number = index.generation then
    some
      { index.publish (index.replayEdits vocabulary (.ofTexts vocabulary texts)) with
        scansRunning := index.scansRunning - 1
        edits := ∅ }
  else none

/-- Whether the scan published, and the index after it. -/
def endScan (vocabulary : Vocabulary) (number : Nat) (texts : FileTexts) (index : VariableIndex) :
    Bool × VariableIndex :=
  match index.commitScan? vocabulary number texts with
  | some published => (true, published)
  | none => (false, index.abandonScan)

/-! ## Queries -/

def record? (index : VariableIndex) (name : Text) : Option VariableRecord :=
  index.records.get? name

def isDefined (index : VariableIndex) (name : Text) : Bool :=
  (index.record? name).any (·.isDefined)

/-- The variables that are used somewhere and defined nowhere. -/
def undefinedNames (index : VariableIndex) : List Text :=
  Text.sort
    ((index.records.entries.filter fun (_, r) => !r.usages.isEmpty && r.definitions.isEmpty).map
      (·.1))

inductive LocationKind where
  | definition
  | usage (kind : UsageKind)
  deriving Repr, DecidableEq

def LocationKind.name : LocationKind → Text
  | .definition => "definition"
  | .usage kind => kind.name

structure Location where
  file : Text
  number : Int
  kind : LocationKind
  deriving Repr, DecidableEq

/-- Where a variable is mentioned, definitions first. -/
def locations (index : VariableIndex) (name : Text) (definitions : Bool := true) :
    List Location :=
  match index.record? name with
  | none => []
  | some record =>
    (if definitions then record.definitions.map fun d => ⟨d.file, d.number, .definition⟩ else []) ++
      record.usages.map fun u => ⟨u.file, u.number, .usage u.kind⟩

end VariableIndex

end SceneScript
