import SceneScript.Disk
import SceneScript.Scene.Template

/-! # Finding scenes

A script refers to a scene by a name or a path. The files it may mean lie under the scene root:
where the reference says, near the file that holds it, or in one of the usual directories.

* `ProjectPaths` — where a project keeps its files;
* `cleanSceneInput` — a reference without quotes;
* `SceneSearch.spellings` — the paths to try, relative to the scene root;
* `SceneSearch.resolve`, `SceneSearch.resolveExisting?` — the candidates, the existing ones first;
* `SceneSearch.files`, `SceneSearch.directories` — everything under the scene root;
* `SceneSearch.Exploration` — the listing of the directories, one after the other.

An operation fails with the first question that the disk cannot answer.
-/

namespace SceneScript

/-! ## Places of a project -/

structure ProjectPaths where
  gameDirectory : Path
  deriving Repr, DecidableEq

namespace ProjectPaths

def assetDirectory (paths : ProjectPaths) (type : AssetType) : Path :=
  paths.gameDirectory.child type.folder

def sceneRoot (paths : ProjectPaths) : Path := paths.assetDirectory .scene

/-- The kind of asset in whose folder a path lies, or which names that folder. -/
def assetTypeOfPath? (workingDirectory : Place) (paths : ProjectPaths) (path : Path) :
    Option AssetType :=
  if path.hasNull ∨ paths.gameDirectory.hasNull then none
  else
    match Path.below? (paths.gameDirectory.absolute workingDirectory)
        (path.absolute workingDirectory) with
    | some (folder :: _) => AssetType.ofName? folder
    | _ => none

def isSceneFile (workingDirectory : Place) (paths : ProjectPaths) (path : Path) : Bool :=
  Text.lower path.suffix = AssetType.sceneExtension &&
    paths.assetTypeOfPath? workingDirectory path = some .scene

end ProjectPaths

/-! ## References -/

def isQuote (c : Char) : Bool := c = '\'' || c = '"'

/-- One quote is taken off either end; blanks inside the quotes stay. -/
def cleanSceneInput (input : Text) : Text :=
  let stripped := Text.strip input
  let opened := if stripped.head?.any isQuote then stripped.drop 1 else stripped
  if opened.getLast?.any isQuote then opened.dropLast else opened

/-- The directories in which scenes are commonly kept. -/
def commonDirectories : List Text :=
  ["", "chapter1", "chapter2", "chapter3", "chapter4", "chapter5", "endings", "events",
   "prologue", "epilogue", "chapter1/act1", "chapter1/act2", "chapter1/act3", "chapter2/act1",
   "chapter2/act2", "chapter2/act3", "chapter3/act1", "chapter3/act2", "events/special",
   "events/battle", "events/dialogue", "endings/good", "endings/bad", "endings/true"]

/-- How many directories above the one of the referring file are searched. -/
def maxParentLevels : Nat := 5

structure SceneCandidate where
  sceneName : Text
  fullPath : Path
  relativePath : Text
  isPresent : Bool
  directory : Path
  deriving Repr, DecidableEq

/-- The project in which scenes are searched, and the directory that relative paths start from. -/
structure SceneSearch where
  paths : ProjectPaths
  workingDirectory : Place := []
  deriving Repr, DecidableEq

namespace SceneSearch

def root (search : SceneSearch) : Path := search.paths.sceneRoot.collapse

/-- A spelling as it stands, and with the extension of scenes unless it ends in it. -/
def withExtension (spelling : Text) : List Text :=
  if Text.endsWith AssetType.sceneExtension spelling then [spelling]
  else [spelling, spelling ++ AssetType.sceneExtension]

/-- The directory of the referring file, seen from the scene root. A relative path to that file
starts from the game directory. -/
def referringDirectory (search : SceneSearch) (file : Path) : Path :=
  let file := if file.isAbsolute then file else search.paths.gameDirectory.join file
  Path.relativeTo search.workingDirectory search.root file.parent.collapse

/-- At most `levels` of the directories that lie above `names` and still have a name. -/
def ancestors : Nat → List Text → List (List Text)
  | 0, _ => []
  | levels + 1, names =>
    match names.dropLast with
    | [] => []
    | parent => parent :: ancestors levels parent

/-- The directories to look in, as they are spelled. -/
def directorySpellings (search : SceneSearch) (file : Option Path) : List Text :=
  let near :=
    match file with
    | none => []
    | some file =>
      let directory := search.referringDirectory file
      directory.toText ::
        (ancestors maxParentLevels directory.names).map fun names => Path.toText ⟨.relative, names⟩
  near ++ commonDirectories

/-- The paths to try for a reference, in order, with repetitions. -/
def spellings (search : SceneSearch) (reference : Text) (file : Option Path) : List Text :=
  withExtension reference ++
    (search.directorySpellings file).flatMap fun directory =>
      withExtension (joinText directory reference)

/-- A root that two slashes stand before holds nothing. -/
def isWithinRoot (search : SceneSearch) (path : Path) : Bool :=
  path.isAbsolute = search.root.isAbsolute && search.root.anchor ≠ .doubleRoot &&
    search.root.names.isPrefixOf path.names

/-- A collapsed path under the root. -/
def candidate (search : SceneSearch) (path : Path) (isPresent : Bool) : SceneCandidate :=
  { sceneName := sceneName path.name
    fullPath := path
    relativePath := (Path.relativeTo search.workingDirectory search.root path).toText
    isPresent
    directory := path.parent }

/-- The paths of the candidates, each once. -/
def candidatePaths (search : SceneSearch) (reference : Text) (file : Option Path) : List Path :=
  firstOccurrences <|
    ((search.spellings reference file).map fun spelling =>
      (search.root.join (Path.ofText spelling)).collapse).filter fun path =>
        Text.endsWith AssetType.sceneExtension path.toText && search.isWithinRoot path

/-- Files that exist come first; among equals the order is that of the relative paths. -/
def precedes (a b : SceneCandidate) : Bool :=
  if a.isPresent = b.isPresent then Text.ble a.relativePath b.relativePath else a.isPresent

/-- Candidates, the best one first. -/
def rank (candidates : List SceneCandidate) : List SceneCandidate := candidates.mergeSort precedes

/-- It is asked of each candidate whether it is a file. -/
def resolve (search : SceneSearch) (isFile : Path → Except DiskError Bool) (input : Text)
    (file : Option Path := none) : Except DiskError (List SceneCandidate) := do
  let reference := cleanSceneInput input
  if reference = [] then return []
  let candidates ← (search.candidatePaths reference file).mapM fun path =>
    (isFile path).map (search.candidate path)
  return rank candidates

def resolveExisting? (search : SceneSearch) (isFile : Path → Except DiskError Bool) (input : Text)
    (file : Option Path := none) : Except DiskError (Option SceneCandidate) :=
  (search.resolve isFile input file).map fun candidates => candidates.find? (·.isPresent)

/-! ## Listings -/

/-- Files that exist, in the order of the relative paths. -/
def listed (search : SceneSearch) (files : List Path) : List SceneCandidate :=
  (files.map fun path => search.candidate path.collapse true).mergeSort
    fun a b => Text.ble a.relativePath b.relativePath

/-- Every scene file. -/
def files (search : SceneSearch) (disk : Disk) : Except DiskError (List SceneCandidate) :=
  (disk.walk search.paths.sceneRoot AssetType.sceneExtension).map search.listed

/-- How far a listing of directories has come: those that were found, and those that are still to be
looked into, the next one first. -/
structure Exploration where
  pending : List Path
  found : List Path := []
  deriving Repr, DecidableEq

namespace Exploration

/-- Looks into the next directory. -/
def step (disk : Disk) (exploration : Exploration) : Except DiskError Exploration :=
  match exploration.pending with
  | [] => .ok exploration
  | current :: pending =>
    (disk.list current).map fun entries =>
      let inside := (entries.filter (·.isDirectory)).map (·.path)
      ⟨inside.reverse ++ pending, exploration.found ++ inside⟩

/-- Goes on for a number of steps, or up to the first fault. -/
def run (disk : Disk) : Nat → Exploration → Except DiskError Exploration
  | 0, exploration => .ok exploration
  | steps + 1, exploration =>
    match exploration.step disk with
    | .ok next => run disk steps next
    | .error error => .error error

end Exploration

/-- Every directory under the scene root, seen from there; the root itself comes first, as the
empty text. A step for each node and one for the root are enough to look into all of them. -/
def directories (search : SceneSearch) (disk : Disk) : Except DiskError (List Text) :=
  let root := search.paths.sceneRoot
  match Exploration.run disk (disk.nodes.size + 1) ⟨[root], []⟩ with
  | .error error => .error error
  | .ok exploration =>
    .ok ([] :: Text.sort (exploration.found.map fun path =>
      Path.toText ⟨.relative, path.names.drop root.names.length⟩))

end SceneSearch

end SceneScript
