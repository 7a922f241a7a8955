import SceneScript.Asset.Library
import SceneScript.Diagnostic.Check
import SceneScript.Output.Report

/-! # Projects

A project knows the variables and the assets of one game directory and checks its scripts.

* `ProjectOutcome` — what an operation leaves, announces and returns;
* `Project.scan`, `Project.scanVariables`, `Project.scanAssets` — scans of the whole disk;
* `Project.scanFile`, `Project.scanText`, `Project.removeFile` — updates for one file;
* `Project.diagnoseText`, `Project.diagnoseFile`, `Project.diagnoseAll` — checks.

Every scan and every update announces what it published. A scan fails where the disk cannot be
looked through, and then leaves what was known before.
-/

namespace SceneScript

inductive Announcement where
  | index (update : IndexUpdate)
  | assets (library : AssetLibrary)
  deriving Repr, DecidableEq

structure Project where
  paths : ProjectPaths
  catalog : Catalog := .builtin
  vocabulary : Vocabulary := .builtin
  validateResources : Bool := true
  index : VariableIndex := {}
  assets : AssetLibrary := {}

/-- A project as an operation leaves it, and what the operation returns or why it failed. -/
structure ProjectOutcome (α : Type) where
  project : Project
  announcements : List Announcement := []
  result : Except DiskError α

/-- An update that cannot fail. -/
def ProjectOutcome.done (update : List Announcement × Project) : ProjectOutcome Unit where
  project := update.2
  announcements := update.1
  result := .ok ()

namespace Project

def search (project : Project) (disk : Disk) : SceneSearch :=
  ⟨project.paths, disk.workingDirectory⟩

/-! ## Variables -/

/-- Files with their texts, as a full scan reads them. -/
def readTexts (disk : Disk) (files : List Path) : FileTexts :=
  files.map fun path => (path.toText, disk.readText path)

/-- The scene files with their texts. -/
def sceneTexts (project : Project) (disk : Disk) : Except DiskError FileTexts :=
  (disk.walk project.paths.sceneRoot AssetType.sceneExtension).map (readTexts disk)

def beginScan (project : Project) : Nat × Project :=
  let (number, index) := project.index.beginScan
  (number, { project with index })

/-- Ends a full scan of variables: whether it published, and what it announced. -/
def endScan (number : Nat) (texts : FileTexts) (project : Project) :
    Bool × List Announcement × Project :=
  let (published, index) := project.index.endScan project.vocabulary number texts
  (published, if published then [.index (index.announcement none)] else [],
   { project with index })

def abandonScan (project : Project) : Project :=
  { project with index := project.index.abandonScan }

/-- A full scan of variables, which returns whether it published. -/
def scanVariables (disk : Disk) (project : Project) : ProjectOutcome Bool :=
  let (number, project) := project.beginScan
  match project.sceneTexts disk with
  | .error error => { project := project.abandonScan, result := .error error }
  | .ok texts =>
    let (published, announcements, project) := project.endScan number texts
    { project, announcements, result := .ok published }

def update (file : Text) (text : Option Text) (project : Project) :
    List Announcement × Project :=
  let index := project.index.update project.vocabulary file text
  ([.index (index.announcement (some file))], { project with index })

def scanText (file text : Text) (project : Project) : List Announcement × Project :=
  project.update file (some text)

def removeFile (file : Text) (project : Project) : List Announcement × Project :=
  project.update file none

/-- Reads one file again; one that is gone leaves the index. -/
def scanFile (disk : Disk) (path : Path) (project : Project) : ProjectOutcome Unit :=
  match disk.ask path with
  | .error error => { project, result := .error error }
  | .ok (some (.file content)) => .done (project.scanText path.toText content.readable)
  | .ok _ => .done (project.removeFile path.toText)

def clearVariables (project : Project) : Project := { project with index := project.index.clear }

/-! ## Assets -/

/-- What a scan of assets found takes the place of what was known before. -/
def stock (assets : AssetLibrary) (project : Project) : List Announcement × Project :=
  ([.assets assets], { project with assets })

def scanAssets (disk : Disk) (project : Project) : ProjectOutcome Unit :=
  match AssetLibrary.scan project.paths disk with
  | .error error => { project, result := .error error }
  | .ok assets => .done (project.stock assets)

/-- Scans assets and variables, each to its own end: if one of the scans fails the other one still
publishes. Of two failures that of the assets counts. -/
def scan (disk : Disk) (project : Project) : ProjectOutcome Unit :=
  let stocked := project.scanAssets disk
  let scanned := stocked.project.scanVariables disk
  { project := scanned.project
    announcements := stocked.announcements ++ scanned.announcements
    result := do
      stocked.result
      let _ ← scanned.result }

/-! ## Checks -/

def checker (project : Project) : Checker :=
  { catalog := project.catalog
    vocabulary := project.vocabulary
    assetExists := some fun name type => project.assets.contains name (some type)
    isDefined := some project.index.isDefined }

/-- Resources are validated as the project says, unless the caller says otherwise. -/
def diagnoseText (project : Project) (text file : Text) (validateResources : Option Bool := none) :
    List Diagnostic :=
  project.checker.diagnose text file (validateResources.getD project.validateResources)

/-- The diagnostics of a file, under the path as it is spelled. -/
def diagnoseFile (project : Project) (disk : Disk) (file : Text)
    (validateResources : Option Bool := none) : List Diagnostic :=
  project.diagnoseText (disk.readText (.ofText file)) file validateResources

/-- The diagnostics of scenes, each by its path from the scene root. -/
def diagnoseScenes (project : Project) (disk : Disk) (validateResources : Option Bool)
    (scenes : List SceneCandidate) : Report :=
  .ofList <| scenes.map fun scene =>
    (scene.relativePath, project.diagnoseFile disk scene.fullPath.toText validateResources)

/-- The diagnostics of every scene file. -/
def diagnoseAll (project : Project) (disk : Disk) (validateResources : Option Bool := none) :
    Except DiskError Report :=
  ((project.search disk).files disk).map (project.diagnoseScenes disk validateResources)

end Project

end SceneScript
