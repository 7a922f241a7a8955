import SceneScript.Error
import SceneScript.Scene.Search

/-! # Creating scenes

A new scene file or scene directory goes where the options say, under the scene root and nowhere
else. Files that exist are left as they are.

* `SceneCreation` — the options;
* `SceneSearch.target` — the place that parts of a path name under the root;
* `SceneSearch.createScene` — the created path, and the disk after it.
-/

namespace SceneScript

structure SceneCreation where
  createFile : Bool := false
  createDirectory : Bool := false
  directory : Option Text := none
  fileName : Option Text := none
  deriving Repr, DecidableEq

namespace SceneCreation

def defaultFile : Text := "new_scene.txt"
def defaultDirectory : Text := "new_scene"

/-- An empty option counts as none. -/
def nonempty (text : Option Text) : Option Text := text.filter (· ≠ [])

def directorySpelling (options : SceneCreation) : Text :=
  (nonempty options.directory).getD defaultDirectory

/-- The file to create in the directory that is to be created, if any. -/
def fileInDirectory? (options : SceneCreation) : Option Text :=
  if options.createFile then
    (nonempty options.fileName).map fun fileName => joinText options.directorySpelling fileName
  else none

def fileSpelling (options : SceneCreation) : Text :=
  let fileName := (nonempty options.fileName).getD defaultFile
  match nonempty options.directory with
  | some directory => joinText directory fileName
  | none => fileName

end SceneCreation

/-- Why no scene was created. -/
inductive CreationFault where
  | outsideRoot (spelling : Text)
  | disk (error : DiskError)
  deriving Repr, DecidableEq

namespace SceneSearch

/-- The path of a spelling under the root, if it does not lead out of it. -/
def target (search : SceneSearch) (spelling : Text) : Except CreationFault Path :=
  let path := (search.paths.sceneRoot.join (Path.ofText spelling)).collapse
  if search.isWithinRoot path then .ok path else .error (.outsideRoot spelling)

def onDisk {α : Type} : Except DiskError α → Except CreationFault α
  | .ok a => .ok a
  | .error e => .error (.disk e)

/-- Writes the template unless something is there already. -/
def writeTemplate (disk : Disk) (today : CalendarDate) (path : Path) : Except DiskError Disk := do
  if (← disk.ask path).isSome then return disk
  else disk.writeText path (sceneTemplate path.name today)

/-- The result of creating a scene, and the disk as it is left, also when something fails. -/
structure CreationOutcome where
  result : Except CreationFault (Option Path)
  disk : Disk

/-- One change of the disk, and what comes next unless it failed. -/
def attempt (change : DiskOutcome) (next : Disk → CreationOutcome) : CreationOutcome :=
  match change.error? with
  | none => next change.disk
  | some e => ⟨.error (.disk e), change.disk⟩

def createDirectory (search : SceneSearch) (today : CalendarDate) (options : SceneCreation)
    (disk : Disk) : CreationOutcome :=
  match search.target options.directorySpelling with
  | .error fault => ⟨.error fault, disk⟩
  | .ok directory =>
    attempt (disk.buildDirectories directory) fun disk =>
      match options.fileInDirectory? with
      | none => ⟨.ok directory, disk⟩
      | some spelling =>
        match search.target spelling with
        | .error fault => ⟨.error fault, disk⟩
        | .ok file =>
          attempt (disk.attempt (writeTemplate disk today file)) fun disk => ⟨.ok file, disk⟩

def createFile (search : SceneSearch) (today : CalendarDate) (options : SceneCreation)
    (disk : Disk) : CreationOutcome :=
  match search.target options.fileSpelling with
  | .error fault => ⟨.error fault, disk⟩
  | .ok file =>
    attempt (disk.buildDirectories file.parent) fun disk =>
      attempt (disk.attempt (writeTemplate disk today file)) fun disk => ⟨.ok file, disk⟩

def createScene (search : SceneSearch) (today : CalendarDate) (options : SceneCreation)
    (disk : Disk) : CreationOutcome :=
  if options.createDirectory then search.createDirectory today options disk
  else if options.createFile then search.createFile today options disk
  else ⟨.ok none, disk⟩

end SceneSearch

namespace CreationFault

def details (search : SceneSearch) : OrderedMap Text Datum :=
  .ofList [("scene_root", .text search.paths.sceneRoot.toText)]

/-- A path that holds the null character is no failure of the disk and has no advice. -/
def toError? (search : SceneSearch) : CreationFault → Option ScriptError
  | .outsideRoot spelling =>
    some
      { kind := .validation
        message := "Scene path escapes the scene directory: " ++ spelling
        hint := some "Use a path relative to the scene directory without '..'"
        details := details search }
  | .disk error =>
    if error.fault = .nullCharacter then none
    else
      some
        { kind := .sceneCreation
          message := "Failed to create scene: " ++ error.message
          hint := some "Check that the scene directory is writable"
          details := details search }

end CreationFault

end SceneScript
