import SceneScript.Project

/-! # Checking files

* `CheckFault` — why there is no report;
* `Project.checkedFiles` — the files that arguments stand for;
* `Project.check` — their report, or that of every scene where there is no argument.
-/

namespace SceneScript

inductive CheckFault where
  | missing (path : Path)
  | disk (error : DiskError)
  deriving Repr, DecidableEq

namespace Project

/-- A file under the scene root is shown by its path from there, any other as it is spelled. -/
def displayPath (project : Project) (disk : Disk) (path : Path) : Text :=
  let root := project.paths.sceneRoot.absolute disk.workingDirectory
  match Path.below? root (path.absolute disk.workingDirectory) with
  | some names => Path.toText ⟨.relative, names⟩
  | none => path.toText

def missingFile (project : Project) (path : Path) : ScriptError :=
  { kind := .scriptFileNotFound
    message := "Script file not found: " ++ path.toText
    hint := some "Pass a scene file or a directory containing scene files"
    details := .ofList [("scene_root", .text project.paths.sceneRoot.toText)] }

/-- A directory stands for the scene files below it, and a file for itself. -/
def filesOf (disk : Disk) (path : Path) : Except CheckFault (List Path) :=
  match disk.ask path with
  | .error error => .error (.disk error)
  | .ok none => .error (.missing path)
  | .ok (some .directory) => (disk.walk path AssetType.sceneExtension).mapError .disk
  | .ok (some (.file _)) => .ok [path]

def checkedFiles (disk : Disk) (paths : List Path) : Except CheckFault (List Path) :=
  (paths.mapM (filesOf disk)).map List.flatten

/-- Of two files that are shown alike the last one counts. -/
def check (project : Project) (disk : Disk) (paths : List Path) (validateResources : Bool) :
    Except CheckFault Report :=
  if paths = [] then (project.diagnoseAll disk (some validateResources)).mapError .disk
  else do
    let files ← checkedFiles disk paths
    return .ofList <| files.map fun file =>
      (project.displayPath disk file,
       project.diagnoseFile disk file.toText (some validateResources))

end Project

end SceneScript
