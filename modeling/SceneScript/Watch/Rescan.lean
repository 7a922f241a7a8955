import SceneScript.Project
import SceneScript.Scheduler

/-! # Rescans

A change of a file calls for a rescan: of everything, of the assets, or of one script. Rescans are
scheduled under themselves as keys, so that a burst of changes leads to one rescan of each kind.

* `ProjectPaths.rescanFor?` — the rescan that a change calls for;
* `rescanRules` — while a rescan of everything is pending, no smaller one is scheduled;
* `Project.rescan` — the rescan itself.
-/

namespace SceneScript

inductive Rescan where
  | everything
  | assets
  | script (path : Path)
  deriving Repr, DecidableEq

inductive ChangeKind where
  | created
  | deleted
  | modified
  | moved
  deriving Repr, DecidableEq

/-- A change of a file or a directory, as a system reports it. -/
structure FileChange where
  kind : ChangeKind
  /-- Nothing where the report names no path. -/
  path : Option Path
  isDirectory : Bool := false
  deriving Repr, DecidableEq

namespace ProjectPaths

/-- A script that is modified is read again, and so are the assets if another file in their folders
is modified. Whatever else happens in those folders, or moves anywhere, calls for a full rescan. -/
def rescanFor? (workingDirectory : Place) (paths : ProjectPaths) (change : FileChange) :
    Option Rescan :=
  match change.kind, change.path with
  | .moved, _ => some .everything
  | _, none => none
  | .created, some path | .deleted, some path =>
    (paths.assetTypeOfPath? workingDirectory path).map fun _ => .everything
  | .modified, some path =>
    if change.isDirectory then none
    else if paths.isSceneFile workingDirectory path then some (.script path)
    else
      match paths.assetTypeOfPath? workingDirectory path with
      | none | some .scene => none
      | some _ => some .assets

end ProjectPaths

/-- Rescans are keys, work and messages alike. -/
abbrev RescanScheduler := Scheduler Rescan Rescan Rescan

/-- What is requested when the message about a change gets its turn. -/
def rescanRequests (rescan : Rescan) (scheduler : RescanScheduler) :
    List (Request Rescan Rescan) :=
  if rescan ≠ .everything ∧ scheduler.isPending .everything then []
  else [.schedule rescan rescan none]

def rescanRules : Scheduler.Rules Rescan Rescan Rescan :=
  { course := fun _ => {}, answer := rescanRequests }

/-- A rescan that fails is logged, and no more is made of it. -/
def Project.rescan (disk : Disk) : Rescan → Project → ProjectOutcome Unit
  | .everything, project => project.scan disk
  | .assets, project => project.scanAssets disk
  | .script path, project => project.scanFile disk path

end SceneScript
