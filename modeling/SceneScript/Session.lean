import SceneScript.Activity

/-! # Sessions

Besides the scans of variables, scans of assets are in flight. They take many steps as well, and
between any two of them everything else may happen.

* `AssetScan` — the folders that a scan of assets has listed so far;
* `Session` — an activity together with the scans of assets in flight;
* `Session.Event`, `Session.Step`, `Session.Run` — what happens, one step, any number of steps.

A scan of assets lists the folders of all kinds, in any order, and then publishes what it found,
even if a scan that began later has published before. It may be abandoned at any step, and has to be
if a folder cannot be listed.
-/

namespace SceneScript

/-- The kinds of assets whose folders are listed, with what was found there. -/
structure AssetScan where
  found : OrderedMap AssetType (List Asset) := ∅
  deriving Repr, DecidableEq

namespace AssetScan

def add (type : AssetType) (assets : List Asset) (scan : AssetScan) : AssetScan :=
  ⟨scan.found.insert type assets⟩

/-- What is published once the folders of all kinds are listed. -/
def library? (scan : AssetScan) : Option AssetLibrary :=
  if ∀ type ∈ AssetType.all, scan.found.contains type then
    some (.ofFolders fun type => (scan.found.get? type).getD [])
  else none

end AssetScan

structure Session extends Activity where
  /-- The scans of assets in flight, in the order in which they began. -/
  assetScans : OrderedMap Nat AssetScan := ∅
  assetScansBegun : Nat := 0

namespace Session

/-- Nothing is in flight, and nothing is known. -/
def start (project : Project) (disk : Disk) : Session :=
  { toActivity := .start { project with assets := {} } disk }

inductive Event where
  | activity (event : Activity.Event)
  | assetScanBegun (number : Nat)
  | assetsPublished (number : Nat) (library : AssetLibrary)
  | assetScanAbandoned (number : Nat)
  deriving Repr, DecidableEq

def setAssetScan (s : Session) (number : Nat) (scan : AssetScan) : Session :=
  { s with assetScans := s.assetScans.insert number scan }

def dropAssetScan (s : Session) (number : Nat) : Session :=
  { s with assetScans := s.assetScans.erase number }

def beginAssetScan (s : Session) : Session :=
  { s with assetScansBegun := s.assetScansBegun + 1 }.setAssetScan s.assetScansBegun {}

/-- What the folder of a kind holds on the disk as it stands. -/
def listFolder (s : Session) (type : AssetType) : Except DiskError (List Asset) :=
  Asset.inFolder s.project.paths s.disk type

def publishAssets (s : Session) (number : Nat) (library : AssetLibrary) :
    List Announcement × Session :=
  let (announcements, project) := s.project.stock library
  (announcements, { s with project }.dropAssetScan number)

/-! ## Steps -/

inductive Step : Session → List Event → Session → Prop where
  /-- The disk changes, or something happens to the variables. -/
  | activity {s : Session} {events : List Activity.Event} {t : Activity}
      (step : Activity.Step s.toActivity events t) :
      Step s (events.map .activity) { s with toActivity := t }
  | beginAssetScan (s : Session) : Step s [.assetScanBegun s.assetScansBegun] s.beginAssetScan
  | listFolder {s : Session} {number : Nat} {scan : AssetScan} {type : AssetType}
      {assets : List Asset} (waits : s.assetScans.get? number = some scan)
      (unlisted : scan.found.contains type = false) (listed : s.listFolder type = .ok assets) :
      Step s [] (s.setAssetScan number (scan.add type assets))
  | publishAssets {s : Session} {number : Nat} {scan : AssetScan} {library : AssetLibrary}
      (waits : s.assetScans.get? number = some scan) (complete : scan.library? = some library) :
      Step s
        (.assetsPublished number library ::
          (s.publishAssets number library).1.map fun a => .activity (.announced a))
        (s.publishAssets number library).2
  | abandonAssetScan {s : Session} {number : Nat} {scan : AssetScan}
      (inFlight : s.assetScans.get? number = some scan) :
      Step s [.assetScanAbandoned number] (s.dropAssetScan number)

/-- Any number of steps, with the events that they bring about. -/
inductive Run (s : Session) : List Event → Session → Prop where
  | stay : Run s [] s
  | step {events more : List Event} {t u : Session} (run : Run s events t)
      (step : Step t more u) : Run s (events ++ more) u

namespace Run

theorem single {s t : Session} {events : List Event} (step : Step s events t) :
    Run s events t := .step .stay step

theorem append {s t u : Session} {events more : List Event} (first : Run s events t)
    (second : Run t more u) : Run s (events ++ more) u := by
  induction second with
  | stay => simpa using first
  | step _ step ih => simpa using ih.step step

/-- What happens to the variables happens in the session. -/
theorem activity {s : Session} {events : List Activity.Event} {t : Activity}
    (run : Activity.Run s.toActivity events t) :
    Run s (events.map .activity) { s with toActivity := t } := by
  induction run with
  | stay => exact .stay
  | step _ step ih => simpa using ih.step (.activity step)

end Run

end Session

end SceneScript
