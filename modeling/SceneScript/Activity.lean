import SceneScript.Project

/-! # Activity of a project

Full scans and scans of single files take many steps, and between any two of them other operations
may take theirs and the disk may become any other disk.

* `FullScan`, `FileScan` — operations in flight, and how far they have come;
* `Activity` — a project, its disk, and what is in flight;
* `Activity.Event` — what a step brings about;
* `Activity.Step`, `Activity.Run` — one step, and any number of them in any order;
* `Activity.published` — the text most recently published for each file.

A full scan lists the scene files, reads them in any order, and then publishes what it read unless
a later one has begun. A scan of one file looks whether the file is there, reads it, and publishes.
Either may be abandoned at any step, as when it fails or is cancelled.
-/

namespace SceneScript

inductive FullScan where
  | listing
  /-- The files that were listed, each with its text once it is read. -/
  | reading (scenes : List (Path × Option Text))
  deriving Repr, DecidableEq

namespace FullScan

/-- A full scan that has just listed the files. -/
def listed (scenes : List Path) : FullScan := .reading (scenes.map (·, none))

/-- A full scan that has read all of its files. -/
def complete (texts : List (Path × Text)) : FullScan :=
  .reading (texts.map fun (path, text) => (path, some text))

end FullScan

/-- What a scan of one file does next. -/
inductive FileScanStage where
  | look
  | read
  | update (text : Option Text)
  deriving Repr, DecidableEq

/-- Where the disk cannot say whether the file is there, the scan cannot go on. -/
def FileScanStage.afterLook? : Except DiskError (Option Node) → Option FileScanStage
  | .error _ => none
  | .ok (some (.file _)) => some .read
  | .ok _ => some (.update none)

structure FileScan where
  path : Path
  stage : FileScanStage := .look
  deriving Repr, DecidableEq

structure Activity where
  project : Project
  disk : Disk
  /-- The full scans in flight, by their numbers. -/
  fullScans : OrderedMap Nat FullScan := ∅
  /-- The scans of single files in flight, in the order in which they began. -/
  fileScans : OrderedMap Nat FileScan := ∅
  fileScansBegun : Nat := 0

namespace Activity

/-- Nothing is in flight, and nothing is indexed. -/
def start (project : Project) (disk : Disk) : Activity :=
  { project := { project with index := {} }, disk }

inductive Event where
  | diskChanged
  | scanBegun (number : Nat)
  | scenesListed (number : Nat) (scenes : List Path)
  /-- The texts that the scan read, and the edits that were made on them. -/
  | scanPublished (number : Nat) (texts : FileTexts) (edits : OrderedMap Text (Option Text))
  | scanDiscarded (number : Nat)
  | scanAbandoned (number : Nat)
  /-- A caller says what a file holds, or that it is gone. -/
  | fileGiven (file : Text)
  | fileScanBegun (number : Nat) (path : Path)
  | fileScanEnded (number : Nat)
  | fileScanAbandoned (number : Nat)
  /-- The file has this text from now on, or is gone. -/
  | fileUpdated (file : Text) (text : Option Text)
  | cleared
  | announced (announcement : Announcement)
  deriving Repr, DecidableEq

def setFullScan (s : Activity) (number : Nat) (scan : FullScan) : Activity :=
  { s with fullScans := s.fullScans.insert number scan }

def setFileScan (s : Activity) (number : Nat) (scan : FileScan) : Activity :=
  { s with fileScans := s.fileScans.insert number scan }

def fileTexts (texts : List (Path × Text)) : FileTexts :=
  texts.map fun (path, text) => (path.toText, text)

def beginFullScan (s : Activity) : Activity :=
  let (number, project) := s.project.beginScan
  { s with project }.setFullScan number .listing

/-- The scene files of the disk as it stands. -/
def listScenes (s : Activity) : Except DiskError (List Path) :=
  s.disk.walk s.project.paths.sceneRoot AssetType.sceneExtension

def endFullScan (s : Activity) (number : Nat) (texts : FileTexts) :
    Bool × List Announcement × Activity :=
  let (published, announcements, project) := s.project.endScan number texts
  (published, announcements, { s with project, fullScans := s.fullScans.erase number })

def abandonFullScan (s : Activity) (number : Nat) : Activity :=
  { s with project := s.project.abandonScan, fullScans := s.fullScans.erase number }

def update (s : Activity) (file : Text) (text : Option Text) : List Announcement × Activity :=
  let (announcements, project) := s.project.update file text
  (announcements, { s with project })

def beginFileScan (s : Activity) (path : Path) : Activity :=
  { s with fileScansBegun := s.fileScansBegun + 1 }.setFileScan s.fileScansBegun { path }

def dropFileScan (s : Activity) (number : Nat) : Activity :=
  { s with fileScans := s.fileScans.erase number }

/-! ## Steps -/

inductive Step : Activity → List Event → Activity → Prop where
  | changeDisk (s : Activity) (disk : Disk) : Step s [.diskChanged] { s with disk }
  /-- A text in memory takes the place of a file, or a file is taken out. -/
  | update (s : Activity) (file : Text) (text : Option Text) :
      Step s (.fileGiven file :: .fileUpdated file text :: (s.update file text).1.map .announced)
        (s.update file text).2
  | clear (s : Activity) : Step s [.cleared] { s with project := s.project.clearVariables }
  | beginFullScan (s : Activity) :
      Step s [.scanBegun s.project.beginScan.1] s.beginFullScan
  | listScenes {s : Activity} {number : Nat} {scenes : List Path}
      (waits : s.fullScans.get? number = some .listing) (listed : s.listScenes = .ok scenes) :
      Step s [.scenesListed number scenes] (s.setFullScan number (.listed scenes))
  | readScene {s : Activity} {number position : Nat} {path : Path}
      {scenes : List (Path × Option Text)}
      (waits : s.fullScans.get? number = some (.reading scenes))
      (unread : scenes[position]? = some (path, none)) :
      Step s []
        (s.setFullScan number (.reading (scenes.set position (path, some (s.disk.readText path)))))
  | publishFullScan {s : Activity} {number : Nat} {texts : List (Path × Text)}
      (waits : s.fullScans.get? number = some (.complete texts))
      (publishes : (s.endFullScan number (fileTexts texts)).1 = true) :
      Step s
        (.scanPublished number (fileTexts texts) s.project.index.edits ::
          (s.endFullScan number (fileTexts texts)).2.1.map .announced)
        (s.endFullScan number (fileTexts texts)).2.2
  | discardFullScan {s : Activity} {number : Nat} {texts : List (Path × Text)}
      (waits : s.fullScans.get? number = some (.complete texts))
      (superseded : (s.endFullScan number (fileTexts texts)).1 = false) :
      Step s
        (.scanDiscarded number :: (s.endFullScan number (fileTexts texts)).2.1.map .announced)
        (s.endFullScan number (fileTexts texts)).2.2
  | abandonFullScan {s : Activity} {number : Nat} {scan : FullScan}
      (inFlight : s.fullScans.get? number = some scan) :
      Step s [.scanAbandoned number] (s.abandonFullScan number)
  | beginFileScan (s : Activity) (path : Path) :
      Step s [.fileScanBegun s.fileScansBegun path] (s.beginFileScan path)
  | lookForFile {s : Activity} {number : Nat} {path : Path} {stage : FileScanStage}
      (waits : s.fileScans.get? number = some { path })
      (answer : FileScanStage.afterLook? (s.disk.ask path) = some stage) :
      Step s [] (s.setFileScan number { path, stage })
  | readFile {s : Activity} {number : Nat} {path : Path}
      (waits : s.fileScans.get? number = some { path, stage := .read }) :
      Step s []
        (s.setFileScan number { path, stage := .update (some (s.disk.readText path)) })
  | endFileScan {s : Activity} {number : Nat} {path : Path} {text : Option Text}
      (waits : s.fileScans.get? number = some { path, stage := .update text }) :
      Step s
        (.fileScanEnded number :: .fileUpdated path.toText text ::
          (s.update path.toText text).1.map .announced)
        ((s.update path.toText text).2.dropFileScan number)
  | abandonFileScan {s : Activity} {number : Nat} {scan : FileScan}
      (inFlight : s.fileScans.get? number = some scan) :
      Step s [.fileScanAbandoned number] (s.dropFileScan number)

/-- Any number of steps, with the events that they bring about. -/
inductive Run (s : Activity) : List Event → Activity → Prop where
  | stay : Run s [] s
  | step {events more : List Event} {t u : Activity} (run : Run s events t)
      (step : Step t more u) : Run s (events ++ more) u

namespace Run

theorem single {s t : Activity} {events : List Event} (step : Step s events t) :
    Run s events t := .step .stay step

theorem append {s t u : Activity} {events more : List Event} (first : Run s events t)
    (second : Run t more u) : Run s (events ++ more) u := by
  induction second with
  | stay => simpa using first
  | step _ step ih => simpa using ih.step step

end Run

/-! ## What is published -/

/-- The texts that count after an event, where `contents` counted before: an edit made during a
full scan outweighs the text that the scan read. -/
def Event.revise (contents : Text → Option Text) : Event → Text → Option Text
  | .scanPublished _ texts edits =>
    fun file => (edits.get? file).getD (OrderedMap.get? ⟨texts⟩ file)
  | .fileUpdated file text => fun other => if other = file then text else contents other
  | .cleared => fun _ => none
  | _ => contents

/-- The text most recently published for each file. -/
def published (events : List Event) : Text → Option Text :=
  events.foldl Event.revise fun _ => none

end Activity

end SceneScript
