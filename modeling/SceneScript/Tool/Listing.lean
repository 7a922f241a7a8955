import SceneScript.Watch.Watcher

/-! # Listings

A listing tells a command line what there is to look at. It has one path a line, that of a directory
with a slash at its end. After an empty line come the changes for a task that watches, each with the
millisecond at which it is reported and its kind before the path.

* `Listing.ofText` — reading;
* `Disk.spellings` — what a listing says of a disk;
* `Listing.emptyDisk` — the disk that has the directories but no file yet.
-/

namespace SceneScript

structure Listing where
  directories : List Path := []
  files : List Path := []
  /-- The changes in the order of their times. -/
  deliveries : Watcher.Deliveries := []

def ChangeKind.spellings : List (Text × ChangeKind) :=
  [("created", created), ("deleted", deleted), ("modified", modified), ("moved", moved)]

/-- A path, and whether it is spelled as that of a directory. -/
def readEntry (spelling : Text) : Path × Bool :=
  (.ofText spelling, Text.endsWith ['/'] spelling)

/-- A line that is not of the form of a change is left out. -/
def readDelivery? (line : Text) : Option (Time × FileChange) := do
  let (time, rest) ← Text.breakAt? ' ' line
  let (kind, spelling) ← Text.breakAt? ' ' rest
  if time.all Char.isDigit then
    let kind ← ChangeKind.spellings.lookup kind
    let (path, isDirectory) := readEntry spelling
    let moment := Text.numeralValue 10 time * (Time.perSecond / 1000)
    some (moment, { kind, path := some path, isDirectory })
  else none

/-- Everything below a directory by its path from there, a directory with a slash at its end. -/
def Disk.spellings (disk : Disk) (directory : Place) : List Text :=
  Text.sort <| (disk.below directory).map fun (names, node) =>
    Text.join ['/'] names ++ (if node == .directory then ['/'] else [])

namespace Listing

def ofText (t : Text) : Listing :=
  let lines := Text.lines t
  let entries := (lines.takeWhile (· ≠ [])).map readEntry
  let deliveries := (lines.dropWhile (· ≠ [])).filterMap readDelivery?
  { directories := (entries.filter (·.2)).map (·.1)
    files := (entries.filter (!·.2)).map (·.1)
    deliveries := deliveries.mergeSort fun a b => decide (a.1 ≤ b.1) }

def emptyDisk (workingDirectory : Place) (listing : Listing) : Disk :=
  (⟨.root, workingDirectory⟩ :: listing.directories).foldl
    (fun disk path => (disk.makeDirectories path).toOption.getD disk) { workingDirectory }

end Listing

end SceneScript
