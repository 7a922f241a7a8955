import SceneScript.Tool.Listing
import SceneScript.Tool.Run
import Std.Time.Zoned

/-! # The program

Performs the task that the arguments ask for. The files and directories that it may look at are
listed on standard input, as described for `Listing`; what the task changes is written back.
-/

namespace SceneScript

/-- The variables that have a meaning for the program. -/
def variableNames : List Text :=
  Environment.homeName :: configVariable ::
    Field.all.map fun f => Text.upper (variablePrefix ++ f.name)

def readEnvironment : IO Environment := do
  let directory ← IO.currentDir
  let values ← variableNames.filterMapM fun name => do
    return (← IO.getEnv name.toString).map fun value => (name, value.toList)
  return {
    bindings := .ofList values
    workingDirectory := (Path.ofText (toString directory).toList).names }

def readFiles (files : List Path) (disk : Disk) : IO Disk :=
  files.foldlM
    (fun disk path => do
      let bytes ← IO.FS.readBinFile path.toText.toString
      return disk.supply path (.ofBytes bytes.toList)) disk

def writeNode (place : Place) (node : Node) : IO Unit :=
  let spelling := (Path.toText ⟨.root, place⟩).toString
  match node with
  | .directory => IO.FS.createDirAll spelling
  | .file content => IO.FS.writeBinFile spelling ⟨content.bytes.toArray⟩

def readToday : IO CalendarDate := do
  let date ← Std.Time.PlainDate.now
  return ⟨date.year.toInt.toNat, date.month.val.toNat, date.day.val.toNat⟩

def runProgram (arguments : List String) : IO UInt32 := do
  let environment ← readEnvironment
  let listing := Listing.ofText (← (← IO.getStdin).readToEnd).toList
  let disk ← readFiles listing.files (listing.emptyDisk environment.workingDirectory)
  let occasion : Occasion := { today := ← readToday, deliveries := listing.deliveries }
  let reply := runArguments occasion ⟨environment, disk⟩ (arguments.map String.toList)
  for (place, node) in reply.disk.changesFrom disk do
    writeNode place node
  IO.print reply.output.toString
  return .ofNat reply.status

end SceneScript

def main (arguments : List String) : IO UInt32 := SceneScript.runProgram arguments
