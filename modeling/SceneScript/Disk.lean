import SceneScript.OrderedMap
import SceneScript.Path
import SceneScript.Text.Quoted

/-! # A disk

A disk is a tree of directories and files without links, given by the node at each place. A place
is the list of names that leads to it from the root.

* `Disk.follow` — from a path to a place, failing where a directory is missing;
* `Disk.ask` — what stands at a path, which fails only where a name is too long;
* `Disk.isPresent`, `Disk.isFile`, `Disk.isDirectory`, `Disk.readText` — questions, which never
  fail;
* `Disk.entries`, `Disk.filesBelow` — what a directory holds, and the files below it;
* `Disk.askFile`, `Disk.list`, `Disk.walk` — the same as operations, which fail where the disk is
  asked for too long a path;
* `Disk.writeText`, `Disk.makeDirectory`, `Disk.makeDirectories`, `Disk.remove` — changes;
* `Disk.buildDirectories` — what is left where some of the directories could be made;
* `Disk.changesFrom` — the nodes in which a disk differs from an earlier one.

A file that is not valid text reads as the empty text, and every line ending reads as a line feed.
-/

namespace SceneScript

abbrev Place := List Text

inductive FileContent where
  | text (content : Text)
  | undecodable (bytes : List UInt8)
  deriving Repr, DecidableEq

inductive Node where
  | file (content : FileContent)
  | directory
  deriving Repr, DecidableEq

structure Disk where
  /-- Every node but the root, which is a directory. -/
  nodes : OrderedMap Place Node := ∅
  workingDirectory : Place := []
  deriving Repr, DecidableEq

/-! ## Failures -/

inductive DiskFault where
  | notFound
  | alreadyExists
  | notDirectory
  | isDirectory
  | nullCharacter
  | nameTooLong
  deriving Repr, DecidableEq

structure DiskError where
  fault : DiskFault
  path : Path
  deriving Repr, DecidableEq

/-- A disk as a change leaves it, and the error if the change failed. -/
structure DiskOutcome where
  disk : Disk
  error? : Option DiskError := none
  deriving Repr, DecidableEq

def DiskOutcome.result (outcome : DiskOutcome) : Except DiskError Disk :=
  match outcome.error? with
  | none => .ok outcome.disk
  | some e => .error e

/-- The number and the words that systems give to a fault. -/
def DiskFault.describe : DiskFault → Text
  | .notFound => "[Errno 2] No such file or directory"
  | .alreadyExists => "[Errno 17] File exists"
  | .notDirectory => "[Errno 20] Not a directory"
  | .isDirectory => "[Errno 21] Is a directory"
  | .nameTooLong => "[Errno 36] File name too long"
  | .nullCharacter => "embedded null byte"

/-! ## Texts of files -/

/-- Every line ending becomes a line feed. -/
def Text.unifyNewlines : Text → Text
  | [] => []
  | '\r' :: '\n' :: rest => '\n' :: unifyNewlines rest
  | '\r' :: rest => '\n' :: unifyNewlines rest
  | c :: rest => c :: unifyNewlines rest

namespace FileContent

def readable : FileContent → Text
  | .text content => Text.unifyNewlines content
  | .undecodable _ => []

def ofBytes (bytes : List UInt8) : FileContent :=
  match String.fromUTF8? ⟨bytes.toArray⟩ with
  | some decoded => .text decoded.toList
  | none => .undecodable bytes

def bytesOf (t : Text) : List UInt8 := (String.ofList t).toUTF8.toList

def bytes : FileContent → List UInt8
  | .text content => bytesOf content
  | .undecodable bytes => bytes

/-- A text after what is there. -/
def append (content : FileContent) (t : Text) : FileContent :=
  match content with
  | .text before => .text (before ++ t)
  | .undecodable bytes => .undecodable (bytes ++ bytesOf t)

end FileContent

structure DirectoryEntry where
  name : Text
  path : Path
  isDirectory : Bool
  deriving Repr, DecidableEq

namespace Disk

def node? (disk : Disk) (place : Place) : Option Node :=
  if place = [] then some .directory else disk.nodes.get? place

/-! ## From paths to places -/

/-- How many bytes a name may have. -/
def longestName : Nat := 255

/-- How many bytes the text of a path may have. -/
def longestPath : Nat := 4095

def byteCount (t : Text) : Nat := (String.ofList t).utf8ByteSize

/-- Every name is looked up in a directory that exists, except that the last one may be new. -/
def followFrom (disk : Disk) (place : Place) : List Text → Except DiskFault Place
  | [] => .ok place
  | name :: rest =>
    match disk.node? place with
    | none => .error .notFound
    | some (.file _) => .error .notDirectory
    | some .directory =>
      if longestName < byteCount name then .error .nameTooLong
      else disk.followFrom (if name = Path.parentName then place.dropLast else place ++ [name]) rest

def start (disk : Disk) (path : Path) : Place :=
  if path.isAbsolute then [] else disk.workingDirectory

def follow (disk : Disk) (path : Path) : Except DiskFault Place :=
  if path.hasNull then .error .nullCharacter
  else if longestPath < byteCount path.toText then .error .nameTooLong
  else disk.followFrom (disk.start path) path.names

/-- The place and the node of a path that exists. -/
def find (disk : Disk) (path : Path) : Except DiskFault (Place × Node) := do
  let place ← disk.follow path
  match disk.node? place with
  | some node => return (place, node)
  | none => throw .notFound

def find? (disk : Disk) (path : Path) : Option (Place × Node) := (disk.find path).toOption

/-! ## Questions -/

/-- What stands at a path, if anything. -/
def ask (disk : Disk) (path : Path) : Except DiskError (Option Node) :=
  match disk.find path with
  | .ok (_, node) => .ok (some node)
  | .error .nameTooLong => .error ⟨.nameTooLong, path⟩
  | .error _ => .ok none

def isPresent (disk : Disk) (path : Path) : Bool := (disk.find? path).isSome

def isFile (disk : Disk) (path : Path) : Bool :=
  match disk.find? path with
  | some (_, .file _) => true
  | _ => false

def isDirectory (disk : Disk) (path : Path) : Bool :=
  match disk.find? path with
  | some (_, .directory) => true
  | _ => false

/-- Whether a file stands at a path, if the disk can say so. -/
def askFile (disk : Disk) (path : Path) : Except DiskError Bool :=
  (disk.ask path).map fun
    | some (.file _) => true
    | _ => false

def content? (disk : Disk) (path : Path) : Except DiskFault FileContent := do
  match ← disk.find path with
  | (_, .file content) => return content
  | (_, .directory) => throw .isDirectory

def readText (disk : Disk) (path : Path) : Text :=
  match disk.content? path with
  | .ok content => content.readable
  | .error _ => []

/-- The places below a directory, each as the names that lead to it from there. -/
def below (disk : Disk) (place : Place) : List (List Text × Node) :=
  disk.nodes.entries.filterMap fun (other, node) =>
    if place <+: other ∧ other ≠ place then some (other.drop place.length, node) else none

/-- What a directory holds, by name; nothing where there is no directory. -/
def entries (disk : Disk) (path : Path) : List DirectoryEntry :=
  match disk.find? path with
  | some (place, .directory) =>
    let entries := (disk.below place).filterMap fun (names, node) =>
      match names with
      | [name] => some ⟨name, path.child name, node == .directory⟩
      | _ => none
    entries.mergeSort fun a b => Text.ble a.name b.name
  | _ => []

/-- Asks whether an entry is a directory, which cannot be said where its path is too long. -/
def lookAt (entry : DirectoryEntry) : Except DiskError DirectoryEntry :=
  if longestPath < byteCount entry.path.toText then .error ⟨.nameTooLong, entry.path⟩
  else .ok entry

/-- Lists a directory and looks at each of its entries. A path with the null character is not even
looked up. -/
def list (disk : Disk) (path : Path) : Except DiskError (List DirectoryEntry) :=
  if path.hasNull then .error ⟨.nullCharacter, path⟩ else (disk.entries path).mapM lookAt

def hasSuffix (suffix name : Text) : Bool :=
  Text.lower (Path.suffixOfName name) = Text.lower suffix

/-- The path of what lies below a directory. -/
def pathBelow (path : Path) (names : List Text) : Path := ⟨path.anchor, path.names ++ names⟩

/-- Whether something at or below a place has too long a path when it is reached through `path`. -/
def reachesTooFar (disk : Disk) (path : Path) (place : Place) : Bool :=
  (disk.below place).any fun (names, _) => longestPath < byteCount (pathBelow path names).toText

/-- The files below a directory whose names end in `suffix`, in any letter case. Nothing is listed
where the disk cannot look at everything below the directory. -/
def filesBelow (disk : Disk) (path : Path) (suffix : Text) : List Path :=
  match disk.find? path with
  | some (place, .directory) =>
    if disk.reachesTooFar path place then []
    else
      Path.sort <| (disk.below place).filterMap fun (names, node) =>
        match node with
        | .file _ =>
          if hasSuffix suffix (names.getLast?.getD []) then some (pathBelow path names) else none
        | .directory => none
  | _ => []

/-- Lists the files below a directory, having asked whether it is there. -/
def walk (disk : Disk) (path : Path) (suffix : Text) : Except DiskError (List Path) :=
  (disk.ask path).map fun _ => disk.filesBelow path suffix

/-! ## Changes -/

def put (disk : Disk) (place : Place) (node : Node) : Disk :=
  { disk with nodes := disk.nodes.insert place node }

def fail {α : Type} (path : Path) : Except DiskFault α → Except DiskError α
  | .ok a => .ok a
  | .error fault => .error ⟨fault, path⟩

/-- Replaces the content of a file, or makes a new file in a directory that exists. -/
def write (disk : Disk) (path : Path) (content : FileContent) : Except DiskError Disk :=
  fail path do
    let place ← disk.follow path
    match disk.node? place with
    | some .directory => throw .isDirectory
    | _ => return disk.put place (.file content)

def writeText (disk : Disk) (path : Path) (content : Text) : Except DiskError Disk :=
  disk.write path (.text content)

def makeDirectory (disk : Disk) (path : Path) : Except DiskError Disk :=
  fail path do
    let place ← disk.follow path
    match disk.node? place with
    | some _ => throw .alreadyExists
    | none => return disk.put place .directory

/-- Makes a directory if it is missing. -/
def ensureDirectory (disk : Disk) (path : Path) : Except DiskError Disk :=
  match disk.makeDirectory path with
  | .ok disk => .ok disk
  | .error e =>
    if e.fault ≠ .notFound ∧ e.fault ≠ .nullCharacter ∧ disk.isDirectory path then .ok disk
    else .error e

/-- A change that fails leaves the disk as it is. -/
def attempt (disk : Disk) (change : Except DiskError Disk) : DiskOutcome :=
  match change with
  | .ok changed => { disk := changed }
  | .error e => { disk, error? := some e }

/-- Makes a directory and those above it if they are missing. Where one of them cannot be made,
those above it stay. -/
def buildDirectories (disk : Disk) (path : Path) : DiskOutcome :=
  match disk.ensureDirectory path with
  | .ok changed => { disk := changed }
  | .error e =>
    if e.fault = .notFound ∧ path.names ≠ [] then
      let above := disk.buildDirectories path.parent
      match above.error? with
      | none => above.disk.attempt (above.disk.ensureDirectory path)
      | some _ => above
    else { disk, error? := some e }
termination_by path.names.length
decreasing_by
  rename_i h
  have := List.length_pos_iff.2 h.2
  simp only [Path.parent, List.length_dropLast]
  omega

/-- The disk with a directory and those above it, if they can all be made. -/
def makeDirectories (disk : Disk) (path : Path) : Except DiskError Disk :=
  (disk.buildDirectories path).result

/-- Puts a file where there may be no directory yet; the disk stays as it is if that fails. -/
def supply (disk : Disk) (path : Path) (content : FileContent) : Disk :=
  match disk.makeDirectories path.parent with
  | .ok disk => (disk.write path content).toOption.getD disk
  | .error _ => disk

/-- Removes a place and everything below it. -/
def removeAt (disk : Disk) (place : Place) : Disk :=
  { disk with nodes := ⟨disk.nodes.entries.filter fun (other, _) => ¬ place <+: other⟩ }

def remove (disk : Disk) (path : Path) : Except DiskError Disk :=
  fail path do
    let (place, _) ← disk.find path
    return disk.removeAt place

/-- Moves a file or a tree to another place, whose directory must exist. -/
def move (disk : Disk) (path destination : Path) : Except DiskError Disk := do
  let (source, _) ← fail path (disk.find path)
  let target ← fail destination (disk.follow destination)
  let moved := disk.nodes.entries.filterMap fun (place, node) =>
    if source <+: place then some (target ++ place.drop source.length, node) else none
  let rest := (disk.removeAt source).removeAt target
  return moved.foldl (fun disk (place, node) => disk.put place node) rest

/-! ## Differences -/

/-- The nodes that are new or have a new content. -/
def changesFrom (disk before : Disk) : List (Place × Node) :=
  disk.nodes.entries.filter fun (place, node) => before.nodes.get? place ≠ some node

end Disk

def DiskError.message (e : DiskError) : Text :=
  match e.fault with
  | .nullCharacter => e.fault.describe
  | fault => fault.describe ++ ": " ++ Text.quoted e.path.toText

end SceneScript
