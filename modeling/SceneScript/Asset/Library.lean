import SceneScript.Scene.Search

/-! # The asset library

What a scan of the asset folders found. Scene files count at any depth, all other assets only
directly in the folder of their kind.

* `Asset.inFolder` — the assets of one kind on a disk;
* `AssetLibrary.scan` — those of every kind;
* `AssetLibrary.find?`, `AssetLibrary.contains`, `AssetLibrary.path?` — queries, by the name of a
  file or by its path from the folder of its kind.

A folder that cannot be listed keeps a scan from its end.
-/

namespace SceneScript

structure Asset where
  type : AssetType
  fileName : Text
  fullPath : Path
  /-- The path from the folder of the kind. -/
  relativePath : Text
  deriving Repr, DecidableEq

namespace Asset

def isCalled (asset : Asset) (name : Text) : Bool :=
  asset.fileName = name || asset.relativePath = name

def ofScene (paths : ProjectPaths) (path : Path) : Asset where
  type := .scene
  fileName := path.name
  fullPath := path
  relativePath := Path.toText ⟨.relative, path.names.drop paths.sceneRoot.names.length⟩

/-- The asset of a kind that an entry of its folder is, unless it is a directory or has another
suffix. -/
def ofListed? (type : AssetType) (entry : DirectoryEntry) : Option Asset :=
  if !entry.isDirectory && type.extensions.contains (Text.lower (Path.suffixOfName entry.name)) then
    some { type, fileName := entry.name, fullPath := entry.path, relativePath := entry.name }
  else none

/-- A walk copes with what is too long below the scene root, but not with a scene root that is too
long itself. -/
def scenes (paths : ProjectPaths) (disk : Disk) : Except DiskError (List Asset) := do
  let found ← AssetType.scene.extensions.mapM (disk.walk paths.sceneRoot)
  return found.flatten.map (ofScene paths)

def files (paths : ProjectPaths) (disk : Disk) (type : AssetType) :
    Except DiskError (List Asset) := do
  let entries ← disk.list (paths.assetDirectory type)
  return entries.filterMap (ofListed? type)

def inFolder (paths : ProjectPaths) (disk : Disk) : AssetType → Except DiskError (List Asset)
  | .scene => scenes paths disk
  | type => files paths disk type

end Asset

/-- The assets found by a scan, in the order of their kinds. -/
structure AssetLibrary where
  assets : List Asset := []
  deriving Repr, DecidableEq

namespace AssetLibrary

/-- The library of what was found in each folder. -/
def ofFolders (found : AssetType → List Asset) : AssetLibrary := ⟨AssetType.all.flatMap found⟩

/-- Of several folders that cannot be listed the first one counts. -/
def scan (paths : ProjectPaths) (disk : Disk) : Except DiskError AssetLibrary := do
  let found ← AssetType.all.mapM (Asset.inFolder paths disk)
  return ⟨found.flatten⟩

def ofType (library : AssetLibrary) (type : AssetType) : List Asset :=
  library.assets.filter (·.type = type)

def size (library : AssetLibrary) : Nat := library.assets.length

def counts (library : AssetLibrary) : List (AssetType × Nat) :=
  AssetType.all.map fun type => (type, (library.ofType type).length)

/-- The first asset of that name, of any kind unless one is given. -/
def find? (library : AssetLibrary) (name : Text) (type : Option AssetType := none) :
    Option Asset :=
  let candidates :=
    match type with
    | some type => library.ofType type
    | none => library.assets
  candidates.find? (·.isCalled name)

def contains (library : AssetLibrary) (name : Text) (type : Option AssetType := none) : Bool :=
  (library.find? name type).isSome

def path? (library : AssetLibrary) (name : Text) (type : AssetType) : Option Path :=
  (library.find? name type).map (·.fullPath)

end AssetLibrary

end SceneScript
