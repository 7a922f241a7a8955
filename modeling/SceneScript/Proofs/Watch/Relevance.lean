import SceneScript.Proofs.Disk.Tree
import SceneScript.Watch.Rescan

/-! # Changes that matter

What a scan finds depends on the files in the asset folders. Each change of them calls for a rescan
that finds out about it: on a disk that is a tree, the names of a path tell where it leads, and a
file is told apart as a script by the same ending that a scan looks for.

* `Disk.Holds` — what stands at a path lies in a folder;
* `Watch.Concerns` — a change that matters, and the rescans of which any makes up for it;
* `Watch.rescanFor?_of_concerns` — such a change calls for one of these.
-/

namespace SceneScript

/-- What stands at `path` lies in the directory at `folder`, or is that directory. -/
def Disk.Holds (disk : Disk) (folder path : Path) : Prop :=
  ∃ root place node, disk.find? folder = some (root, .directory) ∧
    disk.find? path = some (place, node) ∧ root <+: place

namespace Watch

/-- A change of what a scan finds on a disk, and the rescans that find out about it. What is deleted
was there before, and what is created or modified is there. -/
inductive Concerns (paths : ProjectPaths) (disk : Disk) : FileChange → List Rescan → Prop where
  | moved {change : FileChange} (kind : change.kind = .moved) :
      Concerns paths disk change [.everything]
  | created {change : FileChange} {path : Path} {type : AssetType} (kind : change.kind = .created)
      (named : change.path = some path) (holds : disk.Holds (paths.assetDirectory type) path) :
      Concerns paths disk change [.everything]
  | deleted {change : FileChange} {path : Path} {type : AssetType} (kind : change.kind = .deleted)
      (named : change.path = some path) (holds : disk.Holds (paths.assetDirectory type) path) :
      Concerns paths disk change [.everything]
  /-- A file that a full scan reads, by whatever path. -/
  | script {change : FileChange} {path listed : Path} (kind : change.kind = .modified)
      (named : change.path = some path) (isFile : change.isDirectory = false)
      (there : disk.isFile path = true)
      (indexed : listed ∈ disk.filesBelow paths.sceneRoot AssetType.sceneExtension)
      (same : listed.absolute disk.workingDirectory = path.absolute disk.workingDirectory) :
      Concerns paths disk change [.everything, .script path]
  | asset {change : FileChange} {path : Path} {type : AssetType} (kind : change.kind = .modified)
      (named : change.path = some path) (isFile : change.isDirectory = false)
      (other : type ≠ .scene) (holds : disk.Holds (paths.assetDirectory type) path) :
      Concerns paths disk change [.everything, .assets]

variable {paths : ProjectPaths} {disk : Disk} {path : Path} {type : AssetType}

theorem hasNull_eq_false_of_find? {found : Place × Node} (finds : disk.find? path = some found) :
    path.hasNull = false :=
  (Disk.of_follow (Disk.find?_eq_some_iff.mp finds).1).1

theorem folder_ne_parentName (type : AssetType) : type.folder ≠ Path.parentName := by
  cases type <;> decide

/-- The place of an asset folder lies directly in that of the game directory. -/
theorem names_absolute_assetDirectory (workingDirectory : Place) (paths : ProjectPaths)
    (type : AssetType) :
    ((paths.assetDirectory type).absolute workingDirectory).names =
      (paths.gameDirectory.absolute workingDirectory).names ++ [type.folder] := by
  have sameKind : (paths.assetDirectory type).isAbsolute = paths.gameDirectory.isAbsolute := rfl
  exact Path.names_absolute_append sameKind rfl (by simp [Ne.symm (folder_ne_parentName type)])

theorem assetTypeOfPath?_of_holds (tree : disk.IsTree)
    (holds : disk.Holds (paths.assetDirectory type) path) :
    paths.assetTypeOfPath? disk.workingDirectory path = some type := by
  obtain ⟨root, place, node, foundFolder, foundPath, more, below⟩ := holds
  have noNull := hasNull_eq_false_of_find? foundPath
  have noNullToo : paths.gameDirectory.hasNull = false := by
    have folder := hasNull_eq_false_of_find? foundFolder
    simp only [ProjectPaths.assetDirectory, Path.child, Path.hasNull, List.any_append,
      Bool.or_eq_false_iff] at folder
    exact folder.1
  have folderPlace := Disk.absolute_of_find? tree foundFolder
  rw [names_absolute_assetDirectory] at folderPlace
  have names : (path.absolute disk.workingDirectory).names =
      (paths.gameDirectory.absolute disk.workingDirectory).names ++ type.folder :: more := by
    rw [Disk.absolute_of_find? tree foundPath, ← below, ← folderPlace, List.append_assoc]
    rfl
  have within := Path.below?_absolute.mpr names
  rw [ProjectPaths.assetTypeOfPath?, if_neg (by simp [noNull, noNullToo]), within]
  exact AssetType.ofName?_name type

/-- A path to a file ends in the name of the file. -/
theorem name_of_find?_file (tree : disk.IsTree) {place : Place} {content : FileContent}
    (found : disk.find? path = some (place, .file content)) : place.getLast? = some path.name := by
  obtain ⟨follows, there⟩ := Disk.find?_eq_some_iff.mp found
  by_cases unnamed : ∀ front name, path.names = front ++ [name] → name = Path.parentName
  · rw [tree.isDirectory_of_follow follows unnamed] at there
    cases there
  · simp only [Classical.not_forall] at unnamed
    obtain ⟨front, name, names, ne⟩ := unnamed
    obtain ⟨above, -, leads⟩ := Disk.of_follow_append follows names
    rw [leads, if_neg ne, Path.name, names]
    simp

theorem isSceneFile_of_indexed (tree : disk.IsTree) {listed : Path}
    (there : disk.isFile path = true)
    (indexed : listed ∈ disk.filesBelow paths.sceneRoot AssetType.sceneExtension)
    (same : listed.absolute disk.workingDirectory = path.absolute disk.workingDirectory) :
    paths.isSceneFile disk.workingDirectory path = true := by
  obtain ⟨place, content, found⟩ := Disk.isFile_iff.mp there
  obtain ⟨root, names, other, foundRoot, -, nonempty, member, ends, rfl⟩ :=
    Disk.mem_filesBelow.mp indexed
  have noParent := tree.parentName_notMem member
  have absent : Path.parentName ∉ names := fun inNames =>
    noParent (List.mem_append_right _ inNames)
  -- Both paths lead to the same place, below the scene root.
  have leads : place = root ++ names := by
    have listedPlace :
        ((Disk.pathBelow paths.sceneRoot names).absolute disk.workingDirectory).names =
        (paths.sceneRoot.absolute disk.workingDirectory).names ++ names :=
      Path.names_absolute_append rfl rfl absent
    rw [Disk.absolute_of_find? tree foundRoot] at listedPlace
    rw [← Disk.absolute_of_find? tree found, ← same, listedPlace]
  have sameName : names.getLast? = some path.name := by
    rw [← name_of_find?_file tree found, leads, List.getLast?_append,
      List.getLast?_eq_some_getLast nonempty, Option.some_or]
  have suffix : Text.lower path.suffix = AssetType.sceneExtension := by
    have ends : Text.lower path.suffix = Text.lower AssetType.sceneExtension := by
      simpa [Disk.hasSuffix, sameName, Path.suffix] using ends
    exact ends
  have inScenes : paths.assetTypeOfPath? disk.workingDirectory path = some .scene :=
    assetTypeOfPath?_of_holds tree ⟨root, place, _, foundRoot, found, names, leads.symm⟩
  simp [ProjectPaths.isSceneFile, suffix, inScenes]

/-- A rescan makes up for another one if it is the same, or of everything. -/
def Covers (cover rescan : Rescan) : Prop := cover = .everything ∨ cover = rescan

theorem rescanFor?_of_concerns (tree : disk.IsTree) {change : FileChange} {rescans : List Rescan}
    (concerns : Concerns paths disk change rescans) :
    ∃ rescan, paths.rescanFor? disk.workingDirectory change = some rescan ∧
      ∀ cover, Covers cover rescan → cover ∈ rescans := by
  cases concerns with
  | moved kind =>
    refine ⟨.everything, ?_, by simp [Covers]⟩
    simp [ProjectPaths.rescanFor?, kind]
  | created kind named holds =>
    refine ⟨.everything, ?_, by simp [Covers]⟩
    simp [ProjectPaths.rescanFor?, kind, named, assetTypeOfPath?_of_holds tree holds]
  | deleted kind named holds =>
    refine ⟨.everything, ?_, by simp [Covers]⟩
    simp [ProjectPaths.rescanFor?, kind, named, assetTypeOfPath?_of_holds tree holds]
  | @script path listed kind named isFile there indexed same =>
    refine ⟨.script path, ?_, by simp [Covers]⟩
    simp [ProjectPaths.rescanFor?, kind, named, isFile,
      isSceneFile_of_indexed tree there indexed same]
  | @asset path type kind named isFile other holds =>
    refine ⟨.assets, ?_, by simp [Covers]⟩
    have inFolder := assetTypeOfPath?_of_holds tree holds
    have noScene : paths.isSceneFile disk.workingDirectory path = false := by
      simp [ProjectPaths.isSceneFile, inFolder, other]
    simp only [ProjectPaths.rescanFor?, kind, named, isFile, noScene, inFolder, Bool.false_eq_true,
      if_false]

end Watch

end SceneScript
