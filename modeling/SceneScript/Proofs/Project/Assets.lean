import SceneScript.Proofs.Diagnostic.Collaborators
import SceneScript.Proofs.Diagnostic.Shape
import SceneScript.Proofs.Project.Listing

/-! # What counts as an asset

A scan that comes to its end knows the assets that the folders hold: a scene by its file name or by
its path from the scene root, any other asset by its name. If the path of something below the scene
root is too long for the disk, no scene is known.

* `ProjectPaths.HasAsset` — the assets that the folders hold, by what they are called;
* `ProjectPaths.IsListable`, `AssetLibrary.exists_scan_iff_isListable` — when a scan succeeds;
* `AssetLibrary.contains_scan`, `AssetLibrary.contains_scan_scene` — what a scan finds;
* `Checker.exists_resourceNotFound_iff` — when a command line is told that its file is missing;
* `Project.assets_match_disk` — the assets of a project and the resources that it misses;
* `Project.not_forall_hasAsset_scene` — one path that is too long hides every scene.
-/

namespace SceneScript

/-! ## Folders -/

namespace ProjectPaths

/-- The folder of a kind holds an asset that is called so. Scenes may lie at any depth and are
called by their file names or by their paths from the scene root. -/
def HasAsset (paths : ProjectPaths) (disk : Disk) (type : AssetType) (name : Text) : Prop :=
  match type with
  | .scene => ∃ names content, paths.HasScene disk names content ∧
      (names.getLast? = some name ∨ Path.toText ⟨.relative, names⟩ = name)
  | type => ∃ folder content, disk.find? (paths.assetDirectory type) = some (folder, .directory) ∧
      disk.node? (folder ++ [name]) = some (.file content) ∧
      Text.lower (Path.suffixOfName name) ∈ type.extensions

/-- The disk can say of every entry of an asset folder what it is, and of the scene root whether it
is there. -/
structure IsListable (paths : ProjectPaths) (disk : Disk) : Prop where
  named : paths.gameDirectory.hasNull = false
  entries : ∀ type ≠ .scene, ∀ folder name node,
    disk.find? (paths.assetDirectory type) = some (folder, .directory) →
    disk.node? (folder ++ [name]) = some node →
      Disk.byteCount ((paths.assetDirectory type).child name).toText ≤ Disk.longestPath
  root : ∃ node?, disk.ask paths.sceneRoot = .ok node?

variable {paths : ProjectPaths} {disk : Disk} {type : AssetType}

theorem hasNull_assetDirectory (paths : ProjectPaths) (type : AssetType) :
    (paths.assetDirectory type).hasNull = paths.gameDirectory.hasNull := by
  have folder : type.folder.contains '\x00' = false := by cases type <;> decide
  simp only [Path.hasNull, assetDirectory, Path.child, List.any_append, List.any_cons,
    List.any_nil, folder, Bool.or_false]

/-- It is enough to look at the entries of the disk one by one. -/
theorem isListable_of_entries (named : paths.gameDirectory.hasNull = false)
    (short : ∀ type ∈ AssetType.all, type ≠ .scene → ∀ entry ∈ disk.nodes.entries,
      disk.find? (paths.assetDirectory type) = some (entry.1.dropLast, .directory) →
        Disk.byteCount ((paths.assetDirectory type).child (entry.1.getLast?.getD [])).toText ≤
          Disk.longestPath)
    (root : (disk.ask paths.sceneRoot).toOption ≠ none) : paths.IsListable disk := by
  obtain ⟨node?, answer⟩ := Option.ne_none_iff_exists'.mp root
  refine ⟨named, fun type other folder name node found there => ?_,
    ⟨node?, eq_ok_of_toOption answer⟩⟩
  obtain ⟨entry, member, place⟩ := Disk.exists_entry there (by simp)
  have front : entry.1.dropLast = folder := by rw [place, List.dropLast_concat]
  have last : entry.1.getLast?.getD [] = name := by rw [place, List.getLast?_concat]; rfl
  have bound := short type (AssetType.mem_all type) other entry member
  rw [front, last] at bound
  exact bound found

end ProjectPaths

/-! ## Queries of a library -/

namespace AssetLibrary

variable {library : AssetLibrary} {paths : ProjectPaths} {disk : Disk} {name : Text}
  {type : AssetType}

theorem contains_type_iff :
    library.contains name (some type) = true ↔
      ∃ asset ∈ library.ofType type, asset.isCalled name = true := by
  simp [contains, find?]

theorem contains_iff :
    library.contains name = true ↔ ∃ type, library.contains name (some type) = true := by
  have found : library.contains name = true ↔
      ∃ asset ∈ library.assets, asset.isCalled name = true := by
    simp [contains, find?]
  simp only [found, contains_type_iff, ofType, List.mem_filter]
  constructor
  · rintro ⟨asset, member, called⟩
    exact ⟨asset.type, asset, ⟨member, decide_eq_true rfl⟩, called⟩
  · rintro ⟨type, asset, ⟨member, -⟩, called⟩
    exact ⟨asset, member, called⟩

/-! ## Scans -/

/-- A scan succeeds if every folder can be listed. -/
theorem exists_scan_iff_isListable (wellFormed : disk.WellFormed) :
    (∃ library, scan paths disk = .ok library) ↔ paths.IsListable disk := by
  have listed (type : AssetType) (other : type ≠ .scene) :
      (∃ assets, Asset.inFolder paths disk type = .ok assets) ↔
        paths.gameDirectory.hasNull = false ∧ ∀ folder name node,
          disk.find? (paths.assetDirectory type) = some (folder, .directory) →
          disk.node? (folder ++ [name]) = some node →
            Disk.byteCount ((paths.assetDirectory type).child name).toText ≤ Disk.longestPath := by
    simp only [Asset.inFolder_eq_files other, Asset.files_eq_ok_iff, exists_and_left, exists_eq',
      and_true, Disk.exists_list_iff wellFormed.distinct, ProjectPaths.hasNull_assetDirectory]
  have scenes : (∃ assets, Asset.inFolder paths disk .scene = .ok assets) ↔
      ∃ node?, disk.ask paths.sceneRoot = .ok node? := by
    simp only [Asset.inFolder, Asset.scenes_eq_ok_iff, exists_and_left, exists_eq', and_true,
      Disk.exists_ask_iff]
  rw [exists_scan_iff]
  constructor
  · intro each
    have files (type : AssetType) (other : type ≠ .scene) := (listed type other).mp (each type)
    exact ⟨(files .background (by decide)).1, fun type other => (files type other).2,
      scenes.mp (each .scene)⟩
  · intro listable type
    by_cases scene : type = .scene
    · subst scene
      exact scenes.mpr listable.root
    · exact (listed type scene).mpr ⟨listable.named, listable.entries type scene⟩

section Scanned

variable {found : List Asset}

theorem mem_files (wellFormed : disk.WellFormed) (listed : Asset.files paths disk type = .ok found)
    {asset : Asset} :
    asset ∈ found ↔ ∃ folder name content,
      disk.find? (paths.assetDirectory type) = some (folder, .directory) ∧
      disk.node? (folder ++ [name]) = some (.file content) ∧
      Text.lower (Path.suffixOfName name) ∈ type.extensions ∧
      asset = ⟨type, name, (paths.assetDirectory type).child name, name⟩ := by
  obtain ⟨-, rfl⟩ := Asset.files_eq_ok_iff.mp listed
  simp only [List.mem_filterMap, Disk.mem_entries wellFormed.distinct]
  constructor
  · rintro ⟨entry, ⟨folder, name, node, found, there, rfl⟩, is⟩
    obtain ⟨ends, same⟩ := Option.ite_none_right_eq_some.mp is
    cases node with
    | directory => simp at ends
    | file content =>
      refine ⟨folder, name, content, found, there, by simpa using ends, ?_⟩
      exact (Option.some.inj same).symm
  · rintro ⟨folder, name, content, found, there, ends, rfl⟩
    refine ⟨_, ⟨folder, name, _, found, there, rfl⟩, ?_⟩
    simp [Asset.ofListed?, ends]

theorem contains_scan (wellFormed : disk.WellFormed) (scanned : scan paths disk = .ok library)
    (other : type ≠ .scene) :
    library.contains name (some type) = true ↔ paths.HasAsset disk type name := by
  have listed := AssetLibrary.inFolder_of_scan scanned type
  rw [Asset.inFolder_eq_files other] at listed
  have held : paths.HasAsset disk type name ↔ ∃ folder content,
      disk.find? (paths.assetDirectory type) = some (folder, .directory) ∧
        disk.node? (folder ++ [name]) = some (.file content) ∧
        Text.lower (Path.suffixOfName name) ∈ type.extensions := by
    cases type <;> first | exact Iff.rfl | contradiction
  rw [contains_type_iff, held]
  constructor
  · rintro ⟨asset, member, called⟩
    obtain ⟨folder, found, content, directory, there, ends, rfl⟩ :=
      (mem_files wellFormed listed).mp member
    obtain rfl : found = name := by simpa [Asset.isCalled] using called
    exact ⟨folder, content, directory, there, ends⟩
  · rintro ⟨folder, content, directory, there, ends⟩
    exact ⟨_, (mem_files wellFormed listed).mpr
      ⟨folder, name, content, directory, there, ends, rfl⟩, by simp [Asset.isCalled]⟩

theorem mem_scenes (wellFormed : disk.WellFormed) (listed : Asset.scenes paths disk = .ok found)
    {asset : Asset} :
    asset ∈ found ↔
      paths.IsInReach disk ∧ ∃ names content, paths.HasScene disk names content ∧
        asset = ⟨.scene, names.getLast?.getD [], Disk.pathBelow paths.sceneRoot names,
          Path.toText ⟨.relative, names⟩⟩ := by
  obtain ⟨-, rfl⟩ := Asset.scenes_eq_ok_iff.mp listed
  have shown {names : List Text} {content : FileContent}
      (scene : paths.HasScene disk names content) :
      Asset.ofScene paths (Disk.pathBelow paths.sceneRoot names) =
        ⟨.scene, names.getLast?.getD [], Disk.pathBelow paths.sceneRoot names,
          Path.toText ⟨.relative, names⟩⟩ := by
    simp [Asset.ofScene, Disk.pathBelow, Path.name, List.getLast?_eq_some_getLast scene.ne_nil]
  rw [List.mem_map]
  constructor
  · rintro ⟨path, walked, rfl⟩
    obtain ⟨reach, names, content, scene, rfl⟩ :=
      (ProjectPaths.mem_filesBelow_sceneRoot wellFormed).mp walked
    exact ⟨reach, names, content, scene, shown scene⟩
  · rintro ⟨reach, names, content, scene, rfl⟩
    exact ⟨_, (ProjectPaths.mem_filesBelow_sceneRoot wellFormed).mpr
      ⟨reach, names, content, scene, rfl⟩, shown scene⟩

theorem contains_scan_scene (wellFormed : disk.WellFormed)
    (scanned : scan paths disk = .ok library) :
    library.contains name (some .scene) = true ↔
      paths.IsInReach disk ∧ paths.HasAsset disk .scene name := by
  have last {names : List Text} {content : FileContent}
      (scene : paths.HasScene disk names content) :
      names.getLast?.getD [] = name ↔ names.getLast? = some name := by
    simp [List.getLast?_eq_some_getLast scene.ne_nil]
  have listed : Asset.scenes paths disk = .ok (library.ofType .scene) :=
    AssetLibrary.inFolder_of_scan scanned .scene
  rw [contains_type_iff]
  constructor
  · rintro ⟨asset, member, called⟩
    obtain ⟨reach, names, content, scene, rfl⟩ := (mem_scenes wellFormed listed).mp member
    simp only [Asset.isCalled, Bool.or_eq_true, decide_eq_true_eq, last scene] at called
    exact ⟨reach, names, content, scene, called⟩
  · rintro ⟨reach, names, content, scene, called⟩
    refine ⟨_, (mem_scenes wellFormed listed).mpr ⟨reach, names, content, scene, rfl⟩, ?_⟩
    simpa only [Asset.isCalled, Bool.or_eq_true, decide_eq_true_eq, last scene] using called

end Scanned

end AssetLibrary

/-! ## Missing resources -/

namespace Checker

variable {checker : Checker}

theorem missingResource?_eq_some_iff {command content : Text} {finding : Finding} :
    checker.missingResource? true command content = some finding ↔
      finding = .resourceNotFound content ∧ ∃ type, assetTypeOfCommand? command = some type ∧
        content ≠ [] ∧ content ≠ emptySlot ∧ checker.stores content type = false := by
  rw [missingResource?_eq, Option.bind_eq_some_iff]
  constructor
  · rintro ⟨type, shows, found⟩
    split at found
    next missing =>
      simp only [Bool.true_and, Bool.and_eq_true, decide_eq_true_eq, Bool.not_eq_true'] at missing
      exact ⟨(Option.some.inj found).symm, type, shows, missing.1.1, missing.1.2, missing.2⟩
    next => cases found
  · rintro ⟨rfl, type, shows, nonempty, named, missing⟩
    exact ⟨type, shows, by simp [nonempty, named, missing]⟩

theorem exists_resourceNotFound_iff (text file : Text) {line : Line}
    (inScript : line ∈ Script.parse checker.vocabulary text) {command content : Text}
    {arguments : Arguments} (statement : line.statement = .command command content arguments)
    (known : checker.commands.contains command = true) :
    (∃ d ∈ checker.diagnose text file true,
        d.number = line.number ∧ d.code = .resourceNotFound) ↔
      ∃ type, assetTypeOfCommand? command = some type ∧
        content ≠ [] ∧ content ≠ emptySlot ∧ checker.stores content type = false := by
  let labels := ((Script.parse checker.vocabulary text).labels file).map (·.name)
  have found : checker.foundOn true labels file line .resourceNotFound =
      ((checker.missingResource? true command content).map
        (·.on file line (line.contentSpan content.length))).toList := by
    simp [foundOn, statement, known]
  have checks (d : Diagnostic) (code : d.code = .resourceNotFound) :
      d ∈ checker.diagnose text file true ∧ d.number = line.number ↔
        d ∈ checker.checkLine true labels file line := by
    rw [← filter_checks_diagnose text inScript, List.mem_filter]
    simp [code]
  constructor
  · rintro ⟨d, member, number, code⟩
    have onLine := mem_foundOn_of_mem_checkLine ((checks d code).mp ⟨member, number⟩)
    rw [code, found] at onLine
    obtain ⟨finding, missing, -⟩ := Option.map_eq_some_iff.mp (Option.mem_toList.mp onLine)
    exact (missingResource?_eq_some_iff.mp missing).2
  · intro missing
    have told := missingResource?_eq_some_iff.mpr ⟨rfl, missing⟩
    let d := (Finding.resourceNotFound content).on file line (line.contentSpan content.length)
    have onLine : d ∈ checker.checkLine true labels file line := by
      rw [checkLine_eq]
      refine List.mem_flatMap.mpr ⟨.resourceNotFound, by decide, ?_⟩
      rw [found, told]
      exact List.mem_singleton_self d
    obtain ⟨member, number⟩ := (checks d rfl).mpr onLine
    exact ⟨d, member, number, rfl⟩

end Checker

namespace Project

variable {project : Project} {disk : Disk}

/-- A scan of assets succeeds if all folders can be listed, and leaves a project with the assets
that its folders hold: all of them but the scenes, and these too unless the path of something below
the scene root is too long. A command line is told that its file is missing if it has to name one
of these assets and does not. -/
theorem assets_match_disk (wellFormed : disk.WellFormed)
    (listable : project.paths.IsListable disk) :
    let scanned := (project.scanAssets disk).project
    let stored (name : Text) (type : AssetType) : Prop :=
      scanned.assets.contains name (some type) = true
    (project.scanAssets disk).result = .ok () ∧
    (∀ type ≠ .scene, ∀ name, stored name type ↔ project.paths.HasAsset disk type name) ∧
    (∀ name, stored name .scene ↔
      project.paths.IsInReach disk ∧ project.paths.HasAsset disk .scene name) ∧
    (∀ name, scanned.assets.contains name = true ↔ ∃ type, stored name type) ∧
    (∀ text file, ∀ line ∈ Script.parse project.vocabulary text, ∀ command content arguments,
      line.statement = .command command content arguments →
      scanned.checker.commands.contains command = true →
        ((∃ d ∈ scanned.diagnoseText text file (some true),
            d.number = line.number ∧ d.code = .resourceNotFound) ↔
          ∃ type, assetTypeOfCommand? command = some type ∧
            content ≠ [] ∧ content ≠ "none" ∧ ¬ stored content type)) := by
  obtain ⟨library, found⟩ := (AssetLibrary.exists_scan_iff_isListable wellFormed).mpr listable
  rw [scanAssets_of_ok found]
  intro scanned stored
  refine ⟨rfl, ?_, ?_, ?_, ?_⟩
  · intro type other name
    exact AssetLibrary.contains_scan wellFormed found other
  · intro name
    exact AssetLibrary.contains_scan_scene wellFormed found
  · intro name
    exact AssetLibrary.contains_iff
  · intro text file line inScript command content arguments statement known
    have missing (type : AssetType) :
        scanned.checker.stores content type = false ↔ ¬ stored content type :=
      (Bool.not_eq_true _).symm.to_iff
    refine (Checker.exists_resourceNotFound_iff text file inScript statement known).trans ?_
    simp only [missing, Checker.emptySlot]

/-- Files with several dots and capital suffixes, and a directory that is named like a picture. -/
theorem assets_match_disk_nested :
    let disk : Disk := ⟨.ofList [(["game"], .directory), (["game", "background"], .directory),
      (["game", "background", "sky.day.PNG"], .file (.text "")),
      (["game", "background", "hall.png"], .directory), (["game", "scene"], .directory),
      (["game", "scene", "one"], .directory),
      (["game", "scene", "one", "start.TXT"], .file (.text "end;"))], []⟩
    let project : Project := { paths := ⟨.ofText "game"⟩ }
    let scanned := (project.scanAssets disk).project
    (disk.WellFormed ∧ project.paths.IsListable disk) ∧
      scanned.assets.contains "sky.day.PNG" = true ∧
      scanned.assets.contains "one/start.TXT" (some .scene) = true ∧
      ∃ d ∈ scanned.diagnoseText "changeBg:hall.png;" [] (some true),
        d.number = 0 ∧ d.code = .resourceNotFound := by
  intro disk project scanned
  have wellFormed : disk.WellFormed := by decide +kernel
  have listable : project.paths.IsListable disk :=
    ProjectPaths.isListable_of_entries rfl (by decide +kernel) (by decide +kernel)
  obtain ⟨-, files, scenes, any, missing⟩ := assets_match_disk wellFormed listable
  let folder : Place := ["game", "background"]
  let root : Place := ["game", "scene"]
  have background : disk.find? (project.paths.assetDirectory .background) =
      some (folder, .directory) := by decide +kernel
  have found : disk.find? project.paths.sceneRoot = some (root, .directory) := by decide +kernel
  have sky : project.paths.HasAsset disk .background "sky.day.PNG" :=
    ⟨folder, .text "", background, by decide +kernel, by decide +kernel⟩
  have start : project.paths.HasAsset disk .scene "one/start.TXT" :=
    ⟨["one", "start.TXT"], .text "end;", ⟨root, found, by decide +kernel, by decide +kernel⟩,
      .inr (by decide +kernel)⟩
  have noHall : ¬ project.paths.HasAsset disk .background "hall.png" := by
    rintro ⟨other, content, foundToo, there, -⟩
    cases background.symm.trans foundToo
    have isDirectory : disk.node? ["game", "background", "hall.png"] = some .directory := by
      decide +kernel
    cases isDirectory.symm.trans there
  have reach : project.paths.IsInReach disk :=
    (ProjectPaths.reachesTooFar_eq_false wellFormed found).mp (by decide +kernel)
  refine ⟨⟨wellFormed, listable⟩, ?_, ?_, ?_⟩
  · exact (any _).mpr ⟨.background, (files _ (by decide) _).mpr sky⟩
  · exact (scenes _).mpr ⟨reach, start⟩
  · let line : Line := ⟨0, "changeBg:hall.png;", .command "changeBg" "hall.png" ∅⟩
    have catalog : scanned.catalog = project.catalog :=
      (unscanned_eq_iff.mp unscanned_scanAssets).2.1
    have known : scanned.catalog.orBuiltin.contains "changeBg" = true := by
      rw [catalog]
      decide +kernel
    refine (missing "changeBg:hall.png;" [] line (by decide +kernel) _ _ _ rfl known).mpr
      ⟨.background, by decide +kernel, by decide, by decide, ?_⟩
    rwa [files _ (by decide)]

/-- One directory whose path is too long hides every scene. -/
theorem not_forall_hasAsset_scene :
    ¬ ∀ (project : Project) (disk : Disk), disk.WellFormed → project.paths.IsListable disk →
      ∀ name, (project.scanAssets disk).project.assets.contains name (some .scene) = true ↔
        project.paths.HasAsset disk .scene name := by
  intro known
  let root : Place := ["game", "scene"]
  let long : Text := List.replicate 63 '𝄞'
  let directories : List (Place × Node) :=
    (List.range 18).map fun depth => (root ++ List.replicate depth long, .directory)
  let disk : Disk := ⟨⟨(["game"], .directory) ::
    (["game", "scene", "start.txt"], .file (.text "end;")) :: directories⟩, []⟩
  let project : Project := { paths := ⟨.ofText "game"⟩ }
  have wellFormed : disk.WellFormed := by decide +kernel
  have listable : project.paths.IsListable disk :=
    ProjectPaths.isListable_of_entries rfl (by decide +kernel) (by decide +kernel)
  have found : disk.find? project.paths.sceneRoot = some (root, .directory) := by decide +kernel
  have start : project.paths.HasAsset disk .scene "start.txt" :=
    ⟨["start.txt"], .text "end;", ⟨root, found, by decide +kernel, by decide +kernel⟩, .inl rfl⟩
  obtain ⟨library, scanned⟩ := (AssetLibrary.exists_scan_iff_isListable wellFormed).mpr listable
  have stored := (known project disk wellFormed listable _).mpr start
  rw [scanAssets_of_ok scanned] at stored
  obtain ⟨reach, -⟩ := (AssetLibrary.contains_scan_scene wellFormed scanned).mp stored
  have far := reach root (List.replicate 17 long) .directory found (by decide +kernel)
  have longer : Disk.longestPath <
      ((Disk.pathBelow project.paths.sceneRoot (List.replicate 17 long)).names.map
        Disk.byteCount).sum := by
    decide +kernel
  exact absurd far (Nat.not_le.mpr (Nat.lt_of_lt_of_le longer (Disk.sum_byteCount_le _)))

end Project

end SceneScript
