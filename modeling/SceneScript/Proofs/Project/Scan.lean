import SceneScript.Project
import SceneScript.Proofs.Disk.Series
import SceneScript.Proofs.Index.Share

/-! # Scans of a project

A scan that succeeds publishes what it found on the disk. A full scan of the variables makes the
edits again that it takes over from full scans which are still under way.

* `AssetLibrary.scan_eq_ok_iff`, `AssetLibrary.inFolder_of_scan` — scans of assets;
* `VariableIndex.carriedEdits` — the edits that a full scan takes over;
* `Project.unscanned_scan`, `Project.assets_scan`, `Project.snapshot_scan` — scans of everything.
-/

namespace SceneScript

/-! ## Assets -/

namespace Asset

variable {paths : ProjectPaths} {disk : Disk} {type : AssetType} {assets : List Asset}

theorem scenes_eq_ok_iff :
    scenes paths disk = .ok assets ↔ ¬ disk.Overlong paths.sceneRoot ∧
      (disk.filesBelow paths.sceneRoot AssetType.sceneExtension).map (ofScene paths) = assets := by
  have walks : scenes paths disk = (disk.walk paths.sceneRoot AssetType.sceneExtension).map
      (·.map (ofScene paths)) := by
    simp only [scenes, AssetType.extensions, List.mapM_cons, List.mapM_nil]
    cases disk.walk paths.sceneRoot AssetType.sceneExtension <;>
      simp [bind, Except.bind, pure, Except.pure, Except.map]
  simp only [walks, map_eq_ok_iff, Disk.walk_eq_ok_iff, and_assoc, exists_and_left, exists_eq_left']

theorem files_eq_ok_iff :
    files paths disk type = .ok assets ↔
      (∃ found, disk.list (paths.assetDirectory type) = .ok found) ∧
        (disk.entries (paths.assetDirectory type)).filterMap (ofListed? type) = assets := by
  have lists : files paths disk type =
      (disk.list (paths.assetDirectory type)).map (·.filterMap (ofListed? type)) := rfl
  rw [lists, map_eq_ok_iff]
  constructor
  · rintro ⟨found, listed, rfl⟩
    refine ⟨⟨found, listed⟩, ?_⟩
    rw [(Disk.list_eq_ok_iff.mp listed).2.2]
  · rintro ⟨⟨found, listed⟩, rfl⟩
    refine ⟨found, listed, ?_⟩
    rw [(Disk.list_eq_ok_iff.mp listed).2.2]

theorem inFolder_eq_files (other : type ≠ .scene) :
    inFolder paths disk type = files paths disk type := by
  cases type <;> first | rfl | contradiction

theorem type_of_ofListed? {entry : DirectoryEntry} {asset : Asset}
    (is : ofListed? type entry = some asset) : asset.type = type := by
  obtain ⟨-, same⟩ := Option.ite_none_right_eq_some.mp is
  exact Option.some.inj same ▸ rfl

/-- A folder holds assets of its own kind. -/
theorem type_of_mem_inFolder (listed : inFolder paths disk type = .ok assets) :
    ∀ asset ∈ assets, asset.type = type := by
  intro asset member
  by_cases scene : type = .scene
  · subst scene
    obtain ⟨-, rfl⟩ := scenes_eq_ok_iff.mp listed
    obtain ⟨_, -, rfl⟩ := List.mem_map.mp member
    rfl
  · rw [inFolder_eq_files scene] at listed
    obtain ⟨-, rfl⟩ := files_eq_ok_iff.mp listed
    obtain ⟨_, -, is⟩ := List.mem_filterMap.mp member
    exact type_of_ofListed? is

end Asset

namespace AssetLibrary

variable {paths : ProjectPaths} {disk : Disk} {library : AssetLibrary}

theorem ofType_ofFolders {found : AssetType → List Asset}
    (typed : ∀ type, ∀ asset ∈ found type, asset.type = type) (type : AssetType) :
    (ofFolders found).ofType type = found type := by
  have inFolder (other : AssetType) : (found other).filter (·.type = type) =
      if other = type then found other else [] := by
    split
    next same =>
      rw [List.filter_eq_self]
      exact fun asset member => by simp [typed other asset member, same]
    next different =>
      rw [List.filter_eq_nil_iff]
      exact fun asset member => by simp [typed other asset member, different]
  simp only [ofType, ofFolders, List.filter_flatMap, inFolder]
  cases type <;> simp [AssetType.all]

theorem scan_eq :
    scan paths disk =
      (AssetType.all.mapM (Asset.inFolder paths disk)).map fun found => ⟨found.flatten⟩ := rfl

theorem exists_scan_iff :
    (∃ library, scan paths disk = .ok library) ↔
      ∀ type, ∃ assets, Asset.inFolder paths disk type = .ok assets := by
  rw [scan_eq, exists_map_eq_ok_iff, exists_mapM_eq_ok_iff]
  exact forall_congr' fun type => ⟨fun each => each (AssetType.mem_all type), fun each _ => each⟩

/-- A scan gathers what it found in the folders. -/
theorem scan_eq_ok_iff :
    scan paths disk = .ok library ↔ ∃ found : AssetType → List Asset,
      (∀ type, Asset.inFolder paths disk type = .ok (found type)) ∧ ofFolders found = library := by
  have gathers {found : AssetType → List Asset}
      (each : ∀ type, Asset.inFolder paths disk type = .ok (found type)) :
      scan paths disk = .ok (ofFolders found) := by
    rw [scan_eq, mapM_eq_ok_map fun type _ => each type, ofFolders, List.flatMap]
    rfl
  constructor
  · intro scanned
    obtain ⟨found, each⟩ := Classical.skolem.mp (exists_scan_iff.mp ⟨library, scanned⟩)
    exact ⟨found, each, Except.ok.inj ((gathers each).symm.trans scanned)⟩
  · rintro ⟨found, each, rfl⟩
    exact gathers each

theorem inFolder_of_scan (scanned : scan paths disk = .ok library) (type : AssetType) :
    Asset.inFolder paths disk type = .ok (library.ofType type) := by
  obtain ⟨found, each, rfl⟩ := scan_eq_ok_iff.mp scanned
  rw [ofType_ofFolders fun type => Asset.type_of_mem_inFolder (each type)]
  exact each type

theorem ofFolders_ofType (scanned : scan paths disk = .ok library) :
    ofFolders library.ofType = library := by
  have again := scan_eq_ok_iff.mpr ⟨_, inFolder_of_scan scanned, rfl⟩
  exact Except.ok.inj (again.symm.trans scanned)

end AssetLibrary

/-! ## Variables -/

/-- The edits that a full scan begun now would make again on what it reads: those kept for full
scans that are still under way. -/
def VariableIndex.carriedEdits (index : VariableIndex) : List (Text × Option Text) :=
  index.beginScan.2.edits.entries

theorem VariableIndex.carriedEdits_of_idle {index : VariableIndex}
    (idle : index.scansRunning = 0) : index.carriedEdits = [] := by
  simp [carriedEdits, beginScan, idle, EmptyCollection.emptyCollection]

theorem VariableIndex.endScan_beginScan (index : VariableIndex) (vocabulary : Vocabulary)
    (texts : FileTexts) :
    (index.beginScan.2.endScan vocabulary index.beginScan.1 texts).1 = true ∧
      (index.beginScan.2.endScan vocabulary index.beginScan.1 texts).2.snapshot =
        index.carriedEdits.foldl (fun snapshot (file, text) => snapshot.edit vocabulary file text)
          (.ofTexts vocabulary texts) := by
  simp [beginScan, endScan, commitScan?, replayEdits, publish, snapshot, carriedEdits]

/-! ## Scans of everything -/

namespace Project

variable {project other : Project} {disk : Disk} {texts : FileTexts} {library : AssetLibrary}

/-- The project with nothing indexed and no assets known. -/
def unscanned (project : Project) : Project := { project with index := {}, assets := {} }

theorem unscanned_eq_iff : project.unscanned = other.unscanned ↔
    project.paths = other.paths ∧ project.catalog = other.catalog ∧
      project.vocabulary = other.vocabulary ∧
      project.validateResources = other.validateResources := by
  simp [unscanned]

theorem sceneTexts_eq_ok_iff :
    project.sceneTexts disk = .ok texts ↔ ¬ disk.Overlong project.paths.sceneRoot ∧
      readTexts disk (disk.filesBelow project.paths.sceneRoot AssetType.sceneExtension) =
        texts := by
  simp only [sceneTexts, map_eq_ok_iff, Disk.walk_eq_ok_iff, and_assoc, exists_and_left,
    exists_eq_left']

theorem scanAssets_of_ok (found : AssetLibrary.scan project.paths disk = .ok library) :
    project.scanAssets disk = .done (project.stock library) := by
  simp only [scanAssets, found]

/-- A full scan of the variables publishes what it read, with the edits that it takes over. -/
theorem scanVariables_of_ok (read : project.sceneTexts disk = .ok texts) :
    project.scanVariables disk =
      let ended := project.beginScan.2.endScan project.beginScan.1 texts
      ⟨ended.2.2, ended.2.1, .ok true⟩ := by
  have publishes : (project.beginScan.2.endScan project.beginScan.1 texts).1 = true :=
    (project.index.endScan_beginScan project.vocabulary texts).1
  have begun : project.beginScan.2.sceneTexts disk = .ok texts := read
  simp only [scanVariables, begun, publishes]

theorem scanVariables_of_error {e : DiskError} (failed : project.sceneTexts disk = .error e) :
    project.scanVariables disk = ⟨project.beginScan.2.abandonScan, [], .error e⟩ := by
  have begun : project.beginScan.2.sceneTexts disk = .error e := failed
  simp only [scanVariables, begun]

theorem unscanned_scanAssets : (project.scanAssets disk).project.unscanned = project.unscanned := by
  unfold scanAssets
  split <;> rfl

theorem index_scanAssets : (project.scanAssets disk).project.index = project.index := by
  unfold scanAssets
  split <;> rfl

theorem unscanned_scanFile {path : Path} :
    (project.scanFile disk path).project.unscanned = project.unscanned := by
  unfold scanFile
  split <;> rfl

theorem unscanned_scanVariables :
    (project.scanVariables disk).project.unscanned = project.unscanned := by
  cases read : project.sceneTexts disk with
  | error e =>
    rw [scanVariables_of_error read]
    rfl
  | ok texts =>
    rw [scanVariables_of_ok read]
    rfl

theorem assets_scanVariables : (project.scanVariables disk).project.assets = project.assets := by
  cases read : project.sceneTexts disk with
  | error e =>
    rw [scanVariables_of_error read]
    rfl
  | ok texts =>
    rw [scanVariables_of_ok read]
    rfl

/-- A scan changes nothing but what is known of the disk. -/
theorem unscanned_scan : (project.scan disk).project.unscanned = project.unscanned :=
  unscanned_scanVariables.trans unscanned_scanAssets

theorem paths_scan : (project.scan disk).project.paths = project.paths :=
  (unscanned_eq_iff.mp unscanned_scan).1

theorem sceneTexts_congr (settings : project.unscanned = other.unscanned) :
    project.sceneTexts disk = other.sceneTexts disk := by
  simp only [sceneTexts, (unscanned_eq_iff.mp settings).1]

theorem assets_scan (found : AssetLibrary.scan project.paths disk = .ok library) :
    (project.scan disk).project.assets = library := by
  refine assets_scanVariables.trans ?_
  rw [scanAssets_of_ok found]
  rfl

theorem snapshot_scan (read : project.sceneTexts disk = .ok texts) :
    (project.scan disk).project.index.snapshot =
      project.index.carriedEdits.foldl
        (fun snapshot (file, text) => snapshot.edit project.vocabulary file text)
        (.ofTexts project.vocabulary texts) := by
  have readToo : (project.scanAssets disk).project.sceneTexts disk = .ok texts :=
    (sceneTexts_congr unscanned_scanAssets).trans read
  have kept : (project.scanAssets disk).project.unscanned = project.unscanned :=
    unscanned_scanAssets
  have vocabulary := (unscanned_eq_iff.mp kept).2.2.1
  have published := ((project.scanAssets disk).project.index.endScan_beginScan
    (project.scanAssets disk).project.vocabulary texts).2
  rw [index_scanAssets, vocabulary] at published
  rw [← published, scan, scanVariables_of_ok readToo]
  simp only [endScan, beginScan, index_scanAssets, vocabulary]

/-- Whatever keeps the scan of the variables from its end keeps that of the assets from its end. -/
theorem result_scan_eq_ok_iff :
    (project.scan disk).result = .ok () ↔
      ∃ library, AssetLibrary.scan project.paths disk = .ok library := by
  cases found : AssetLibrary.scan project.paths disk with
  | error e => simp [scan, scanAssets, found, bind, Except.bind]
  | ok library =>
    refine iff_of_true ?_ ⟨library, rfl⟩
    obtain ⟨near, -⟩ := Asset.scenes_eq_ok_iff.mp (AssetLibrary.inFolder_of_scan found .scene)
    have read := sceneTexts_eq_ok_iff.mpr ⟨near, rfl⟩
    have readToo : (project.scanAssets disk).project.sceneTexts disk = .ok _ :=
      (sceneTexts_congr unscanned_scanAssets).trans read
    rw [scan, scanVariables_of_ok readToo, scanAssets_of_ok found]
    rfl

/-- After a scan that succeeded the disk can be asked about the scene root. -/
theorem not_overlong_of_scan (scans : (project.scan disk).result = .ok ()) :
    ¬ disk.Overlong project.paths.sceneRoot := by
  obtain ⟨library, found⟩ := result_scan_eq_ok_iff.mp scans
  exact (Asset.scenes_eq_ok_iff.mp (AssetLibrary.inFolder_of_scan found .scene)).1

end Project

end SceneScript
