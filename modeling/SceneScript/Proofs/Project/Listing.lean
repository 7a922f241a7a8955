import SceneScript.Proofs.Disk.Detour
import SceneScript.Proofs.Disk.WellFormed
import SceneScript.Proofs.Project.Scan

/-! # The scenes of a project

After a scan the variables, the assets, the search for scenes and the checks know the same files:
those below the scene root that have the suffix of scenes. If the path of something below the scene
root is too long for the disk, none of them knows any file.

* `ProjectPaths.HasScene` — the scene files, by the names that lead to them from the scene root;
* `ProjectPaths.mem_filesBelow_sceneRoot` — a walk from the scene root lists them;
* `ProjectPaths.ListsScenes` — a list of all of them, each once;
* `Project.CarriesListedFiles` — the edits that a scan takes over do not change the list of files;
* `Project.listings_agree` — the four lists, and what is found in each scene;
* `Project.not_forall_listed` — one path that is too long hides every scene, and an edit that was
  kept for another scan brings a file back that is gone.
-/

namespace SceneScript

/-- The path from the scene root down to a file. -/
def ProjectPaths.fromSceneRoot? (paths : ProjectPaths) (file : Path) : Option Text :=
  (Path.below? paths.sceneRoot file).map fun names => Path.toText ⟨.relative, names⟩

namespace ProjectPaths

variable {paths : ProjectPaths} {disk : Disk} {names : List Text} {content : FileContent}

/-! ## Scene files -/

/-- The names of the game directory can be read from a path. -/
def IsPlain (paths : ProjectPaths) : Prop :=
  ∀ name ∈ paths.gameDirectory.names, Path.Plain name

instance : Decidable paths.IsPlain :=
  inferInstanceAs (Decidable (∀ name ∈ paths.gameDirectory.names, Path.Plain name))

/-- A file at the end of these names from the scene root, with the suffix of scenes in any letter
case. -/
def HasScene (paths : ProjectPaths) (disk : Disk) (names : List Text) (content : FileContent) :
    Prop :=
  ∃ root, disk.find? paths.sceneRoot = some (root, .directory) ∧
    disk.node? (root ++ names) = some (.file content) ∧
    Text.lower (Path.suffixOfName (names.getLast?.getD [])) = AssetType.sceneExtension

/-- No path below the scene root is too long for the disk. -/
def IsInReach (paths : ProjectPaths) (disk : Disk) : Prop :=
  ∀ root names node, disk.find? paths.sceneRoot = some (root, .directory) →
    disk.node? (root ++ names) = some node →
      Disk.byteCount (Disk.pathBelow paths.sceneRoot names).toText ≤ Disk.longestPath

theorem reachesTooFar_eq_false (wellFormed : disk.WellFormed) {root : Place}
    (found : disk.find? paths.sceneRoot = some (root, .directory)) :
    disk.reachesTooFar paths.sceneRoot root = false ↔ paths.IsInReach disk := by
  rw [Disk.reachesTooFar_eq_false_iff]
  constructor
  · intro short other names node foundToo there
    cases found.symm.trans foundToo
    by_cases itself : names = []
    · rw [itself, Disk.pathBelow, List.append_nil]
      exact Disk.byteCount_le_of_follow (Disk.find?_eq_some_iff.mp found).1
    · have named : root ++ names ≠ [] := by simp [itself]
      exact short names node itself ((Disk.node?_eq_some_iff wellFormed.distinct named).mp there)
  · intro reach names node nonempty member
    have named : root ++ names ≠ [] := by simp [nonempty]
    exact reach root names node found
      ((Disk.node?_eq_some_iff wellFormed.distinct named).mpr member)

theorem HasScene.ne_nil (scene : paths.HasScene disk names content) : names ≠ [] := by
  obtain ⟨root, -, -, suffix⟩ := scene
  rintro rfl
  exact absurd suffix (by decide)

theorem mem_filesBelow_sceneRoot (wellFormed : disk.WellFormed) {listed : Path} :
    listed ∈ disk.filesBelow paths.sceneRoot AssetType.sceneExtension ↔
      paths.IsInReach disk ∧ ∃ names content, paths.HasScene disk names content ∧
        listed = Disk.pathBelow paths.sceneRoot names := by
  rw [Disk.mem_filesBelow]
  constructor
  · rintro ⟨root, names, content, found, near, nonempty, member, suffix, rfl⟩
    have named : root ++ names ≠ [] := by simp [nonempty]
    have there := (Disk.node?_eq_some_iff wellFormed.distinct named).mpr member
    have ends := decide_eq_true_iff.mp suffix
    exact ⟨(reachesTooFar_eq_false wellFormed found).mp near, names, content,
      ⟨root, found, there, ends⟩, rfl⟩
  · rintro ⟨reach, names, content, scene, rfl⟩
    have nonempty := scene.ne_nil
    obtain ⟨root, found, there, suffix⟩ := scene
    have named : root ++ names ≠ [] := by simp [nonempty]
    have member := (Disk.node?_eq_some_iff wellFormed.distinct named).mp there
    have ends := decide_eq_true_iff.mpr suffix
    exact ⟨root, names, content, found, (reachesTooFar_eq_false wellFormed found).mpr reach,
      nonempty, member, ends, rfl⟩

/-! ## Paths of scene files -/

section Paths

variable (wellFormed : disk.WellFormed) (scene : paths.HasScene disk names content)

include wellFormed scene

theorem HasScene.plain : ∀ name ∈ names, Path.Plain name := by
  obtain ⟨root, -, there, -⟩ := scene
  exact fun name member => wellFormed.spellable.plain there name (List.mem_append_right _ member)

theorem HasScene.parentName_notMem : Path.parentName ∉ names := by
  obtain ⟨root, -, there, -⟩ := scene
  exact fun member => wellFormed.tree.named _ _ there (List.mem_append_right _ member)

/-- From the scene root the way to a scene is that of its names. -/
theorem relativeTo_root (workingDirectory : Place) :
    Path.relativeTo workingDirectory paths.sceneRoot.collapse
        (Disk.pathBelow paths.sceneRoot names).collapse = ⟨.relative, names⟩ := by
  refine Path.relativeTo_of_below ?_
  rw [Path.absolute_collapse, Path.absolute_collapse]
  exact Path.names_absolute_append rfl rfl (scene.parentName_notMem wellFormed)

theorem find?_pathBelow (reach : paths.IsInReach disk) :
    ∃ root, disk.find? (Disk.pathBelow paths.sceneRoot names) =
      some (root ++ names, .file content) := by
  obtain ⟨root, found, there, -⟩ := scene
  exact ⟨root, Disk.find?_pathBelow wellFormed found there (reach root names _ found there)⟩

end Paths

theorem plain_pathBelow (wellFormed : disk.WellFormed) (plain : paths.IsPlain)
    (scene : paths.HasScene disk names content) :
    ∀ name ∈ (Disk.pathBelow paths.sceneRoot names).names, Path.Plain name := by
  have folder : Path.Plain AssetType.scene.folder := by decide
  have root : ∀ name ∈ paths.sceneRoot.names, Path.Plain name :=
    List.forall_mem_append.mpr ⟨plain, List.forall_mem_singleton.mpr folder⟩
  exact List.forall_mem_append.mpr ⟨root, scene.plain wellFormed⟩

/-- Without its detours too the path of a scene leads to its text. -/
theorem readText_collapse (wellFormed : disk.WellFormed) (plain : paths.IsPlain)
    (scene : paths.HasScene disk names content) (reach : paths.IsInReach disk) :
    disk.readText (.ofText (Disk.pathBelow paths.sceneRoot names).collapse.toText) =
      content.readable := by
  obtain ⟨root, found⟩ := find?_pathBelow wellFormed scene reach
  rw [Path.ofText_toText (Path.plain_collapse (plain_pathBelow wellFormed plain scene))]
  exact Disk.readText_of_find? (Disk.find?_collapse found)

theorem names_eq_of_toText_eq (wellFormed : disk.WellFormed) {others : List Text}
    {other : FileContent} (scene : paths.HasScene disk names content)
    (sceneToo : paths.HasScene disk others other)
    (same : Path.toText ⟨.relative, names⟩ = Path.toText ⟨.relative, others⟩) :
    names = others := by
  have read := congrArg Path.namesOf same
  rwa [Path.namesOf_toText (scene.plain wellFormed),
    Path.namesOf_toText (sceneToo.plain wellFormed)] at read

/-! ## Lists of scenes -/

/-- A list of the scene files, each once, by the paths that lead to them from the scene root; it is
empty if a path below the scene root is too long. -/
structure ListsScenes (paths : ProjectPaths) (disk : Disk) (listing : List Text) : Prop where
  once : listing.Nodup
  mem_iff : ∀ text, text ∈ listing ↔ paths.IsInReach disk ∧
    ∃ names content, paths.HasScene disk names content ∧ text = Path.toText ⟨.relative, names⟩

theorem ListsScenes.of_perm {listing other : List Text} (lists : paths.ListsScenes disk listing)
    (same : other.Perm listing) : paths.ListsScenes disk other :=
  ⟨same.nodup_iff.mpr lists.once, fun text => same.mem_iff.trans (lists.mem_iff text)⟩

/-- The files of a walk, shown by what leads to them from the scene root. -/
theorem listsScenes_map (wellFormed : disk.WellFormed) (shown : Path → Text)
    (shows : ∀ names content, paths.HasScene disk names content →
      shown (Disk.pathBelow paths.sceneRoot names) = Path.toText ⟨.relative, names⟩) :
    paths.ListsScenes disk
      ((disk.filesBelow paths.sceneRoot AssetType.sceneExtension).map shown) := by
  constructor
  · have walked : (disk.filesBelow paths.sceneRoot AssetType.sceneExtension).Nodup :=
      Disk.nodup_filesBelow wellFormed.distinct _
    refine List.pairwise_map.mpr (walked.imp_of_mem fun {a b} memA memB different same => ?_)
    obtain ⟨-, names, content, scene, rfl⟩ := (mem_filesBelow_sceneRoot wellFormed).mp memA
    obtain ⟨-, others, contentToo, sceneToo, rfl⟩ := (mem_filesBelow_sceneRoot wellFormed).mp memB
    rw [shows _ _ scene, shows _ _ sceneToo] at same
    exact different (congrArg _ (names_eq_of_toText_eq wellFormed scene sceneToo same))
  · intro text
    rw [List.mem_map]
    constructor
    · rintro ⟨listed, walked, rfl⟩
      obtain ⟨reach, names, content, scene, rfl⟩ := (mem_filesBelow_sceneRoot wellFormed).mp walked
      exact ⟨reach, names, content, scene, shows _ _ scene⟩
    · rintro ⟨reach, names, content, scene, rfl⟩
      exact ⟨_, (mem_filesBelow_sceneRoot wellFormed).mpr ⟨reach, names, content, scene, rfl⟩,
        shows _ _ scene⟩

/-- The full paths of the scenes are different texts. -/
theorem nodup_toText_filesBelow (wellFormed : disk.WellFormed) (plain : paths.IsPlain) :
    ((disk.filesBelow paths.sceneRoot AssetType.sceneExtension).map Path.toText).Nodup := by
  have walked : (disk.filesBelow paths.sceneRoot AssetType.sceneExtension).Nodup :=
    Disk.nodup_filesBelow wellFormed.distinct _
  refine List.pairwise_map.mpr (walked.imp_of_mem fun {a b} memA memB different same => ?_)
  obtain ⟨-, names, content, scene, rfl⟩ := (mem_filesBelow_sceneRoot wellFormed).mp memA
  obtain ⟨-, others, other, sceneToo, rfl⟩ := (mem_filesBelow_sceneRoot wellFormed).mp memB
  rw [← Path.ofText_toText (plain_pathBelow wellFormed plain scene), same,
    Path.ofText_toText (plain_pathBelow wellFormed plain sceneToo)] at different
  exact different rfl

theorem fromSceneRoot?_pathBelow (wellFormed : disk.WellFormed) (plain : paths.IsPlain)
    (scene : paths.HasScene disk names content) :
    paths.fromSceneRoot? (.ofText (Disk.pathBelow paths.sceneRoot names).toText) =
      some (Path.toText ⟨.relative, names⟩) := by
  have below : Path.below? paths.sceneRoot (Disk.pathBelow paths.sceneRoot names) =
      some names := by
    simp [Path.below?, Disk.pathBelow]
  rw [Path.ofText_toText (plain_pathBelow wellFormed plain scene), fromSceneRoot?, below,
    Option.map_some]

end ProjectPaths

namespace SceneSearch

variable {search : SceneSearch} {disk : Disk} {scenes : List SceneCandidate}

theorem files_eq_ok_iff :
    search.files disk = .ok scenes ↔ ¬ disk.Overlong search.paths.sceneRoot ∧
      search.listed (disk.filesBelow search.paths.sceneRoot AssetType.sceneExtension) =
        scenes := by
  simp only [files, map_eq_ok_iff, Disk.walk_eq_ok_iff, and_assoc, exists_and_left,
    exists_eq_left']

theorem exists_files_iff :
    (∃ scenes, search.files disk = .ok scenes) ↔ ¬ disk.Overlong search.paths.sceneRoot := by
  simp only [files_eq_ok_iff, exists_and_left, exists_eq', and_true]

theorem mem_files (wellFormed : disk.WellFormed) (found : search.files disk = .ok scenes)
    {scene : SceneCandidate} :
    scene ∈ scenes ↔
      search.paths.IsInReach disk ∧ ∃ names content, search.paths.HasScene disk names content ∧
        scene = search.candidate
          (Disk.pathBelow search.paths.sceneRoot names).collapse true := by
  obtain ⟨-, rfl⟩ := files_eq_ok_iff.mp found
  rw [listed, List.mem_mergeSort, List.mem_map]
  constructor
  · rintro ⟨listed, walked, rfl⟩
    obtain ⟨reach, names, content, scene, rfl⟩ :=
      (ProjectPaths.mem_filesBelow_sceneRoot wellFormed).mp walked
    exact ⟨reach, names, content, scene, rfl⟩
  · rintro ⟨reach, names, content, scene, rfl⟩
    have walked := (ProjectPaths.mem_filesBelow_sceneRoot wellFormed).mpr
      ⟨reach, names, content, scene, rfl⟩
    exact ⟨_, walked, rfl⟩

end SceneSearch

namespace Project

variable {project : Project} {disk : Disk} {names : List Text} {content : FileContent}
  {scenes : List SceneCandidate} {report : Report} {validateResources : Option Bool}

/-! ## Scans -/

/-- The edits that a scan takes over are of scene files, or removals of other files. -/
def CarriesListedFiles (project : Project) (disk : Disk) : Prop :=
  ∀ edit ∈ project.index.carriedEdits, edit.2.isSome = true ↔
    edit.1 ∈ (disk.filesBelow project.paths.sceneRoot AssetType.sceneExtension).map Path.toText

theorem carriesListedFiles_of_idle (idle : project.index.scansRunning = 0) :
    project.CarriesListedFiles disk := by
  rw [CarriesListedFiles, VariableIndex.carriedEdits_of_idle idle]
  exact List.forall_mem_nil _

theorem files_scan (wellFormed : disk.WellFormed) (plain : project.paths.IsPlain)
    (near : ¬ disk.Overlong project.paths.sceneRoot) (carried : project.CarriesListedFiles disk) :
    (project.scan disk).project.index.files =
      (disk.filesBelow project.paths.sceneRoot AssetType.sceneExtension).map Path.toText := by
  let texts := readTexts disk (disk.filesBelow project.paths.sceneRoot AssetType.sceneExtension)
  have read : project.sceneTexts disk = .ok texts := sceneTexts_eq_ok_iff.mpr ⟨near, rfl⟩
  have listed : (IndexSnapshot.ofTexts project.vocabulary texts).files =
      (disk.filesBelow project.paths.sceneRoot AssetType.sceneExtension).map Path.toText := by
    rw [IndexSnapshot.ofTexts]
    simp only [texts, readTexts, List.map_map]
    exact firstOccurrences_of_nodup (ProjectPaths.nodup_toText_filesBelow wellFormed plain)
  have files := congrArg IndexSnapshot.files (snapshot_scan read)
  rw [IndexSnapshot.files_foldl_edit, listed] at files
  · exact files
  · intro edit member
    rw [listed, Bool.eq_iff_iff, List.contains_iff_mem]
    exact carried edit member

/-- The files of the index, seen from the scene root. -/
theorem listsScenes_index (wellFormed : disk.WellFormed) (plain : project.paths.IsPlain)
    (near : ¬ disk.Overlong project.paths.sceneRoot) (carried : project.CarriesListedFiles disk) :
    ∃ listing, (project.scan disk).project.index.files.map
        (fun file => project.paths.fromSceneRoot? (.ofText file)) = listing.map some ∧
      project.paths.ListsScenes disk listing := by
  let shown (path : Path) :=
    Path.toText ⟨.relative, path.names.drop project.paths.sceneRoot.names.length⟩
  refine ⟨_, ?_, ProjectPaths.listsScenes_map wellFormed shown fun names content scene => by
    simp [shown, Disk.pathBelow]⟩
  rw [files_scan wellFormed plain near carried, List.map_map, List.map_map]
  refine List.map_congr_left fun listed walked => ?_
  obtain ⟨-, names, content, scene, rfl⟩ :=
    (ProjectPaths.mem_filesBelow_sceneRoot wellFormed).mp walked
  simpa [shown, Disk.pathBelow] using
    ProjectPaths.fromSceneRoot?_pathBelow wellFormed plain scene

theorem listsScenes_assets (wellFormed : disk.WellFormed)
    (scans : (project.scan disk).result = .ok ()) :
    project.paths.ListsScenes disk
      (((project.scan disk).project.assets.ofType .scene).map (·.relativePath)) := by
  obtain ⟨library, found⟩ := result_scan_eq_ok_iff.mp scans
  obtain ⟨-, scenes⟩ := Asset.scenes_eq_ok_iff.mp (AssetLibrary.inFolder_of_scan found .scene)
  rw [assets_scan found, ← scenes, List.map_map]
  exact ProjectPaths.listsScenes_map wellFormed _ fun names content scene => by
    simp [Disk.pathBelow, Asset.ofScene]

theorem listsScenes_search (wellFormed : disk.WellFormed)
    (found : (project.search disk).files disk = .ok scenes) :
    project.paths.ListsScenes disk (scenes.map (·.relativePath)) := by
  obtain ⟨-, rfl⟩ := SceneSearch.files_eq_ok_iff.mp found
  let shown (path : Path) := ((project.search disk).candidate path.collapse true).relativePath
  refine (ProjectPaths.listsScenes_map wellFormed shown fun names content scene =>
    congrArg Path.toText
      (ProjectPaths.relativeTo_root wellFormed scene disk.workingDirectory)).of_perm ?_
  rw [SceneSearch.listed]
  refine ((List.mergeSort_perm _ _).map _).trans ?_
  rw [List.map_map]
  exact List.Perm.refl _

/-! ## Checks of all scenes -/

theorem diagnoseAll_eq_ok_iff :
    project.diagnoseAll disk validateResources = .ok report ↔
      ∃ scenes, (project.search disk).files disk = .ok scenes ∧
        project.diagnoseScenes disk validateResources scenes = report :=
  map_eq_ok_iff

theorem exists_diagnoseAll_iff :
    (∃ report, project.diagnoseAll disk validateResources = .ok report) ↔
      ¬ disk.Overlong project.paths.sceneRoot := by
  rw [diagnoseAll, exists_map_eq_ok_iff]
  exact SceneSearch.exists_files_iff

/-- No entry of the report takes the place of another one. -/
theorem entries_diagnoseScenes (wellFormed : disk.WellFormed)
    (found : (project.search disk).files disk = .ok scenes) (validateResources : Option Bool) :
    (project.diagnoseScenes disk validateResources scenes).entries =
      scenes.map fun scene =>
        (scene.relativePath,
          project.diagnoseFile disk scene.fullPath.toText validateResources) := by
  have distinct : (OrderedMap.keys ⟨scenes.map fun scene =>
      (scene.relativePath,
        project.diagnoseFile disk scene.fullPath.toText validateResources)⟩).Nodup := by
    rw [OrderedMap.keys, List.map_map]
    exact (listsScenes_search wellFormed found).once
  exact congrArg OrderedMap.entries (OrderedMap.ofList_entries distinct)

theorem listsScenes_diagnoseAll (wellFormed : disk.WellFormed)
    (reported : project.diagnoseAll disk validateResources = .ok report) :
    project.paths.ListsScenes disk report.keys := by
  obtain ⟨scenes, found, rfl⟩ := diagnoseAll_eq_ok_iff.mp reported
  rw [OrderedMap.keys, entries_diagnoseScenes wellFormed found, List.map_map]
  exact listsScenes_search wellFormed found

/-- What the report has on a scene is found in the text of that scene. -/
theorem get?_diagnoseAll (wellFormed : disk.WellFormed) (plain : project.paths.IsPlain)
    (reported : project.diagnoseAll disk validateResources = .ok report)
    (scene : project.paths.HasScene disk names content)
    (reach : project.paths.IsInReach disk) :
    report.get? (Path.toText ⟨.relative, names⟩) =
      some (project.diagnoseText content.readable
        (Disk.pathBelow project.paths.sceneRoot names).collapse.toText validateResources) := by
  have once := (listsScenes_diagnoseAll wellFormed reported).once
  obtain ⟨scenes, found, rfl⟩ := diagnoseAll_eq_ok_iff.mp reported
  rw [OrderedMap.get?_eq_some_iff once, entries_diagnoseScenes wellFormed found, List.mem_map]
  refine ⟨_, (SceneSearch.mem_files wellFormed found).mpr ⟨reach, names, content, scene, rfl⟩, ?_⟩
  have shown := congrArg Path.toText
    (ProjectPaths.relativeTo_root wellFormed scene disk.workingDirectory)
  have read := ProjectPaths.readText_collapse wellFormed plain scene reach
  exact Prod.ext shown
    (congrArg (fun text => project.diagnoseText text _ validateResources) read)

/-! ## Checks after a scan -/

theorem exists_diagnoseAll_scan_iff :
    (∃ report, (project.scan disk).project.diagnoseAll disk validateResources = .ok report) ↔
      ¬ disk.Overlong project.paths.sceneRoot := by
  rw [exists_diagnoseAll_iff, paths_scan]

theorem listsScenes_diagnoseAll_scan (wellFormed : disk.WellFormed)
    (reported : (project.scan disk).project.diagnoseAll disk validateResources = .ok report) :
    project.paths.ListsScenes disk report.keys := by
  have lists := listsScenes_diagnoseAll wellFormed reported
  rwa [paths_scan] at lists

theorem get?_diagnoseAll_scan (wellFormed : disk.WellFormed) (plain : project.paths.IsPlain)
    (reported : (project.scan disk).project.diagnoseAll disk validateResources = .ok report)
    (scene : project.paths.HasScene disk names content) (reach : project.paths.IsInReach disk) :
    report.get? (Path.toText ⟨.relative, names⟩) =
      some ((project.scan disk).project.diagnoseText content.readable
        (Disk.pathBelow project.paths.sceneRoot names).collapse.toText validateResources) := by
  have paths : (project.scan disk).project.paths = project.paths := paths_scan
  rw [← paths] at plain scene reach ⊢
  exact get?_diagnoseAll wellFormed plain reported scene reach

/-! ## Agreement -/

/-- After a scan that succeeded, the scene assets, the search and the report of all checks list the
same files, which are the scenes of the project unless a path below the scene root is too long.
Scenes that differ are listed differently, and the report has for each of them what is found in its
text. The index lists the same files if no edit that the scan took over brings back a file that is
gone, or takes out one that is there. -/
theorem listings_agree (wellFormed : disk.WellFormed) (plain : project.paths.IsPlain)
    (scans : (project.scan disk).result = .ok ()) (validateResources : Option Bool) :
    let scanned := (project.scan disk).project
    ∃ scenes report, (scanned.search disk).files disk = .ok scenes ∧
      scanned.diagnoseAll disk validateResources = .ok report ∧
    (project.CarriesListedFiles disk →
      ∃ listing, scanned.index.files.map
          (fun file => project.paths.fromSceneRoot? (.ofText file)) = listing.map some ∧
        project.paths.ListsScenes disk listing) ∧
    project.paths.ListsScenes disk ((scanned.assets.ofType .scene).map (·.relativePath)) ∧
    project.paths.ListsScenes disk (scenes.map (·.relativePath)) ∧
    project.paths.ListsScenes disk report.keys ∧
    (∀ names content others other, project.paths.HasScene disk names content →
      project.paths.HasScene disk others other →
      Path.toText ⟨.relative, names⟩ = Path.toText ⟨.relative, others⟩ → names = others) ∧
    (project.paths.IsInReach disk → ∀ names content, project.paths.HasScene disk names content →
      report.get? (Path.toText ⟨.relative, names⟩) =
        some (scanned.diagnoseText content.readable
          (Disk.pathBelow project.paths.sceneRoot names).collapse.toText validateResources)) := by
  intro scanned
  have near := not_overlong_of_scan scans
  obtain ⟨report, reported⟩ : ∃ report, scanned.diagnoseAll disk validateResources = .ok report :=
    exists_diagnoseAll_scan_iff.mpr near
  obtain ⟨scenes, found, -⟩ := diagnoseAll_eq_ok_iff.mp reported
  have lists := listsScenes_search wellFormed found
  rw [paths_scan] at lists
  refine ⟨scenes, report, found, reported, listsScenes_index wellFormed plain near,
    listsScenes_assets wellFormed scans, lists,
    listsScenes_diagnoseAll_scan wellFormed reported, ?_, ?_⟩
  · exact fun _ _ _ _ scene sceneToo => ProjectPaths.names_eq_of_toText_eq wellFormed scene sceneToo
  · exact fun reach _ _ scene => get?_diagnoseAll_scan wellFormed plain reported scene reach

/-- Directories and files with the suffix of scenes, and an index that knows a file that is gone. -/
theorem listings_agree_nested :
    let disk : Disk := ⟨.ofList [(["old"], .directory), (["game"], .directory),
      (["game", "scene"], .directory), (["game", "scene", "start.txt"], .file (.text "end;")),
      (["game", "scene", "Act 1.txt"], .directory),
      (["game", "scene", "Act 1.txt", "start.TXT"], .file (.text "jumpLabel:nowhere;")),
      (["game", "scene", "Act 1.txt", ".txt"], .file (.text "end;"))], []⟩
    let first : Project := { paths := ⟨.ofText "old/../game"⟩ }
    let project := (first.scanText "game/scene/gone.txt" "setVar:gone=1;").2
    (disk.WellFormed ∧ project.paths.IsPlain ∧ (project.scan disk).result = .ok () ∧
        project.CarriesListedFiles disk) ∧
      ∃ report listing, (project.scan disk).project.diagnoseAll disk = .ok report ∧
        project.paths.ListsScenes disk report.keys ∧ project.paths.ListsScenes disk listing ∧
        (project.scan disk).project.index.files.map
          (fun file => project.paths.fromSceneRoot? (.ofText file)) = listing.map some ∧
        (report.get? "Act 1.txt/start.TXT").map List.length = some 1 := by
  intro disk first project
  have wellFormed : disk.WellFormed := by decide +kernel
  have plain : project.paths.IsPlain := by decide +kernel
  have scans : (project.scan disk).result = .ok () := eq_ok_of_toOption (by decide +kernel)
  have carried : project.CarriesListedFiles disk := carriesListedFiles_of_idle (by decide +kernel)
  obtain ⟨scenes, report, -, reported, indexed, -, -, checks, -, told⟩ :=
    listings_agree wellFormed plain scans none
  obtain ⟨listing, files, lists⟩ := indexed carried
  let root : Place := ["game", "scene"]
  have found : disk.find? project.paths.sceneRoot = some (root, .directory) := by
    decide +kernel
  have reach : project.paths.IsInReach disk :=
    (ProjectPaths.reachesTooFar_eq_false wellFormed found).mp (by decide +kernel)
  have scene : project.paths.HasScene disk ["Act 1.txt", "start.TXT"]
      (.text "jumpLabel:nowhere;") :=
    ⟨root, found, by decide +kernel, by decide +kernel⟩
  refine ⟨⟨wellFormed, plain, scans, carried⟩, report, listing, reported, checks, lists, files, ?_⟩
  have entry := told reach _ _ scene
  rw [show Path.toText ⟨.relative, ["Act 1.txt", "start.TXT"]⟩ = "Act 1.txt/start.TXT" from rfl]
    at entry
  rw [entry]
  decide +kernel

/-- One directory whose path is too long hides every scene. -/
theorem exists_hidden_scene :
    ∃ (project : Project) (disk : Disk) (names : List Text) (content : FileContent)
      (report : Report), disk.WellFormed ∧ project.paths.IsPlain ∧
      project.index.scansRunning = 0 ∧ (project.scan disk).result = .ok () ∧
      project.paths.HasScene disk names content ∧
      (project.scan disk).project.diagnoseAll disk = .ok report ∧
      Path.toText ⟨.relative, names⟩ ∉ report.keys := by
  let root : Place := ["game", "scene"]
  let long : Text := List.replicate 63 '𝄞'
  let directories : List (Place × Node) :=
    (List.range 18).map fun depth => (root ++ List.replicate depth long, .directory)
  let disk : Disk := ⟨⟨(["game"], .directory) ::
    (["game", "scene", "start.txt"], .file (.text "end;")) :: directories⟩, []⟩
  let project : Project := { paths := ⟨.ofText "game"⟩ }
  have wellFormed : disk.WellFormed := by decide +kernel
  have plain : project.paths.IsPlain := by decide +kernel
  have scans : (project.scan disk).result = .ok () := eq_ok_of_toOption (by decide +kernel)
  have scene : project.paths.HasScene disk ["start.txt"] (.text "end;") :=
    ⟨root, by decide +kernel, by decide +kernel, by decide +kernel⟩
  obtain ⟨report, reported⟩ : ∃ report,
      (project.scan disk).project.diagnoseAll disk none = .ok report :=
    exists_diagnoseAll_scan_iff.mpr (not_overlong_of_scan scans)
  refine ⟨project, disk, ["start.txt"], _, report, wellFormed, plain, rfl, scans, scene, reported,
    fun inKeys => ?_⟩
  obtain ⟨reach, -⟩ := ((listsScenes_diagnoseAll_scan wellFormed reported).mem_iff _).mp inKeys
  have far := reach root (List.replicate 17 long) .directory (by decide +kernel) (by decide +kernel)
  have longer : Disk.longestPath <
      ((Disk.pathBelow project.paths.sceneRoot (List.replicate 17 long)).names.map
        Disk.byteCount).sum := by
    decide +kernel
  exact absurd far (Nat.not_le.mpr (Nat.lt_of_lt_of_le longer (Disk.sum_byteCount_le _)))

/-- A file was given to the index while a full scan was under way, which goes on while the file is
deleted. -/
theorem exists_stale_file :
    ∃ (project : Project) (disk : Disk) (file : Text), disk.WellFormed ∧ project.paths.IsPlain ∧
      (project.scan disk).result = .ok () ∧ file ∈ (project.scan disk).project.index.files ∧
      disk.find? (.ofText file) = none := by
  let disk : Disk := ⟨.ofList [(["game"], .directory), (["game", "scene"], .directory)], []⟩
  let first : Project := { paths := ⟨.ofText "game"⟩ }
  let project := (first.beginScan.2.scanText "game/scene/gone.txt" "end;").2
  exact ⟨project, disk, "game/scene/gone.txt", by decide +kernel, by decide +kernel,
    eq_ok_of_toOption (by decide +kernel), by decide +kernel, by decide +kernel⟩

/-- Neither are all scenes always listed, nor are there only files of the disk in the index. -/
theorem not_forall_listed :
    (¬ ∀ (project : Project) (disk : Disk) (report : Report), disk.WellFormed →
      project.paths.IsPlain → project.index.scansRunning = 0 →
      (project.scan disk).result = .ok () →
      (project.scan disk).project.diagnoseAll disk = .ok report →
      ∀ names content, project.paths.HasScene disk names content →
        Path.toText ⟨.relative, names⟩ ∈ report.keys) ∧
    ¬ ∀ (project : Project) (disk : Disk), disk.WellFormed → project.paths.IsPlain →
      (project.scan disk).result = .ok () →
      ∀ file ∈ (project.scan disk).project.index.files, disk.find? (.ofText file) ≠ none := by
  constructor
  · intro listed
    obtain ⟨project, disk, names, content, report, wellFormed, plain, idle, scans, scene, reported,
      absent⟩ := exists_hidden_scene
    exact absent (listed project disk report wellFormed plain idle scans reported _ _ scene)
  · intro there
    obtain ⟨project, disk, file, wellFormed, plain, scans, indexed, gone⟩ := exists_stale_file
    exact there project disk wellFormed plain scans file indexed gone

end Project

end SceneScript
