import SceneScript.Proofs.Project.Listing
import SceneScript.Proofs.Scene.Reach

/-! # Listed scenes as references

The list of all scenes takes their extension in any letter case, while a search takes it as it is
written in `AssetType.sceneExtension`. So a listed scene is found by its own path, from wherever it
is referred to, exactly if its extension is written in small letters.

* `SceneSearch.pathBelowRoot` — the collapsed paths of scenes;
* `SceneSearch.mem_candidatePaths_pathBelowRoot` — when a scene is a candidate for its own path;
* `SceneSearch.resolve_listed` — when a listed scene is found;
* `SceneSearch.not_forall_listed_found` — one that is not.
-/

namespace SceneScript.SceneSearch

variable {search : SceneSearch} {disk : Disk} {names : List Text} {content : FileContent}

/-- The path that leads from the root down these names. -/
def pathBelowRoot (search : SceneSearch) (names : List Text) : Path :=
  ⟨search.root.anchor, search.root.names ++ names⟩

theorem collapse_pathBelowRoot (absent : Path.parentName ∉ names) :
    (search.pathBelowRoot names).collapse = search.pathBelowRoot names := by
  have collapsed : (search.root.names.foldl (Path.collapseStep search.root.anchor) []).reverse =
      search.root.names := congrArg Path.names (Path.collapse_collapse search.paths.sceneRoot)
  simp [pathBelowRoot, Path.collapse, List.foldl_append,
    Path.foldl_collapseStep_of_notMem absent, collapsed]

section Scene

variable (wellFormed : disk.WellFormed) (scene : search.paths.HasScene disk names content)

include wellFormed scene

theorem collapse_pathBelow :
    (Disk.pathBelow search.paths.sceneRoot names).collapse = search.pathBelowRoot names := by
  simp [pathBelowRoot, Path.collapse, Disk.pathBelow, root, List.foldl_append,
    Path.foldl_collapseStep_of_notMem (scene.parentName_notMem wellFormed)]

theorem relativePath_pathBelowRoot (isPresent : Bool) :
    (search.candidate (search.pathBelowRoot names) isPresent).relativePath =
      Path.toText ⟨.relative, names⟩ := by
  rw [← collapse_pathBelow wellFormed scene]
  exact congrArg Path.toText
    (ProjectPaths.relativeTo_root wellFormed scene search.workingDirectory)

/-- Looked up from the root, a scene is where it is. -/
theorem located_toText :
    search.located (.ofText []) (Path.toText ⟨.relative, names⟩) = search.pathBelowRoot names := by
  have read : Path.ofText (Path.toText ⟨.relative, names⟩) = ⟨.relative, names⟩ :=
    Path.ofText_toText (scene.plain wellFormed)
  have here : search.root.join (.ofText []) = search.root := by
    rw [Path.join_of_relative rfl]
    exact congrArg (Path.mk _) (List.append_nil _)
  rw [located, read, here, Path.join_of_relative rfl]
  exact collapse_pathBelowRoot (scene.parentName_notMem wellFormed)

/-- The path of a scene and what leads to it from the root have the same ending. -/
theorem endsWith_extension_pathBelowRoot :
    Text.endsWith AssetType.sceneExtension (search.pathBelowRoot names).toText =
      Text.endsWith AssetType.sceneExtension (Path.toText ⟨.relative, names⟩) := by
  obtain empty | ⟨front, last, split⟩ := List.eq_nil_or_concat names
  · exact absurd empty scene.ne_nil
  · rw [List.concat_eq_append] at split
    have named : last ≠ [] := (scene.plain wellFormed last (by simp [split])).ne_nil
    have fromRoot : (search.pathBelowRoot names).names = search.root.names ++ front ++ [last] := by
      simp [pathBelowRoot, split]
    rw [endsWith_extension_toText fromRoot named,
      endsWith_extension_toText (p := ⟨.relative, names⟩) split named]

theorem mem_candidatePaths_pathBelowRoot (file : Option Path) :
    search.pathBelowRoot names ∈
        search.candidatePaths (Path.toText ⟨.relative, names⟩) file ↔
      Text.endsWith AssetType.sceneExtension (Path.toText ⟨.relative, names⟩) = true ∧
        search.paths.gameDirectory.anchor ≠ .doubleRoot := by
  rw [search.mem_candidatePaths file (Path.toText_ne_nil _),
    endsWith_extension_pathBelowRoot wellFormed scene]
  simp only [isWithinRoot, Bool.and_eq_true, decide_eq_true_eq, List.isPrefixOf_iff_prefix]
  constructor
  · rintro ⟨-, ends, ⟨-, single⟩, -⟩
    exact ⟨ends, single⟩
  · rintro ⟨ends, single⟩
    refine ⟨⟨[], List.mem_cons_self, _, mem_withExtension.mpr (.inl rfl), ?_⟩, ends,
      ⟨rfl, single⟩, List.prefix_append _ _⟩
    exact (located_toText wellFormed scene).symm

theorem isFile_pathBelowRoot (reach : search.paths.IsInReach disk) :
    disk.isFile (search.pathBelowRoot names) = true := by
  obtain ⟨root, found⟩ := ProjectPaths.find?_pathBelow wellFormed scene reach
  have direct := Disk.find?_collapse found
  rw [collapse_pathBelow wellFormed scene] at direct
  simp only [Disk.isFile, direct]

end Scene

/-- A listed scene is found by its own path, from wherever that is asked, exactly if its extension
is written in small letters and no two slashes stand before the root. Only where one of the
candidates is too long for the disk is there no answer. -/
theorem resolve_listed (wellFormed : disk.WellFormed) {scenes : List SceneCandidate}
    (found : search.files disk = .ok scenes) {scene : SceneCandidate} (listed : scene ∈ scenes)
    (clean : cleanSceneInput scene.relativePath = scene.relativePath) (file : Option Path) :
    let isSought := Text.endsWith AssetType.sceneExtension scene.relativePath = true ∧
      search.paths.gameDirectory.anchor ≠ .doubleRoot
    (∀ answer, search.resolve disk.askFile scene.relativePath file = .ok answer →
      ((∃ candidate ∈ answer, candidate.fullPath = scene.fullPath ∧ candidate.isPresent = true) ↔
        isSought) ∧
      (isSought → scene ∈ answer ∧
        ∃ best, search.resolveExisting? disk.askFile scene.relativePath file = .ok (some best))) ∧
    ((∃ answer, search.resolve disk.askFile scene.relativePath file = .ok answer) ↔
      ∀ path ∈ search.sought scene.relativePath file, ¬ disk.Overlong path) := by
  obtain ⟨reach, names, content, hasScene, rfl⟩ := (mem_files wellFormed found).mp listed
  rw [collapse_pathBelow wellFormed hasScene] at clean ⊢
  rw [relativePath_pathBelowRoot wellFormed hasScene] at clean ⊢
  rw [← mem_candidatePaths_pathBelowRoot wellFormed hasScene file]
  have there : disk.isFile (search.pathBelowRoot names) = true :=
    isFile_pathBelowRoot wellFormed hasScene reach
  have mem_sought {path : Path} : path ∈ search.sought (Path.toText ⟨.relative, names⟩) file ↔
      path ∈ search.candidatePaths (Path.toText ⟨.relative, names⟩) file := by
    rw [SceneSearch.mem_sought, clean]
    exact and_iff_right (Path.toText_ne_nil _)
  rw [← mem_sought]
  intro isSought
  refine ⟨fun answer answered => ?_, exists_resolve_askFile_iff⟩
  have asked (sought : isSought) : disk.askFile (search.pathBelowRoot names) = .ok true := by
    obtain ⟨isThere, asked⟩ := exists_resolve_iff.mp ⟨answer, answered⟩ _ sought
    have same := (Disk.askFile_eq_ok_iff.mp asked).2
    rw [there] at same
    exact same ▸ asked
  have scene_mem (sought : isSought) :
      search.candidate (search.pathBelowRoot names) true ∈ answer :=
    (mem_resolve answered).mpr ⟨_, sought, true, asked sought, rfl⟩
  refine ⟨⟨?_, fun sought => ⟨_, scene_mem sought, rfl, rfl⟩⟩,
    fun sought => ⟨scene_mem sought, ?_⟩⟩
  · rintro ⟨_, member, same, -⟩
    obtain ⟨other, inside, isThere, -, rfl⟩ := (mem_resolve answered).mp member
    have itself : other = search.pathBelowRoot names := same
    rw [itself] at inside
    exact inside
  · obtain ⟨best?, existing⟩ : ∃ best?,
        search.resolveExisting? disk.askFile (Path.toText ⟨.relative, names⟩) file = .ok best? :=
      exists_map_eq_ok_iff.mpr ⟨answer, answered⟩
    cases best? with
    | some best => exact ⟨best, existing⟩
    | none =>
      cases (asked sought).symm.trans (resolveExisting?_eq_none_iff.mp existing _ sought)

/-- A scene in a directory, referred to from a file beside the scene root. -/
theorem resolve_listed_nested :
    let search : SceneSearch := { paths := ⟨.ofText "old/../game"⟩ }
    let disk : Disk := ⟨.ofList [(["old"], .directory), (["game"], .directory),
      (["game", "scene"], .directory), (["game", "scene", "Act 1"], .directory),
      (["game", "scene", "Act 1", "a.txt"], .file (.text "end;"))], []⟩
    let scene := search.candidate (.ofText "game/scene/Act 1/a.txt") true
    (disk.WellFormed ∧ (∃ scenes, search.files disk = .ok scenes ∧ scene ∈ scenes) ∧
        cleanSceneInput scene.relativePath = scene.relativePath) ∧
      ∃ answer, search.resolve disk.askFile scene.relativePath (some (.ofText "../notes/b.md")) =
        .ok answer ∧ scene ∈ answer := by
  intro search disk scene
  have wellFormed : disk.WellFormed := by decide +kernel
  have found : search.files disk = .ok [scene] := eq_ok_of_toOption (by decide +kernel)
  have listed : scene ∈ [scene] := List.mem_singleton_self scene
  have clean : cleanSceneInput scene.relativePath = scene.relativePath := by decide +kernel
  let file : Option Path := some (.ofText "../notes/b.md")
  obtain ⟨finds, -⟩ := resolve_listed wellFormed found listed clean file
  have short : ∀ path ∈ search.sought scene.relativePath file,
      (disk.askFile path).toOption ≠ none := by
    decide +kernel
  obtain ⟨answer, answered⟩ := exists_resolve_iff.mpr fun path member =>
    have ⟨isThere, asked⟩ := Option.ne_none_iff_exists'.mp (short path member)
    ⟨isThere, eq_ok_of_toOption asked⟩
  refine ⟨⟨wellFormed, ⟨_, found, listed⟩, clean⟩, answer, answered, ?_⟩
  exact ((finds answer answered).2 ⟨by decide +kernel, by decide +kernel⟩).1

/-- A scene whose extension is written in capital letters is listed and not found. -/
theorem not_forall_listed_found :
    ¬ ∀ (search : SceneSearch) (disk : Disk) (scenes : List SceneCandidate), disk.WellFormed →
      search.files disk = .ok scenes → ∀ scene ∈ scenes,
      cleanSceneInput scene.relativePath = scene.relativePath →
      ∀ (file : Option Path) (answer : List SceneCandidate),
        search.resolve disk.askFile scene.relativePath file = .ok answer →
        ∃ candidate ∈ answer,
          candidate.fullPath = scene.fullPath ∧ candidate.isPresent = true := by
  intro finds
  let search : SceneSearch := { paths := ⟨.ofText "game"⟩ }
  let disk : Disk := ⟨.ofList [(["game"], .directory), (["game", "scene"], .directory),
    (["game", "scene", "A.TXT"], .file (.text "end;"))], []⟩
  let scene := search.candidate (.ofText "game/scene/A.TXT") true
  have found : search.files disk = .ok [scene] := eq_ok_of_toOption (by decide +kernel)
  have absent : ∀ path ∈ search.sought scene.relativePath none,
      (disk.askFile path).toOption = some false := by
    decide +kernel
  obtain ⟨answer, answered⟩ := exists_resolve_iff.mpr fun path member =>
    ⟨false, eq_ok_of_toOption (absent path member)⟩
  obtain ⟨candidate, member, -, present⟩ := finds search disk _ (by decide +kernel) found scene
    (List.mem_singleton_self scene) (by decide +kernel) none answer answered
  obtain ⟨path, inside, isThere, asked, rfl⟩ := (mem_resolve answered).mp member
  cases (eq_ok_of_toOption (absent path inside)).symm.trans asked
  cases present

end SceneScript.SceneSearch
