import SceneScript.Proofs.Disk.Detour
import SceneScript.Proofs.Disk.WellFormed
import SceneScript.Proofs.Scene.Creation

/-! # What stands at a created scene

A template is written where nothing stands, and what stands there already need not be a file. A
directory stays where it was, and so does one that was made just before, for the template itself.
The scene root is also accepted as a place for a scene.

* `Disk.node?_eq_directory_iff` — the directories after some were made;
* `SceneSearch.HoldsScene` — a file stands at a path, inside the scene root;
* `SceneSearch.createScene_holdsScene_iff` — when this is so for the path that a creation returns.
-/

namespace SceneScript

namespace Path

/-- What was collapsed stays so without its last name. -/
theorem collapse_parent {p : Path} (collapsed : p.collapse = p) : p.parent.collapse = p.parent := by
  obtain empty | ⟨front, last, ends⟩ := List.eq_nil_or_concat p.names
  · rw [parent, empty]
    rfl
  rw [List.concat_eq_append] at ends
  have stacked : collapseStep p.anchor (front.foldl (collapseStep p.anchor) []) last =
      last :: front.reverse := by
    have same := congrArg (List.reverse ∘ names) collapsed
    simpa [collapse, ends, List.foldl_append] using same
  have short : (front.foldl (collapseStep p.anchor) []).reverse.length ≤ front.length :=
    (foldl_collapseStep_sublist front []).length_le
  -- The last name is still there, so that nothing was taken off for it.
  have kept : front.foldl (collapseStep p.anchor) [] = front.reverse := by
    generalize front.foldl (collapseStep p.anchor) [] = stack at stacked short
    unfold collapseStep at stacked
    grind
  simp [parent, collapse, ends, kept]

end Path

namespace Disk

variable {disk later : Disk} {directory : Path} {place : Place}

/-- The directories after some were made are those from before and those on the way to the last. -/
theorem node?_eq_directory_iff (grows : disk.Grows (OnWay disk.workingDirectory directory) later)
    (collapsed : directory.collapse = directory) (made : later.isDirectory directory = true) :
    later.node? place = some .directory ↔
      disk.node? place = some .directory ∨
        place <+: (directory.absolute disk.workingDirectory).names := by
  constructor
  · intro found
    cases before : disk.node? place with
    | none => exact .inr ((grows.fresh _ _ before found).isPrefix collapsed)
    | some node =>
      have same : later.node? place = some node := grows.node _ _ before
      exact .inl (same.symm.trans found)
  · rintro (found | ⟨names, below⟩)
    · exact grows.node _ _ found
    · obtain ⟨there, found⟩ := isDirectory_iff.mp made
      have leads := absolute_of_find? grows.tree found
      rw [grows.workingDirectory, ← below] at leads
      -- In a tree what is above a directory is one too.
      have last : later.node? (place ++ names) = some .directory := by
        rw [leads]
        exact (find?_eq_some_iff.mp found).2
      by_cases whole : names = []
      · rwa [whole, List.append_nil] at last
      · exact grows.tree.isDirectory_above last whole

end Disk

/-- The file that is asked for, if any. -/
def SceneCreation.sceneSpelling? (options : SceneCreation) : Option Text :=
  if options.createDirectory then options.fileInDirectory?
  else if options.createFile then some options.fileSpelling
  else none

namespace SceneSearch

variable {search : SceneSearch} {options : SceneCreation} {today : CalendarDate}
  {disk later : Disk} {path : Path} {spelling : Text}

def placeOf (search : SceneSearch) (path : Path) : Place :=
  (path.absolute search.workingDirectory).names

/-- A file stands at the path, inside the scene root and not in its place. -/
def HoldsScene (search : SceneSearch) (disk : Disk) (path : Path) : Prop :=
  ∃ place content, disk.find? path = some (place, .file content) ∧
    search.rootPlace <+: place ∧ place ≠ search.rootPlace

/-! ## Targets -/

theorem placeOf_eq (targeted : search.target spelling = .ok path) :
    ∃ below, search.placeOf path = search.rootPlace ++ below ∧
      (below ≠ [] → search.placeOf path.parent = search.rootPlace ++ below.dropLast) := by
  obtain ⟨collapsed, within⟩ := target_eq_ok targeted
  obtain ⟨sameKind, below, names, absent⟩ := search.names_of_isWithinRoot collapsed within
  have root : (search.root.absolute search.workingDirectory).names = search.rootPlace := by
    rw [SceneSearch.root, Path.absolute_collapse, rootPlace]
  refine ⟨below, ?_, fun named => ?_⟩
  · rw [placeOf, Path.names_absolute_append sameKind names absent, root]
  · have above : path.parent.names = search.root.names ++ below.dropLast := by
      rw [Path.parent, names, List.dropLast_append_of_ne_nil named]
    have absentAbove : Path.parentName ∉ below.dropLast :=
      fun member => absent (List.dropLast_subset _ member)
    have sameKindAbove : path.parent.isAbsolute = search.root.isAbsolute := sameKind
    rw [placeOf, Path.names_absolute_append sameKindAbove above absentAbove, root]

/-- No directory above a target stands in its place, unless it is the scene root. -/
theorem not_isPrefix_parent (targeted : search.target spelling = .ok path)
    (inside : search.placeOf path ≠ search.rootPlace) :
    ¬ search.placeOf path <+: search.placeOf path.parent := by
  obtain ⟨below, there, parent⟩ := placeOf_eq targeted
  have named : below ≠ [] := by
    rintro rfl
    rw [List.append_nil] at there
    exact inside there
  intro onWay
  have shorter := onWay.length_le
  have positive := List.length_pos_iff.mpr named
  rw [there, parent named, List.length_append, List.length_append, List.length_dropLast] at shorter
  omega

/-! ## Templates -/

/-- After a template was written, something stands at its path: what was there, or a file. -/
theorem exists_find?_writeTemplate (tree : disk.IsTree)
    (written : writeTemplate disk today path = .ok later) :
    ∃ node, later.find? path = some ((path.absolute disk.workingDirectory).names, node) ∧
      (node = .directory ↔
        disk.node? (path.absolute disk.workingDirectory).names = some .directory) := by
  have absent := tree.named _ _ tree.working
  rcases writeTemplate_eq_ok written with ⟨rfl, node, asked⟩ | ⟨place, follows, free, rfl⟩
  · unfold Disk.ask at asked
    split at asked
    next place found here =>
      cases asked
      have there : later.find? path = some (place, node) := by rw [Disk.find?, here]; rfl
      have same := Disk.place_of_follow absent (Disk.find?_eq_some_iff.mp there).1
      subst same
      refine ⟨node, there, ?_⟩
      rw [(Disk.find?_eq_some_iff.mp there).2, Option.some.injEq]
    next => cases asked
    next => cases asked
  · have same := Disk.place_of_follow absent follows
    subst same
    refine ⟨_, Disk.find?_put follows free _, ?_⟩
    rw [free]
    exact iff_of_false nofun nofun

theorem holdsScene_writeTemplate_iff (here : search.workingDirectory = disk.workingDirectory)
    (tree : disk.IsTree) (targeted : search.target spelling = .ok path)
    (written : writeTemplate disk today path = .ok later) :
    search.HoldsScene later path ↔
      search.placeOf path ≠ search.rootPlace ∧
        disk.node? (search.placeOf path) ≠ some .directory := by
  obtain ⟨node, found, kind⟩ := exists_find?_writeTemplate tree written
  rw [← here] at found kind
  obtain ⟨below, there, -⟩ := placeOf_eq targeted
  have inRoot : search.rootPlace <+: search.placeOf path := ⟨below, there.symm⟩
  have free : disk.node? (search.placeOf path) ≠ some .directory ↔ node ≠ .directory :=
    not_congr kind.symm
  rw [free]
  constructor
  · rintro ⟨place, content, stands, -, inside⟩
    rw [found] at stands
    cases stands
    refine ⟨inside, fun isDirectory => ?_⟩
    cases isDirectory
  · rintro ⟨inside, isFile⟩
    cases node with
    | directory => exact absurd rfl isFile
    | file content => exact ⟨_, content, found, inRoot, inside⟩

theorem attempt_writeTemplate_eq_ok {result : Except CreationFault (Option Path)}
    {returned : Option Path}
    (ok : (attempt (disk.attempt (writeTemplate disk today path)) (⟨result, ·⟩)).result =
      .ok returned) :
    result = .ok returned ∧ ∃ later, writeTemplate disk today path = .ok later ∧
      attempt (disk.attempt (writeTemplate disk today path)) (⟨result, ·⟩) = ⟨result, later⟩ := by
  cases written : writeTemplate disk today path with
  | error e =>
    rw [written] at ok
    cases ok
  | ok later =>
    rw [written] at ok
    exact ⟨ok, later, rfl, rfl⟩

/-! ## Created scenes -/

section Created

variable {returned : Option Path} (here : search.workingDirectory = disk.workingDirectory)
  (tree : disk.IsTree)

include here tree

/-- The directories that are made for a template never stand in its place. -/
theorem createFile_holdsScene_iff
    (ok : (search.createFile today options disk).result = .ok returned) :
    ∃ path, returned = some path ∧ search.target options.fileSpelling = .ok path ∧
      (search.HoldsScene (search.createFile today options disk).disk path ↔
        search.placeOf path ≠ search.rootPlace ∧
          disk.node? (search.placeOf path) ≠ some .directory) := by
  unfold createFile at ok ⊢
  cases targeted : search.target options.fileSpelling with
  | error fault =>
    rw [targeted] at ok
    cases ok
  | ok path =>
    simp only [targeted] at ok ⊢
    rcases attempt_eq (disk.buildDirectories path.parent) _ with ⟨error, failed⟩ | ⟨done, goesOn⟩
    · rw [failed] at ok
      cases ok
    rw [goesOn] at ok ⊢
    obtain ⟨same, later, written, finished⟩ := attempt_writeTemplate_eq_ok ok
    cases same
    rw [finished]
    refine ⟨path, rfl, rfl, ?_⟩
    have grown := Disk.grows_buildDirectories tree path.parent
    have hereToo := here.trans grown.workingDirectory.symm
    rw [holdsScene_writeTemplate_iff hereToo grown.tree targeted written]
    refine and_congr_right fun inside => not_congr ?_
    rw [Disk.node?_eq_directory_iff grown (Path.collapse_parent (target_eq_ok targeted).1)
      (Disk.isDirectory_buildDirectories done), ← here]
    exact or_iff_left (not_isPrefix_parent targeted inside)

/-- The directory that was asked for stands in the place of the template where this leads to it. -/
theorem createDirectory_holdsScene_iff (inDirectory : options.fileInDirectory? = some spelling)
    (ok : (search.createDirectory today options disk).result = .ok returned) :
    ∃ path directory, returned = some path ∧ search.target spelling = .ok path ∧
      search.target options.directorySpelling = .ok directory ∧
      (search.HoldsScene (search.createDirectory today options disk).disk path ↔
        search.placeOf path ≠ search.rootPlace ∧
          disk.node? (search.placeOf path) ≠ some .directory ∧
          ¬ search.placeOf path <+: search.placeOf directory) := by
  unfold createDirectory at ok ⊢
  cases directoryTargeted : search.target options.directorySpelling with
  | error fault =>
    rw [directoryTargeted] at ok
    cases ok
  | ok directory =>
    simp only [directoryTargeted, inDirectory] at ok ⊢
    rcases attempt_eq (disk.buildDirectories directory) _ with ⟨error, failed⟩ | ⟨done, goesOn⟩
    · rw [failed] at ok
      cases ok
    rw [goesOn] at ok ⊢
    cases targeted : search.target spelling with
    | error fault =>
      simp only [targeted] at ok
      cases ok
    | ok path =>
      simp only [targeted] at ok ⊢
      obtain ⟨same, later, written, finished⟩ := attempt_writeTemplate_eq_ok ok
      cases same
      rw [finished]
      refine ⟨path, directory, rfl, rfl, rfl, ?_⟩
      have grown := Disk.grows_buildDirectories tree directory
      have hereToo := here.trans grown.workingDirectory.symm
      rw [holdsScene_writeTemplate_iff hereToo grown.tree targeted written]
      refine and_congr_right fun inside => ?_
      rw [ne_eq, Disk.node?_eq_directory_iff grown (target_eq_ok directoryTargeted).1
        (Disk.isDirectory_buildDirectories done), ← here, not_or]
      rfl

end Created

/-- A creation that returns has a file at the returned path, inside the scene root, just if the path
is not that of the root, no directory stood in its place, and none was made there for the directory
that was asked for. -/
theorem createScene_holdsScene_iff (search : SceneSearch) (today : CalendarDate)
    (options : SceneCreation) {disk : Disk}
    (here : search.workingDirectory = disk.workingDirectory) (tree : disk.IsTree)
    (makesFile : options.createFile = true)
    (named : options.createDirectory = true → SceneCreation.nonempty options.fileName ≠ none)
    {returned : Option Path}
    (ok : (search.createScene today options disk).result = .ok returned) :
    ∃ path spelling, returned = some path ∧ options.sceneSpelling? = some spelling ∧
      search.target spelling = .ok path ∧
      (search.HoldsScene (search.createScene today options disk).disk path ↔
        search.placeOf path ≠ search.rootPlace ∧
          disk.node? (search.placeOf path) ≠ some .directory ∧
          ∀ directory, options.createDirectory = true →
            search.target options.directorySpelling = .ok directory →
              ¬ search.placeOf path <+: search.placeOf directory) := by
  unfold createScene at ok ⊢
  unfold SceneCreation.sceneSpelling?
  cases makesDirectory : options.createDirectory with
  | false =>
    simp only [makesDirectory, makesFile, Bool.false_eq_true, if_false, if_true] at ok ⊢
    obtain ⟨path, same, targeted, holds⟩ := createFile_holdsScene_iff here tree ok
    refine ⟨path, _, same, rfl, targeted, ?_⟩
    simpa using holds
  | true =>
    simp only [makesDirectory, if_true] at ok ⊢
    obtain ⟨fileName, given⟩ := Option.ne_none_iff_exists'.mp (named makesDirectory)
    have inDirectory : options.fileInDirectory? =
        some (joinText options.directorySpelling fileName) := by
      rw [SceneCreation.fileInDirectory?, if_pos makesFile, given, Option.map_some]
    obtain ⟨path, directory, same, targeted, directoryTargeted, holds⟩ :=
      createDirectory_holdsScene_iff here tree inDirectory ok
    refine ⟨path, _, same, inDirectory, targeted, ?_⟩
    rw [holds, directoryTargeted]
    simp

/-- Besides a file there is a directory with the name that the second scene is to have. -/
def chapterDisk : Disk :=
  ⟨.ofList [(["game"], .directory), (["game", "scene"], .directory),
    (["game", "scene", "start.txt"], .file (.text "end;")),
    (["game", "scene", "chapter1"], .directory)], []⟩

def chapter : SceneCreation := { createFile := true, fileName := some "chapter1" }

def scene : SceneCreation := { chapter with directory := some "chapter1" }

/-- In a directory a scene may have the name of the directory. -/
theorem createScene_holdsScene_inside :
    smallSearch.HoldsScene (smallSearch.createScene ⟨2024, 5, 6⟩ scene chapterDisk).disk
      ⟨.relative, ["game", "scene", "chapter1", "chapter1"]⟩ := by
  have ok : (smallSearch.createScene ⟨2024, 5, 6⟩ scene chapterDisk).result =
      .ok (some ⟨.relative, ["game", "scene", "chapter1", "chapter1"]⟩) := by decide +kernel
  obtain ⟨path, spelling, same, -, -, holds⟩ :=
    createScene_holdsScene_iff smallSearch ⟨2024, 5, 6⟩ scene rfl (by decide) rfl nofun ok
  cases same
  refine holds.mpr ⟨by decide, by decide, nofun⟩

/-- It is not the case that a file stands at every path that a creation returns. -/
theorem not_forall_holdsScene :
    ¬ ∀ (search : SceneSearch) (today : CalendarDate) (options : SceneCreation) (disk : Disk),
      search.workingDirectory = disk.workingDirectory → disk.IsTree →
      options.createFile = true →
      (options.createDirectory = true → SceneCreation.nonempty options.fileName ≠ none) →
      ∀ path, (search.createScene today options disk).result = .ok (some path) →
        search.HoldsScene (search.createScene today options disk).disk path := by
  intro law
  have ok : (smallSearch.createScene ⟨2024, 5, 6⟩ chapter chapterDisk).result =
      .ok (some ⟨.relative, ["game", "scene", "chapter1"]⟩) := by decide +kernel
  obtain ⟨place, content, found, -, -⟩ :=
    law smallSearch ⟨2024, 5, 6⟩ chapter chapterDisk rfl (by decide) rfl nofun _ ok
  have isFile := Disk.isFile_iff.mpr ⟨place, content, found⟩
  revert isFile
  decide +kernel

end SceneSearch

end SceneScript
