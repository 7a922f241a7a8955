import SceneScript.Proofs.Scene.Candidates

/-! # Where a reference is looked for

The candidates of a reference are the scene files that it names under the root, in a directory on
the way to the referring file or in a usual one: these and no others, whichever of them exist.

* `SceneSearch.LiesIn` — the directory of a file, seen from the scene root;
* `SceneSearch.Searched` — the directories in which a reference is looked for;
* `SceneSearch.Reaches` — the paths that a reference may mean;
* `SceneSearch.resolve_exact` — the candidates are these paths, and the first that exists is found;
* `SceneSearch.not_forall_exists_resolveExisting?` — a search that fails.
-/

namespace SceneScript.SceneSearch

/-- These names lead from the scene root to the directory of the file. A relative path to the file
starts from the game directory. -/
structure LiesIn (search : SceneSearch) (file : Path) (names : List Text) : Prop where
  place : ((search.paths.gameDirectory.join file).parent.absolute search.workingDirectory).names =
    (search.root.absolute search.workingDirectory).names ++ names
  plain : ∀ name ∈ names, Path.Plain name

theorem LiesIn.referringDirectory {search : SceneSearch} {file : Path} {names : List Text}
    (lies : search.LiesIn file names) : search.referringDirectory file = ⟨.relative, names⟩ := by
  have joined : (if file.isAbsolute = true then file else search.paths.gameDirectory.join file) =
      search.paths.gameDirectory.join file := by
    split
    next absolute => exact (Path.join_of_isAbsolute absolute).symm
    next => rfl
  unfold SceneSearch.referringDirectory
  rw [joined]
  apply Path.relativeTo_of_below
  rw [Path.absolute_collapse]
  exact lies.place

/-- The names that lead from the scene root to a directory that is searched: the root itself, a
directory on the way to the one of the referring file and not too far above it, or a usual one. -/
inductive Searched (names : List Text) : List Text → Prop where
  | root : Searched names []
  | near {depth : Nat} (named : 1 ≤ depth) (inside : depth ≤ names.length)
      (close : names.length ≤ depth + maxParentLevels) : Searched names (names.take depth)
  | usual {directory : Text} (member : directory ∈ commonDirectories) :
      Searched names (Path.namesOf directory)

/-- A file to try for a reference from a directory, where it is a scene under the root. -/
structure Reaches (search : SceneSearch) (names : List Text) (reference : Text) (path : Path) :
    Prop where
  located : ∃ directory ending, Searched names directory ∧
    (ending = reference ∨ Text.endsWith AssetType.sceneExtension reference = false ∧
      ending = reference ++ AssetType.sceneExtension) ∧
    path = ((search.root.join ⟨.relative, directory⟩).join (.ofText ending)).collapse
  ends : Text.endsWith AssetType.sceneExtension path.toText = true
  sameKind : path.isAbsolute = search.root.isAbsolute
  inside : search.root.names <+: path.names

section Exact

variable {search : SceneSearch} {file : Path} {names : List Text}

/-- What the spelled directories name is what is searched. -/
theorem exists_mem_directorySpellings_iff (lies : search.LiesIn file names)
    (found : Path → Prop) :
    (∃ directory ∈ [] :: search.directorySpellings (some file), found (.ofText directory)) ↔
      ∃ directory, Searched names directory ∧ found ⟨.relative, directory⟩ := by
  have read {names : List Text} (plain : ∀ name ∈ names, Path.Plain name) :
      Path.ofText (Path.toText ⟨.relative, names⟩) = ⟨.relative, names⟩ := Path.ofText_toText plain
  have plainTake (depth : Nat) : ∀ name ∈ names.take depth, Path.Plain name := fun name member =>
    lies.plain name (List.mem_of_mem_take member)
  simp only [directorySpellings, lies.referringDirectory, List.mem_cons, List.mem_append,
    List.mem_map, mem_ancestors]
  constructor
  · rintro ⟨_, rfl | (rfl | ⟨_, ⟨depth, named, inside, close, rfl⟩, rfl⟩) | usual, holds⟩
    · exact ⟨[], .root, holds⟩
    · -- the directory of the file, which is the root where no names lead to it
      rw [read lies.plain] at holds
      cases length : names.length with
      | zero =>
        rw [List.length_eq_zero_iff.mp length] at holds
        exact ⟨[], .root, holds⟩
      | succ count =>
        have itself : Searched names (names.take names.length) :=
          .near (by omega) (Nat.le_refl _) (Nat.le_add_right ..)
        rw [List.take_length] at itself
        exact ⟨names, itself, holds⟩
    · rw [read (plainTake depth)] at holds
      exact ⟨_, .near named (Nat.le_of_lt inside) close, holds⟩
    · rw [ofText_of_mem_commonDirectories usual] at holds
      exact ⟨_, .usual usual, holds⟩
  · rintro ⟨_, searched, holds⟩
    cases searched with
    | root => exact ⟨[], .inl rfl, holds⟩
    | @near depth named inside close =>
      refine ⟨Path.toText ⟨.relative, names.take depth⟩, .inr (.inl ?_), by
        rw [read (plainTake depth)]; exact holds⟩
      rcases Nat.lt_or_eq_of_le inside with above | same
      · exact .inr ⟨_, ⟨depth, named, above, close, rfl⟩, rfl⟩
      · exact .inl (by rw [same, List.take_length])
    | @usual directory member =>
      refine ⟨directory, .inr (.inr member), ?_⟩
      rw [ofText_of_mem_commonDirectories member]
      exact holds

theorem mem_candidatePaths_iff (single : search.paths.gameDirectory.anchor ≠ .doubleRoot)
    {reference : Text} (nonempty : reference ≠ []) (lies : search.LiesIn file names) {path : Path} :
    path ∈ search.candidatePaths reference (some file) ↔ search.Reaches names reference path := by
  have rooted : search.root.anchor ≠ .doubleRoot := single
  rw [search.mem_candidatePaths (some file) nonempty]
  simp only [isWithinRoot, Bool.and_eq_true, decide_eq_true_eq, List.isPrefixOf_iff_prefix]
  rw [exists_mem_directorySpellings_iff lies fun directory =>
    ∃ ending ∈ withExtension reference, path = search.located directory ending]
  constructor
  · rintro ⟨⟨directory, searched, ending, member, located⟩, ends, ⟨sameKind, -⟩, inside⟩
    exact ⟨⟨directory, ending, searched, mem_withExtension.mp member, located⟩, ends, sameKind,
      inside⟩
  · rintro ⟨⟨directory, ending, searched, spelled, located⟩, ends, sameKind, inside⟩
    exact ⟨⟨directory, searched, ending, mem_withExtension.mpr spelled, located⟩, ends,
      ⟨sameKind, rooted⟩, inside⟩

end Exact

/-! ## The best match -/

section Existing

variable {search : SceneSearch} {isFile : Path → Except DiskError Bool} {input : Text}
  {file : Option Path}

theorem resolveExisting?_eq_none_iff :
    search.resolveExisting? isFile input file = .ok none ↔
      ∀ path ∈ search.sought input file, isFile path = .ok false := by
  simp only [resolveExisting?, map_eq_ok_iff, List.find?_eq_none, Bool.not_eq_true]
  constructor
  · rintro ⟨candidates, answered, absent⟩ path member
    obtain ⟨isThere, answer⟩ := exists_resolve_iff.mp ⟨candidates, answered⟩ path member
    have gone := absent _ ((mem_resolve answered).mpr ⟨path, member, isThere, answer, rfl⟩)
    rwa [show isThere = false from gone] at answer
  · intro absent
    obtain ⟨candidates, answered⟩ :=
      exists_resolve_iff.mpr fun path member => ⟨false, absent path member⟩
    refine ⟨candidates, answered, fun candidate member => ?_⟩
    obtain ⟨path, inside, isThere, answer, rfl⟩ := (mem_resolve answered).mp member
    exact Except.ok.inj (answer.symm.trans (absent path inside))

/-- The first candidate that exists has the least relative path of all that do. -/
theorem of_resolveExisting?_eq_some {best : SceneCandidate}
    (found : search.resolveExisting? isFile input file = .ok (some best)) :
    ∃ candidates, search.resolve isFile input file = .ok candidates ∧ best ∈ candidates ∧
      best.isPresent = true ∧ ∀ other ∈ candidates, other.isPresent = true →
        Text.ble best.relativePath other.relativePath = true := by
  obtain ⟨candidates, answered, isFirst⟩ := map_eq_ok_iff.mp found
  obtain ⟨present, before, after, split, absent⟩ := List.find?_eq_some_iff_append.mp isFirst
  have order := pairwise_resolve answered
  refine ⟨candidates, answered, List.mem_of_find?_eq_some isFirst, present,
    fun other member presentToo => ?_⟩
  rw [split] at order member
  rcases List.mem_append.mp member with earlier | fromHere
  · have gone := absent other earlier
    simp [presentToo] at gone
  · rcases List.mem_cons.mp fromHere with rfl | later
    · exact (Bool.or_self _).symm.trans (Text.ble_total other.relativePath other.relativePath)
    · have first := (List.pairwise_cons.mp (List.pairwise_append.mp order).2.1).1 other later
      exact (precedes_iff.mp first).2 (present.trans presentToo.symm)

end Existing

/-- The candidates of a reference are the paths that it reaches, whichever of them exist. There is
an answer if it can be asked of each of them whether it is a file; on a disk, unless one of them is
too long. -/
theorem resolve_exact {search : SceneSearch} {input : Text} {file : Path} {names : List Text}
    (single : search.paths.gameDirectory.anchor ≠ .doubleRoot)
    (nonempty : cleanSceneInput input ≠ []) (lies : search.LiesIn file names) :
    (∀ isFile candidates, search.resolve isFile input (some file) = .ok candidates →
      ∀ path, path ∈ candidates.map (·.fullPath) ↔
        search.Reaches names (cleanSceneInput input) path) ∧
    (∀ isFile, search.resolveExisting? isFile input (some file) = .ok none ↔
      ∀ path, search.Reaches names (cleanSceneInput input) path → isFile path = .ok false) ∧
    (∀ isFile best, search.resolveExisting? isFile input (some file) = .ok (some best) →
      search.Reaches names (cleanSceneInput input) best.fullPath ∧
      isFile best.fullPath = .ok true ∧ best = search.candidate best.fullPath true ∧
      ∀ path, search.Reaches names (cleanSceneInput input) path → isFile path = .ok true →
        Text.ble best.relativePath (search.candidate path true).relativePath = true) ∧
    (∀ isFile, (∃ candidates, search.resolve isFile input (some file) = .ok candidates) ↔
      ∀ path, search.Reaches names (cleanSceneInput input) path →
        ∃ isThere, isFile path = .ok isThere) ∧
    ∀ disk : Disk,
      ((∃ candidates, search.resolve disk.askFile input (some file) = .ok candidates) ↔
        ∀ path, search.Reaches names (cleanSceneInput input) path → ¬ disk.Overlong path) ∧
      ((∃ best?, search.resolveExisting? disk.askFile input (some file) = .ok best?) ↔
        ∀ path, search.Reaches names (cleanSceneInput input) path → ¬ disk.Overlong path) := by
  have reached {path : Path} : path ∈ search.sought input (some file) ↔
      search.Reaches names (cleanSceneInput input) path := by
    rw [mem_sought, mem_candidatePaths_iff single nonempty lies]
    exact and_iff_right nonempty
  simp only [← reached]
  refine ⟨fun isFile candidates answered path => mem_fullPaths_resolve answered,
    fun isFile => resolveExisting?_eq_none_iff, fun isFile best found => ?_,
    fun isFile => exists_resolve_iff,
    fun disk => ⟨exists_resolve_askFile_iff, exists_map_eq_ok_iff.trans exists_resolve_askFile_iff⟩⟩
  obtain ⟨candidates, answered, member, present, least⟩ := of_resolveExisting?_eq_some found
  obtain ⟨path, inside, isThere, answer, rfl⟩ := (mem_resolve answered).mp member
  obtain rfl : isThere = true := present
  refine ⟨inside, answer, rfl, fun other reaches isFileToo => ?_⟩
  exact least _ ((mem_resolve answered).mpr ⟨other, reaches, true, isFileToo, rfl⟩) rfl

/-- A scene next to the referring file is found. -/
theorem resolve_exact_nearby :
    LiesIn { paths := ⟨.ofText "game"⟩, workingDirectory := ["home"] } (.ofText "scene/a/b.txt")
        ["a"] ∧
      ∃ best, resolveExisting? { paths := ⟨.ofText "game"⟩, workingDirectory := ["home"] }
        (fun path => .ok (path = .ofText "game/scene/a/start.txt")) "start"
        (some (.ofText "scene/a/b.txt")) = .ok (some best) := by
  have plain : ∀ name ∈ ([("a" : Text)] : List Text), Path.Plain name := by
    intro name member
    rw [List.mem_singleton.mp member]
    exact ⟨by decide, by decide, by decide⟩
  have lies : LiesIn { paths := ⟨.ofText "game"⟩, workingDirectory := ["home"] }
      (.ofText "scene/a/b.txt") ["a"] := ⟨by decide, plain⟩
  refine ⟨lies, ?_⟩
  have nonempty : cleanSceneInput "start" ≠ [] := by decide +kernel
  obtain ⟨-, absent, -, answers, -⟩ := resolve_exact (by decide) nonempty lies
  let isFile : Path → Except DiskError Bool :=
    fun path => .ok (path = .ofText "game/scene/a/start.txt")
  obtain ⟨candidates, answered⟩ := (answers isFile).mpr fun path _ => ⟨_, rfl⟩
  obtain ⟨best?, found⟩ : ∃ best?, resolveExisting?
      { paths := ⟨.ofText "game"⟩, workingDirectory := ["home"] } isFile "start"
        (some (.ofText "scene/a/b.txt")) = .ok best? :=
    exists_map_eq_ok_iff.mpr ⟨candidates, answered⟩
  cases best? with
  | some best => exact ⟨best, found⟩
  | none =>
    have reaches : Reaches { paths := ⟨.ofText "game"⟩, workingDirectory := ["home"] } ["a"]
        (cleanSceneInput "start") (.ofText "game/scene/a/start.txt") := by
      refine ⟨⟨["a"], "start.txt", .near (Nat.le_refl 1) (by decide) (by decide), .inr ?_, ?_⟩,
        by decide +kernel, by decide +kernel, by decide +kernel⟩
      · decide +kernel
      · decide +kernel
    have gone := (absent isFile).mp found _ reaches
    simp [isFile] at gone

/-- A reference may have no answer at all, although none of the files that it may mean exists. -/
theorem not_forall_exists_resolveExisting? :
    ¬ ∀ (search : SceneSearch) (input : Text) (file : Path) (names : List Text) (disk : Disk),
        search.paths.gameDirectory.anchor ≠ .doubleRoot → cleanSceneInput input ≠ [] →
        search.LiesIn file names →
        ∃ best?, search.resolveExisting? disk.askFile input (some file) = .ok best? := by
  intro answers
  let search : SceneSearch := { paths := ⟨.ofText "game"⟩ }
  let disk : Disk := { nodes := ⟨[(["game"], .directory), (["game", "scene"], .directory)]⟩ }
  let name : Text := List.replicate 252 'n'
  have lies : search.LiesIn (.ofText "scene/a.txt") [] := ⟨by decide, by simp⟩
  let path : Path := ⟨.relative, ["game", "scene", name ++ ".txt"]⟩
  have sought : path ∈ search.sought name (some (.ofText "scene/a.txt")) := by decide +kernel
  have long : disk.Overlong path :=
    ⟨by decide +kernel, .inr ⟨["game", "scene"], name ++ ".txt", [], ["game", "scene"], rfl, rfl,
      by decide +kernel, by decide +kernel⟩⟩
  have found := answers search name _ [] disk (by decide) (by decide +kernel) lies
  exact exists_resolve_askFile_iff.mp (exists_map_eq_ok_iff.mp found) path sought long

end SceneScript.SceneSearch
