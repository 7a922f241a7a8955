import SceneScript.Proofs.Disk.Subdirectories
import SceneScript.Proofs.Scene.Listed

/-! # The directories of scenes

The directories under the scene root are looked into one after the other, and what is found is both
listed and kept to be looked into later. This ends, as every step puts one directory behind it and
all of them lie below the root. It ends without a listing where some path below the root is too
long, even if it is that of a file.

* `Exploration.step_of_sound` — a step keeps what is found in the end, and lowers the work by one;
* `Exploration.run_of_sound` — enough steps find everything, or meet a fault;
* `ProjectPaths.ListsDirectories` — a sorted list of all the directories, each once;
* `SceneSearch.directories_exact` — when there is a listing, and what is in it;
* `SceneSearch.not_forall_directories` — a file whose path is too long.
-/

namespace SceneScript

namespace SceneSearch.Exploration

variable {disk : Disk} {exploration : Exploration} {steps : Nat}

/-- The directories that are found in the end, if the disk can tell all entries apart. -/
def all (disk : Disk) (exploration : Exploration) : List Path :=
  exploration.found ++ exploration.pending.flatMap disk.directoriesBelow

/-- How many directories are still to be looked into, now or later. -/
def work (disk : Disk) (exploration : Exploration) : Nat :=
  exploration.pending.length + (exploration.pending.flatMap disk.directoriesBelow).length

/-- Only directories are looked into. -/
def Sound (disk : Disk) (exploration : Exploration) : Prop :=
  ∀ path ∈ exploration.pending, ∃ place, disk.find? path = some (place, .directory)

/-- Nothing is too far below what is still to be looked into. -/
def InReach (disk : Disk) (exploration : Exploration) : Prop :=
  ∀ path ∈ exploration.pending, disk.InReach path

theorem pending_eq_nil_of_work (done : exploration.work disk = 0) : exploration.pending = [] :=
  List.length_eq_zero_iff.mp (Nat.eq_zero_of_add_eq_zero_right done)

/-! ## Steps -/

theorem step_of_clear {current : Path} {pending found : List Path}
    (clear : ∃ entries, disk.list current = .ok entries) :
    step disk ⟨current :: pending, found⟩ =
      .ok ⟨(disk.subdirectories current).reverse ++ pending,
        found ++ disk.subdirectories current⟩ := by
  obtain ⟨entries, listed⟩ := clear
  simp only [step, listed, Except.map, Disk.subdirectories, (Disk.list_eq_ok_iff.mp listed).2.2]

theorem step_of_fault {current : Path} {pending found : List Path} {error : DiskError}
    (fault : disk.list current = .error error) :
    step disk ⟨current :: pending, found⟩ = .error error := by
  simp only [step, fault, Except.map]

/-- A step that meets no fault finds nothing else in the end, and leaves one directory less. -/
theorem step_of_sound (wellFormed : disk.WellFormed) {current : Path} {pending found : List Path}
    (sound : Sound disk ⟨current :: pending, found⟩)
    (clear : ∃ entries, disk.list current = .ok entries) :
    ∃ next, step disk ⟨current :: pending, found⟩ = .ok next ∧ next.Sound disk ∧
      (next.all disk).Perm (all disk ⟨current :: pending, found⟩) ∧
      next.work disk + 1 = work disk ⟨current :: pending, found⟩ ∧
      (next.InReach disk ↔ InReach disk ⟨current :: pending, found⟩) := by
  have below := Disk.directoriesBelow_perm wellFormed clear
  have turned : ((disk.subdirectories current).reverse.flatMap disk.directoriesBelow).Perm
      ((disk.subdirectories current).flatMap disk.directoriesBelow) :=
    (List.reverse_perm _).flatMap_right _
  obtain ⟨here, pendingSound⟩ := List.forall_mem_cons.mp sound
  refine ⟨_, step_of_clear clear, ?_, ?_, ?_, ?_⟩
  · intro path member
    rcases List.mem_append.mp member with inside | later
    · exact Disk.exists_find?_of_mem_subdirectories wellFormed clear (List.mem_reverse.mp inside)
    · exact pendingSound path later
  · -- what lies below the current directory is what it holds, found now, and what lies below that
    simp only [all, List.flatMap_append, List.flatMap_cons, List.append_assoc]
    refine List.Perm.append_left found ?_
    rw [← List.append_assoc]
    exact ((turned.append_left _).trans below.symm).append_right _
  · simp only [work, List.flatMap_append, List.flatMap_cons, List.length_append,
      List.length_cons, List.length_reverse, turned.length_eq, below.length_eq]
    omega
  · obtain ⟨place, found⟩ := here
    simp only [InReach, List.mem_append, List.mem_reverse, List.mem_cons, or_imp, forall_and,
      forall_eq, Disk.inReach_iff wellFormed found, clear, true_and]

/-! ## Runs -/

theorem run_of_nil (found : List Path) : run disk steps ⟨[], found⟩ = .ok ⟨[], found⟩ := by
  induction steps with
  | zero => rfl
  | succ steps ih => simpa only [run, step] using ih

/-- A run with enough steps looks into everything, or meets a path that is too long. -/
theorem run_of_sound (wellFormed : disk.WellFormed) (sound : exploration.Sound disk)
    (enough : exploration.work disk ≤ steps) :
    (exploration.InReach disk ∧ ∃ found, run disk steps exploration = .ok ⟨[], found⟩ ∧
        found.Perm (exploration.all disk)) ∨
      (¬ exploration.InReach disk ∧ ∃ error, run disk steps exploration = .error error ∧
        error.fault = .nameTooLong) := by
  -- the work falls with the steps, so that none is left to do when no step is left
  induction steps generalizing exploration with
  | zero =>
    obtain ⟨pending, found⟩ := exploration
    obtain rfl : pending = [] := pending_eq_nil_of_work (Nat.le_zero.mp enough)
    exact .inl ⟨List.forall_mem_nil _, found, rfl, by simp [all]⟩
  | succ steps ih =>
    obtain ⟨pending, found⟩ := exploration
    cases pending with
    | nil => exact .inl ⟨List.forall_mem_nil _, found, run_of_nil found, by simp [all]⟩
    | cons current pending =>
      obtain ⟨⟨place, here⟩, -⟩ := List.forall_mem_cons.mp sound
      cases listed : disk.list current with
      | ok entries =>
        obtain ⟨next, stepped, nextSound, sameAll, less, sameReach⟩ :=
          step_of_sound wellFormed sound ⟨entries, listed⟩
        have nextEnough : next.work disk ≤ steps := by omega
        simp only [run, stepped]
        rw [← sameReach]
        refine (ih nextSound nextEnough).imp_left ?_
        rintro ⟨reach, found, ran, same⟩
        exact ⟨reach, found, ran, same.trans sameAll⟩
      | error error =>
        have noNull := (Disk.of_follow (Disk.find?_eq_some_iff.mp here).1).1
        refine .inr ⟨fun reach => ?_, error, ?_, Disk.fault_of_list_eq_error noNull listed⟩
        · have near := (Disk.inReach_iff wellFormed here).mp (reach current List.mem_cons_self)
          obtain ⟨entries, listedToo⟩ := near.1
          cases listed.symm.trans listedToo
        · simp only [run, step_of_fault listed]

/-- There is no more to look into than there are nodes. -/
theorem work_root_le (disk : Disk) (path : Path) :
    work disk ⟨[path], []⟩ ≤ disk.nodes.size + 1 := by
  have below : (disk.directoriesBelow path).length ≤ disk.nodes.size := by
    unfold Disk.directoriesBelow
    split
    next place _ =>
      rw [List.length_map]
      exact Nat.le_trans (List.length_filter_le _ _) (List.length_filterMap_le _ _)
    next => exact Nat.zero_le _
  simpa [work, Nat.add_comm] using below

/-- From one path, which may lead nowhere. -/
theorem run_from (wellFormed : disk.WellFormed) (path : Path) (enough : disk.nodes.size < steps) :
    ((path.hasNull = false ∧ disk.InReach path) ∧ ∃ found,
        run disk steps ⟨[path], []⟩ = .ok ⟨[], found⟩ ∧
          found.Perm (disk.directoriesBelow path)) ∨
      (¬ (path.hasNull = false ∧ disk.InReach path) ∧
        ∃ error, run disk steps ⟨[path], []⟩ = .error error ∧
          error.fault = if path.hasNull then .nullCharacter else .nameTooLong) := by
  by_cases directory : ∃ place, disk.find? path = some (place, .directory)
  · have sound : Sound disk ⟨[path], []⟩ := List.forall_mem_singleton.mpr directory
    have reach : InReach disk ⟨[path], []⟩ ↔ disk.InReach path := List.forall_mem_singleton
    obtain ⟨place, here⟩ := directory
    have noNull := (Disk.of_follow (Disk.find?_eq_some_iff.mp here).1).1
    have spec := run_of_sound wellFormed sound (Nat.le_trans (work_root_le disk path) enough)
    rw [reach] at spec
    simpa [noNull, all] using spec
  · -- where there is no directory, nothing is listed and nothing is out of reach
    have distinct := wellFormed.distinct
    have reach : disk.InReach path := fun place _ _ found _ => absurd ⟨place, found⟩ directory
    have below : disk.directoriesBelow path = [] :=
      List.eq_nil_iff_forall_not_mem.mpr fun _ member =>
        have ⟨place, _, found, _⟩ := (Disk.mem_directoriesBelow distinct).mp member
        directory ⟨place, found⟩
    have inside : disk.subdirectories path = [] :=
      List.eq_nil_iff_forall_not_mem.mpr fun _ member =>
        have ⟨place, _, found, _⟩ := (Disk.mem_subdirectories distinct).mp member
        directory ⟨place, found⟩
    obtain ⟨rest, rfl⟩ := Nat.exists_eq_add_of_lt enough
    cases null : path.hasNull with
    | true =>
      have fault : disk.list path = .error ⟨.nullCharacter, path⟩ := by
        rw [Disk.list, if_pos null]
      refine .inr ⟨by simp, ⟨.nullCharacter, path⟩, ?_, rfl⟩
      simp only [run, step_of_fault fault]
    | false =>
      have clear : ∃ entries, disk.list path = .ok entries :=
        (Disk.exists_list_iff distinct).mpr
          ⟨null, fun place _ _ found _ => absurd ⟨place, found⟩ directory⟩
      refine .inl ⟨⟨rfl, reach⟩, [], ?_, by rw [below]⟩
      simp only [run, step_of_clear clear, inside]
      exact run_of_nil []

end SceneSearch.Exploration

namespace ProjectPaths

variable {paths : ProjectPaths} {disk : Disk} {names others : List Text} {content : FileContent}

/-! ## Directories of scenes -/

/-- A directory below the scene root, at the end of these names from there. -/
def HasDirectory (paths : ProjectPaths) (disk : Disk) (names : List Text) : Prop :=
  names ≠ [] ∧ ∃ root, disk.find? paths.sceneRoot = some (root, .directory) ∧
    disk.node? (root ++ names) = some .directory

/-- A sorted list of the scene root, as the empty text, and of all directories below it, each once,
by the names that lead to them from there. -/
structure ListsDirectories (paths : ProjectPaths) (disk : Disk) (listing : List Text) : Prop where
  rootFirst : listing.head? = some []
  once : listing.Nodup
  sorted : listing.Pairwise fun a b => Text.ble a b = true
  mem_iff : ∀ text, text ∈ listing ↔
    text = [] ∨ ∃ names, paths.HasDirectory disk names ∧ text = Text.join ['/'] names

theorem mem_directoriesBelow_sceneRoot (wellFormed : disk.WellFormed) {path : Path} :
    path ∈ disk.directoriesBelow paths.sceneRoot ↔
      ∃ names, paths.HasDirectory disk names ∧ path = Disk.pathBelow paths.sceneRoot names := by
  rw [Disk.mem_directoriesBelow wellFormed.distinct]
  constructor
  · rintro ⟨root, names, found, nonempty, there, rfl⟩
    exact ⟨names, ⟨nonempty, root, found, there⟩, rfl⟩
  · rintro ⟨names, ⟨nonempty, root, found, there⟩, rfl⟩
    exact ⟨root, names, found, nonempty, there, rfl⟩

section Spelling

variable (wellFormed : disk.WellFormed) (directory : paths.HasDirectory disk names)

include wellFormed directory

theorem HasDirectory.plain : ∀ name ∈ names, Path.Plain name := by
  obtain ⟨-, root, -, there⟩ := directory
  exact fun name member => wellFormed.spellable.plain there name (List.mem_append_right _ member)

theorem HasDirectory.names_inj (other : paths.HasDirectory disk others)
    (same : Text.join ['/'] names = Text.join ['/'] others) : names = others := by
  have read := congrArg Path.namesOf same
  rwa [Path.namesOf_join (directory.plain wellFormed),
    Path.namesOf_join (other.plain wellFormed)] at read

theorem HasDirectory.join_ne_nil : Text.join ['/'] names ≠ [] := by
  intro empty
  have read := Path.namesOf_join (directory.plain wellFormed)
  rw [empty] at read
  exact directory.1 read.symm

/-- How a listing shows a directory. -/
theorem HasDirectory.shown :
    Path.toText ⟨.relative,
        (Disk.pathBelow paths.sceneRoot names).names.drop paths.sceneRoot.names.length⟩ =
      Text.join ['/'] names := by
  rw [Disk.pathBelow, List.drop_left,
    Path.toText_relative (directory.plain wellFormed) directory.1]

end Spelling

/-- Everything below the scene root, in any order, becomes a sorted list. -/
theorem listsDirectories_of_perm (wellFormed : disk.WellFormed) {found : List Path}
    (all : found.Perm (disk.directoriesBelow paths.sceneRoot)) :
    paths.ListsDirectories disk ([] :: Text.sort (found.map fun path =>
      Path.toText ⟨.relative, path.names.drop paths.sceneRoot.names.length⟩)) := by
  set shown : Path → Text := fun path =>
    Path.toText ⟨.relative, path.names.drop paths.sceneRoot.names.length⟩
  have mem_sort (text : Text) : text ∈ Text.sort (found.map shown) ↔
      ∃ names, paths.HasDirectory disk names ∧ text = Text.join ['/'] names := by
    simp only [Text.sort, List.mem_mergeSort, List.mem_map, all.mem_iff,
      mem_directoriesBelow_sceneRoot wellFormed]
    constructor
    · rintro ⟨_, ⟨names, directory, rfl⟩, rfl⟩
      exact ⟨names, directory, directory.shown wellFormed⟩
    · rintro ⟨names, directory, rfl⟩
      exact ⟨_, ⟨names, directory, rfl⟩, directory.shown wellFormed⟩
  have once : (Text.sort (found.map shown)).Nodup := by
    refine (List.mergeSort_perm _ _).nodup_iff.mpr ((all.map shown).nodup_iff.mpr ?_)
    have apart := Disk.nodup_directoriesBelow wellFormed.distinct paths.sceneRoot
    refine List.pairwise_map.mpr (apart.imp_of_mem fun {a b} inA inB different same => ?_)
    obtain ⟨names, directory, rfl⟩ := (mem_directoriesBelow_sceneRoot wellFormed).mp inA
    obtain ⟨others, other, rfl⟩ := (mem_directoriesBelow_sceneRoot wellFormed).mp inB
    have spelled : Text.join ['/'] names = Text.join ['/'] others :=
      (directory.shown wellFormed).symm.trans (same.trans (other.shown wellFormed))
    exact different (congrArg _ (directory.names_inj wellFormed other spelled))
  refine ⟨rfl, List.nodup_cons.mpr ⟨fun root => ?_, once⟩, List.pairwise_cons.mpr ⟨?_, ?_⟩,
    fun text => ?_⟩
  · obtain ⟨names, directory, empty⟩ := (mem_sort []).mp root
    exact directory.join_ne_nil wellFormed empty.symm
  · exact fun text _ => rfl
  · have transitive (a b c : Text) : Text.ble a b → Text.ble b c → Text.ble a c := Text.ble_trans
    exact List.pairwise_mergeSort transitive Text.ble_total _
  · rw [List.mem_cons, mem_sort]

/-- A scene lies in the scene root or in a directory below it. -/
theorem HasScene.parent (wellFormed : disk.WellFormed)
    (scene : paths.HasScene disk names content) :
    names.dropLast = [] ∨ paths.HasDirectory disk names.dropLast := by
  by_cases direct : names.dropLast = []
  · exact .inl direct
  · obtain ⟨root, found, there, -⟩ := scene
    have named : names ≠ [] := fun empty => direct (by rw [empty, List.dropLast_nil])
    rw [← List.dropLast_append_getLast named, ← List.append_assoc] at there
    have above := wellFormed.tree.isDirectory_above there (List.cons_ne_nil _ _)
    exact .inr ⟨direct, root, found, above⟩

end ProjectPaths

namespace SceneSearch

variable {search : SceneSearch} {disk : Disk}

/-! ## Exactness -/

/-- A scene file lies in the scene root or in a directory below it. -/
theorem parent_of_mem_files (wellFormed : disk.WellFormed) {scenes : List SceneCandidate}
    (found : search.files disk = .ok scenes) {scene : SceneCandidate} (listed : scene ∈ scenes) :
    ∃ names name, scene.relativePath = Text.join ['/'] (names ++ [name]) ∧
      scene.directory = search.pathBelowRoot names ∧
        (names = [] ∨ search.paths.HasDirectory disk names) := by
  obtain ⟨-, names, content, hasScene, rfl⟩ := (mem_files wellFormed found).mp listed
  have named := hasScene.ne_nil
  refine ⟨names.dropLast, names.getLast named, ?_, ?_, hasScene.parent wellFormed⟩
  · rw [collapse_pathBelow wellFormed hasScene, relativePath_pathBelowRoot wellFormed hasScene,
      Path.toText_relative (hasScene.plain wellFormed) named, List.dropLast_append_getLast]
  · rw [collapse_pathBelow wellFormed hasScene]
    simp only [candidate, Path.parent, pathBelowRoot, List.dropLast_append_of_ne_nil named]

/-- Either there is a listing, or something below the scene root is out of reach. -/
theorem directories_or_fault (wellFormed : disk.WellFormed) (search : SceneSearch) :
    let inReach := search.paths.sceneRoot.hasNull = false ∧ search.paths.IsInReach disk
    (inReach ∧ ∃ listing, search.directories disk = .ok listing ∧
        search.paths.ListsDirectories disk listing) ∨
      (¬ inReach ∧ ∃ error, search.directories disk = .error error ∧
        error.fault = if search.paths.sceneRoot.hasNull then .nullCharacter else .nameTooLong) := by
  rcases Exploration.run_from wellFormed search.paths.sceneRoot (Nat.lt_succ_self _) with
    ⟨reach, found, ran, all⟩ | ⟨far, error, ran, fault⟩
  · refine .inl ⟨reach, _, ?_, ProjectPaths.listsDirectories_of_perm wellFormed all⟩
    simp only [directories, ran]
  · refine .inr ⟨far, error, ?_, fault⟩
    simp only [directories, ran]

/-- The listing of the directories ends after a step for each node and one for the root. It fails
exactly if the scene root holds the null character or the path of something below it is too long;
otherwise it shows the root and all directories below it, each by a text of its own, and those of
all scene files are among them; these are listed unless the scene root itself is too long. -/
theorem directories_exact (wellFormed : disk.WellFormed) (search : SceneSearch) :
    let root := search.paths.sceneRoot
    (∀ steps, disk.nodes.size < steps →
      (∃ error, Exploration.run disk steps ⟨[root], []⟩ = .error error) ∨
        ∃ found, Exploration.run disk steps ⟨[root], []⟩ = .ok ⟨[], found⟩) ∧
    ((∃ listing, search.directories disk = .ok listing) ↔
      root.hasNull = false ∧ search.paths.IsInReach disk) ∧
    (∀ error, search.directories disk = .error error →
      error.fault = if root.hasNull then .nullCharacter else .nameTooLong) ∧
    (∀ listing, search.directories disk = .ok listing →
      search.paths.ListsDirectories disk listing ∧
      ∀ scenes, search.files disk = .ok scenes → ∀ scene ∈ scenes, ∃ names name,
        scene.relativePath = Text.join ['/'] (names ++ [name]) ∧
          scene.directory = search.pathBelowRoot names ∧ Text.join ['/'] names ∈ listing) ∧
    ((∃ scenes, search.files disk = .ok scenes) ↔ ¬ disk.Overlong root) ∧
    ∀ names others, search.paths.HasDirectory disk names →
      search.paths.HasDirectory disk others →
      Text.join ['/'] names = Text.join ['/'] others → names = others := by
  intro root
  have ends : ∀ steps, disk.nodes.size < steps →
      (∃ error, Exploration.run disk steps ⟨[root], []⟩ = .error error) ∨
        ∃ found, Exploration.run disk steps ⟨[root], []⟩ = .ok ⟨[], found⟩ := by
    intro steps enough
    rcases Exploration.run_from wellFormed root enough with
      ⟨-, found, ran, -⟩ | ⟨-, error, ran, -⟩
    · exact .inr ⟨found, ran⟩
    · exact .inl ⟨error, ran⟩
  have apart : ∀ names others, search.paths.HasDirectory disk names →
      search.paths.HasDirectory disk others →
      Text.join ['/'] names = Text.join ['/'] others → names = others :=
    fun _ _ directory other same => directory.names_inj wellFormed other same
  have answers : (∃ scenes, search.files disk = .ok scenes) ↔ ¬ disk.Overlong root :=
    exists_files_iff
  rcases directories_or_fault wellFormed search with
    ⟨reach, listing, listed, lists⟩ | ⟨far, error, failed, fault⟩
  · refine ⟨ends, iff_of_true ⟨listing, listed⟩ reach, ?_, ?_, answers, apart⟩
    · intro error failed
      cases failed.symm.trans listed
    · intro other listedToo
      cases listed.symm.trans listedToo
      refine ⟨lists, fun scenes found scene member => ?_⟩
      obtain ⟨names, name, spelled, within, parent⟩ := parent_of_mem_files wellFormed found member
      refine ⟨names, name, spelled, within, (lists.mem_iff _).mpr ?_⟩
      rcases parent with rfl | directory
      · exact .inl rfl
      · exact .inr ⟨names, directory, rfl⟩
  · refine ⟨ends, iff_of_false ?_ far, ?_, ?_, answers, apart⟩
    · rintro ⟨listing, listed⟩
      cases failed.symm.trans listed
    · intro other failedToo
      cases failed.symm.trans failedToo
      exact fault
    · intro listing listed
      cases failed.symm.trans listed

/-- Directories of one name, one in the other, beside one whose name goes on where theirs ends. -/
theorem directories_exact_nested :
    let search : SceneSearch := { paths := ⟨.ofText "old/../game"⟩ }
    let disk : Disk := ⟨.ofList [(["old"], .directory), (["game"], .directory),
      (["game", "scene"], .directory), (["game", "scene", "act"], .directory),
      (["game", "scene", "act", "act"], .directory),
      (["game", "scene", "act", "act", "a.txt"], .file (.text "end;")),
      (["game", "scene", "act-1"], .directory), (["game", "bgm"], .directory)], []⟩
    disk.WellFormed ∧ ∃ listing, search.directories disk = .ok listing ∧
      search.paths.ListsDirectories disk listing ∧ Text.join ['/'] ["act", "act"] ∈ listing := by
  intro search disk
  have wellFormed : disk.WellFormed := by decide +kernel
  let root : Place := ["game", "scene"]
  have found : disk.find? search.paths.sceneRoot = some (root, .directory) := by decide +kernel
  have reach : search.paths.IsInReach disk :=
    (ProjectPaths.reachesTooFar_eq_false wellFormed found).mp (by decide +kernel)
  obtain ⟨-, succeeds, -, lists, -⟩ := directories_exact wellFormed search
  obtain ⟨listing, listed⟩ := succeeds.mpr ⟨by decide +kernel, reach⟩
  obtain ⟨exactly, -⟩ := lists listing listed
  have inside : search.paths.HasDirectory disk ["act", "act"] :=
    ⟨List.cons_ne_nil _ _, root, found, by decide +kernel⟩
  exact ⟨wellFormed, listing, listed, exactly, (exactly.mem_iff _).mpr (.inr ⟨_, inside, rfl⟩)⟩

/-- There is no listing of directories whose paths are all short enough, if that of one file is
not. -/
theorem not_forall_directories :
    ¬ ∀ (search : SceneSearch) (disk : Disk), disk.WellFormed →
      search.paths.sceneRoot.hasNull = false →
      (∀ names, search.paths.HasDirectory disk names →
        Disk.byteCount (Disk.pathBelow search.paths.sceneRoot names).toText ≤ Disk.longestPath) →
      ∃ listing, search.directories disk = .ok listing := by
  intro succeeds
  let root : Place := ["game", "scene"]
  let long : Text := List.replicate 63 '𝄞'
  let directories : List (Place × Node) :=
    (List.range 17).map fun depth => (root ++ List.replicate depth long, .directory)
  let disk : Disk := ⟨⟨(["game"], .directory) ::
    (root ++ List.replicate 17 long, .file (.text "end;")) :: directories⟩, []⟩
  let search : SceneSearch := { paths := ⟨.ofText "game"⟩ }
  have wellFormed : disk.WellFormed := by decide +kernel
  have found : disk.find? search.paths.sceneRoot = some (root, .directory) := by decide +kernel
  have short : ∀ names, search.paths.HasDirectory disk names →
      Disk.byteCount (Disk.pathBelow search.paths.sceneRoot names).toText ≤ Disk.longestPath := by
    have bounded : ∀ path ∈ disk.directoriesBelow search.paths.sceneRoot,
        (path.names.map Disk.byteCount).sum + path.names.length + 2 ≤ Disk.longestPath := by
      decide +kernel
    intro names directory
    have member := (ProjectPaths.mem_directoriesBelow_sceneRoot wellFormed).mpr
      ⟨names, directory, rfl⟩
    exact Nat.le_trans (Disk.byteCount_toText_le _) (bounded _ member)
  obtain ⟨-, reach⟩ := (directories_exact wellFormed search).2.1.mp
    (succeeds search disk wellFormed (by decide +kernel) short)
  have there : disk.node? (root ++ List.replicate 17 long) = some (.file (.text "end;")) := by
    decide +kernel
  have far := reach root (List.replicate 17 long) _ found there
  have longer : Disk.longestPath <
      ((Disk.pathBelow search.paths.sceneRoot (List.replicate 17 long)).names.map
        Disk.byteCount).sum := by
    decide +kernel
  exact absurd far (Nat.not_le.mpr (Nat.lt_of_lt_of_le longer (Disk.sum_byteCount_le _)))

end SceneSearch

end SceneScript
