import Mathlib.Data.List.Perm.Lattice
import SceneScript.Proofs.Disk.WellFormed

/-! # Directories below a directory

What lies below a directory is what lies directly in it, and what lies below one of its
subdirectories. So it can be looked through one directory after the other, as far as no path becomes
too long.

* `Disk.InReach` — nothing at or below a directory has too long a path;
* `Disk.inReach_iff` — this is so if the entries can be told apart and the subdirectories are in
  reach;
* `Disk.directoriesBelow`, `Disk.directoriesBelow_perm` — the directories below a directory are its
  subdirectories and those below them.
-/

namespace SceneScript.Disk

variable {disk : Disk} {path sub : Path} {place : Place} {name : Text} {names : List Text}
  {node : Node}

/-- Nothing at or below a directory has too long a path. -/
def InReach (disk : Disk) (path : Path) : Prop :=
  ∀ place names node, disk.find? path = some (place, .directory) →
    disk.node? (place ++ names) = some node →
      byteCount (pathBelow path names).toText ≤ longestPath

/-- The directories that lie directly in a directory. -/
def subdirectories (disk : Disk) (path : Path) : List Path :=
  ((disk.entries path).filter (·.isDirectory)).map (·.path)

/-- The directories below a directory, each by its path. -/
def directoriesBelow (disk : Disk) (path : Path) : List Path :=
  match disk.find? path with
  | some (place, .directory) =>
    ((disk.below place).filter (·.2 = .directory)).map fun entry => pathBelow path entry.1
  | _ => []

theorem pathBelow_child (path : Path) (name : Text) (names : List Text) :
    pathBelow (path.child name) names = pathBelow path (name :: names) := by
  simp [pathBelow, Path.child]

theorem mem_directoriesBelow (distinct : disk.nodes.keys.Nodup) {below : Path} :
    below ∈ disk.directoriesBelow path ↔ ∃ place names,
      disk.find? path = some (place, .directory) ∧ names ≠ [] ∧
        disk.node? (place ++ names) = some .directory ∧ below = pathBelow path names := by
  unfold directoriesBelow
  split
  next place found =>
    simp only [List.mem_map, List.mem_filter, decide_eq_true_eq, Prod.exists, mem_below]
    constructor
    · rintro ⟨names, node, ⟨⟨nonempty, member⟩, rfl⟩, rfl⟩
      have named : place ++ names ≠ [] := by simp [nonempty]
      exact ⟨place, names, found, nonempty, (node?_eq_some_iff distinct named).mpr member, rfl⟩
    · rintro ⟨other, names, foundToo, nonempty, there, rfl⟩
      cases found.symm.trans foundToo
      have named : place ++ names ≠ [] := by simp [nonempty]
      exact ⟨names, .directory, ⟨⟨nonempty, (node?_eq_some_iff distinct named).mp there⟩, rfl⟩, rfl⟩
  next other =>
    refine iff_of_false List.not_mem_nil ?_
    rintro ⟨place, names, found, -⟩
    exact other place found

theorem mem_subdirectories (distinct : disk.nodes.keys.Nodup) :
    sub ∈ disk.subdirectories path ↔ ∃ place name,
      disk.find? path = some (place, .directory) ∧
        disk.node? (place ++ [name]) = some .directory ∧ sub = path.child name := by
  simp only [subdirectories, List.mem_map, List.mem_filter, mem_entries distinct]
  constructor
  · rintro ⟨entry, ⟨⟨place, name, node, found, there, rfl⟩, isDirectory⟩, rfl⟩
    have same : node = .directory := by simpa using isDirectory
    exact ⟨place, name, found, same ▸ there, rfl⟩
  · rintro ⟨place, name, found, there, rfl⟩
    exact ⟨_, ⟨⟨place, name, .directory, found, there, rfl⟩, rfl⟩, rfl⟩

/-! ## No path twice -/

theorem nodup_directoriesBelow (distinct : disk.nodes.keys.Nodup) (path : Path) :
    (disk.directoriesBelow path).Nodup := by
  unfold directoriesBelow
  split
  next place found =>
    refine List.pairwise_map.mpr (((pairwise_below distinct).filter _).imp fun apart same => ?_)
    exact apart (pathBelow_inj.mp same)
  next => exact List.nodup_nil

theorem nodup_paths_entries (distinct : disk.nodes.keys.Nodup) (path : Path) :
    ((disk.entries path).map (·.path)).Nodup := by
  unfold entries
  split
  next place found =>
    refine ((List.mergeSort_perm _ _).map _).nodup_iff.mpr (List.pairwise_map.mpr ?_)
    refine (pairwise_below distinct).filterMap _ fun first second apart a inFirst b inSecond => ?_
    obtain ⟨names, node⟩ := first
    obtain ⟨others, other⟩ := second
    dsimp only at inFirst inSecond
    split at inFirst
    next name =>
      split at inSecond
      next nameToo =>
        cases inFirst
        cases inSecond
        exact fun same => apart (pathBelow_inj.mp same)
      next => cases inSecond
    next => cases inFirst
  next => exact List.nodup_nil

theorem nodup_subdirectories (distinct : disk.nodes.keys.Nodup) (path : Path) :
    (disk.subdirectories path).Nodup :=
  (List.filter_sublist.map _).nodup (nodup_paths_entries distinct path)

theorem nodup_flatMap_directoriesBelow (distinct : disk.nodes.keys.Nodup) (path : Path) :
    ((disk.subdirectories path).flatMap disk.directoriesBelow).Nodup := by
  refine List.nodup_flatMap.mpr ⟨fun sub _ => nodup_directoriesBelow distinct sub, ?_⟩
  refine (nodup_subdirectories distinct path).imp_of_mem fun {a b} inA inB apart => ?_
  intro below belowA belowB
  -- the name behind the directory tells in which subdirectory something lies
  obtain ⟨_, name, -, -, rfl⟩ := (mem_subdirectories distinct).mp inA
  obtain ⟨_, other, -, -, rfl⟩ := (mem_subdirectories distinct).mp inB
  obtain ⟨_, names, -, -, -, rfl⟩ := (mem_directoriesBelow distinct).mp belowA
  obtain ⟨_, others, -, -, -, same⟩ := (mem_directoriesBelow distinct).mp belowB
  rw [pathBelow_child, pathBelow_child, pathBelow_inj] at same
  exact apart (congrArg path.child (List.cons.inj same).1)

/-! ## One level down -/

section Level

variable (wellFormed : disk.WellFormed) (clear : ∃ found, disk.list path = .ok found)

include wellFormed clear

theorem find?_child (found : disk.find? path = some (place, .directory))
    (there : disk.node? (place ++ [name]) = some node) :
    disk.find? (path.child name) = some (place ++ [name], node) := by
  have short := ((exists_list_iff wellFormed.distinct).mp clear).2
  exact find?_pathBelow wellFormed found there (short place name node found there)

theorem exists_find?_of_mem_subdirectories (member : sub ∈ disk.subdirectories path) :
    ∃ place, disk.find? sub = some (place, .directory) := by
  obtain ⟨place, name, found, there, rfl⟩ := (mem_subdirectories wellFormed.distinct).mp member
  exact ⟨_, find?_child wellFormed clear found there⟩

/-- What lies below a directory but not directly in it lies below one of its subdirectories. -/
theorem mem_flatMap_directoriesBelow {below : Path} :
    below ∈ (disk.subdirectories path).flatMap disk.directoriesBelow ↔ ∃ place name names,
      disk.find? path = some (place, .directory) ∧ names ≠ [] ∧
        disk.node? (place ++ name :: names) = some .directory ∧
          below = pathBelow path (name :: names) := by
  simp only [List.mem_flatMap, mem_subdirectories wellFormed.distinct,
    mem_directoriesBelow wellFormed.distinct]
  constructor
  · rintro ⟨sub, ⟨place, name, found, there, rfl⟩, other, names, foundSub, nonempty, node, rfl⟩
    cases (find?_child wellFormed clear found there).symm.trans foundSub
    rw [List.append_assoc] at node
    exact ⟨place, name, names, found, nonempty, node, pathBelow_child _ _ _⟩
  · rintro ⟨place, name, names, found, nonempty, node, rfl⟩
    rw [← List.singleton_append, ← List.append_assoc] at node
    have there := wellFormed.tree.isDirectory_above node nonempty
    exact ⟨path.child name, ⟨place, name, found, there, rfl⟩, _, names,
      find?_child wellFormed clear found there, nonempty, node, (pathBelow_child _ _ _).symm⟩

/-- The directories below a directory are its subdirectories and those below them. -/
theorem directoriesBelow_perm :
    (disk.directoriesBelow path).Perm
      (disk.subdirectories path ++ (disk.subdirectories path).flatMap disk.directoriesBelow) := by
  have distinct := wellFormed.distinct
  have nodup : (disk.subdirectories path ++
      (disk.subdirectories path).flatMap disk.directoriesBelow).Nodup := by
    refine List.nodup_append.mpr ⟨nodup_subdirectories distinct path,
      nodup_flatMap_directoriesBelow distinct path, fun a inA b inB same => ?_⟩
    obtain ⟨_, name, -, -, rfl⟩ := (mem_subdirectories distinct).mp inA
    obtain ⟨_, _, names, -, nonempty, -, rfl⟩ :=
      (mem_flatMap_directoriesBelow wellFormed clear).mp inB
    have direct : path.child name = pathBelow path [name] := rfl
    rw [direct, pathBelow_inj] at same
    exact nonempty (List.cons.inj same).2.symm
  refine (List.perm_ext_iff_of_nodup (nodup_directoriesBelow distinct path) nodup).mpr
    fun below => ?_
  rw [mem_directoriesBelow distinct, List.mem_append, mem_subdirectories distinct,
    mem_flatMap_directoriesBelow wellFormed clear]
  constructor
  · rintro ⟨place, names, found, nonempty, there, rfl⟩
    obtain ⟨name, rest, rfl⟩ := List.exists_cons_of_ne_nil nonempty
    by_cases direct : rest = []
    · subst direct
      exact .inl ⟨place, name, found, there, rfl⟩
    · exact .inr ⟨place, name, rest, found, direct, there, rfl⟩
  · rintro (⟨place, name, found, there, rfl⟩ | ⟨place, name, rest, found, -, there, rfl⟩)
    · exact ⟨place, [name], found, List.cons_ne_nil _ _, there, rfl⟩
    · exact ⟨place, name :: rest, found, List.cons_ne_nil _ _, there, rfl⟩

end Level

/-! ## Reach -/

theorem inReach_iff (wellFormed : disk.WellFormed)
    (found : disk.find? path = some (place, .directory)) :
    disk.InReach path ↔
      (∃ found, disk.list path = .ok found) ∧
        ∀ sub ∈ disk.subdirectories path, disk.InReach sub := by
  have distinct := wellFormed.distinct
  have follows := (find?_eq_some_iff.mp found).1
  constructor
  · intro reach
    have clear : ∃ found, disk.list path = .ok found := by
      refine (exists_list_iff distinct).mpr ⟨(of_follow follows).1, ?_⟩
      exact fun place name node foundToo there => reach place [name] node foundToo there
    refine ⟨clear, fun sub member other names node foundSub there => ?_⟩
    obtain ⟨place, name, foundToo, isThere, rfl⟩ := (mem_subdirectories distinct).mp member
    cases (find?_child wellFormed clear foundToo isThere).symm.trans foundSub
    rw [List.append_assoc] at there
    rw [pathBelow_child]
    exact reach place (name :: names) node foundToo there
  · rintro ⟨clear, reach⟩ other names node foundToo there
    cases found.symm.trans foundToo
    match names with
    | [] =>
      rw [pathBelow, List.append_nil]
      exact byteCount_le_of_follow follows
    | [name] => exact ((exists_list_iff distinct).mp clear).2 place name node found there
    | name :: next :: rest =>
      rw [← List.singleton_append, ← List.append_assoc] at there
      have isThere := wellFormed.tree.isDirectory_above there (List.cons_ne_nil _ _)
      have member := (mem_subdirectories distinct).mpr ⟨place, name, found, isThere, rfl⟩
      rw [← pathBelow_child]
      exact reach _ member _ _ node (find?_child wellFormed clear found isThere) there

end SceneScript.Disk
