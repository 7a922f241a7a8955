import SceneScript.Proofs.Disk.Overlong
import SceneScript.Proofs.Path.Collapse

/-! # Disks that are trees

What stands on a disk stands in directories. As there are no links, a path that can be followed
leads to the place that it stands for by its names alone.

* `Disk.IsTree` — everything stands in a directory, and no name is `..`;
* `Disk.isTree_iff` — this can be checked node by node;
* `Disk.Spellable` — every name can be read from a path;
* `Disk.place_of_follow`, `Disk.absolute_of_find?` — where a path leads;
* `Disk.IsTree.of_follow_of_none` — a place where nothing stands lies in a directory that is there;
* `Disk.mem_filesBelow` — the files that lie below a directory.
-/

namespace SceneScript.Disk

variable {disk : Disk} {place there : Place} {path : Path}

structure IsTree (disk : Disk) : Prop where
  named : ∀ place node, disk.node? place = some node → Path.parentName ∉ place
  parent : ∀ place node, disk.node? place = some node →
    disk.node? place.dropLast = some .directory
  working : disk.node? disk.workingDirectory = some .directory

@[simp] theorem node?_nil : disk.node? [] = some .directory := by simp [node?]

theorem exists_entry {node : Node} (found : disk.node? place = some node) (named : place ≠ []) :
    ∃ entry ∈ disk.nodes.entries, entry.1 = place := by
  rw [node?, if_neg named] at found
  exact List.mem_map.mp (OrderedMap.isSome_get?_iff.mp (Option.isSome_of_eq_some found))

theorem isTree_iff : disk.IsTree ↔
    (∀ entry ∈ disk.nodes.entries, (∀ name ∈ entry.1, name ≠ Path.parentName) ∧
      disk.node? entry.1.dropLast = some .directory) ∧
    disk.node? disk.workingDirectory = some .directory := by
  constructor
  · intro tree
    refine ⟨fun entry member => ?_, tree.working⟩
    have there : ∃ node, disk.node? entry.1 = some node := by
      unfold node?
      split
      · exact ⟨_, rfl⟩
      · exact Option.isSome_iff_exists.mp
          (OrderedMap.isSome_get?_iff.mpr (List.mem_map_of_mem member))
    obtain ⟨node, found⟩ := there
    refine ⟨fun name inPlace same => ?_, tree.parent _ _ found⟩
    exact tree.named _ _ found (same ▸ inPlace)
  · rintro ⟨entries, working⟩
    have known (place : Place) (node : Node) (found : disk.node? place = some node) :
        Path.parentName ∉ place ∧ disk.node? place.dropLast = some .directory := by
      by_cases root : place = []
      · subst root
        exact ⟨List.not_mem_nil, node?_nil⟩
      · obtain ⟨entry, member, rfl⟩ := exists_entry found root
        obtain ⟨named, parent⟩ := entries entry member
        exact ⟨fun inPlace => named _ inPlace rfl, parent⟩
    exact ⟨fun place node found => (known place node found).1,
      fun place node found => (known place node found).2, working⟩

instance : Decidable disk.IsTree := decidable_of_iff' _ isTree_iff

/-- Every name on the disk can be read from a path. -/
def Spellable (disk : Disk) : Prop :=
  ∀ entry ∈ disk.nodes.entries, ∀ name ∈ entry.1, Path.Plain name

instance : Decidable disk.Spellable :=
  inferInstanceAs (Decidable (∀ entry ∈ disk.nodes.entries, ∀ name ∈ entry.1, Path.Plain name))

theorem Spellable.plain {node : Node} (spellable : disk.Spellable)
    (there : disk.node? place = some node) : ∀ name ∈ place, Path.Plain name := by
  by_cases root : place = []
  · simp [root]
  · obtain ⟨entry, member, rfl⟩ := exists_entry there root
    exact spellable entry member

/-! ## Where a path leads -/

/-- `..` takes the last name away, at the root too. -/
theorem collapseStep_parentName (absent : Path.parentName ∉ place) :
    Path.collapseStep .root place.reverse Path.parentName = place.dropLast.reverse := by
  obtain empty | ⟨front, last, ends⟩ := List.eq_nil_or_concat place
  · rw [empty]
    rfl
  · rw [ends, List.concat_eq_append] at absent ⊢
    have ne : last ≠ Path.parentName := fun same => absent (by simp [same])
    simp [Path.collapseStep_cancel ne]

theorem followFrom_eq_ok {names : List Text} (follows : disk.followFrom place names = .ok there)
    (absent : Path.parentName ∉ place) :
    there = (names.foldl (Path.collapseStep .root) place.reverse).reverse ∧
      Path.parentName ∉ there := by
  induction names generalizing place with
  | nil =>
    cases follows
    exact ⟨(List.reverse_reverse _).symm, absent⟩
  | cons name rest ih =>
    obtain ⟨isDirectory, short⟩ := of_followFrom_cons follows
    rw [followFrom_cons isDirectory short] at follows
    rw [List.foldl_cons]
    by_cases up : name = Path.parentName
    · rw [if_pos up] at follows
      rw [up, collapseStep_parentName absent]
      exact ih follows fun member => absent ((List.dropLast_sublist _).subset member)
    · rw [if_neg up] at follows
      have step : Path.collapseStep .root place.reverse name = (place ++ [name]).reverse := by
        rw [Path.collapseStep_of_ne up]
        simp
      rw [step]
      exact ih follows (by simp [absent, Ne.symm up])

theorem of_follow (follows : disk.follow path = .ok place) :
    path.hasNull = false ∧ disk.followFrom (disk.start path) path.names = .ok place := by
  unfold follow at follows
  split at follows
  · cases follows
  next noNull =>
    split at follows
    · cases follows
    next => exact ⟨by simpa using noNull, follows⟩

theorem byteCount_le_of_follow (follows : disk.follow path = .ok place) :
    byteCount path.toText ≤ longestPath := by
  refine Nat.not_lt.mp fun long => ?_
  simp [follow, (of_follow follows).1, long] at follows

theorem place_of_follow (absent : Path.parentName ∉ disk.workingDirectory)
    (follows : disk.follow path = .ok place) :
    place = (path.absolute disk.workingDirectory).names := by
  -- The walk starts at the root or at the working directory, as an absolute path does.
  have walked := (of_follow follows).2
  unfold start at walked
  cases kind : path.isAbsolute with
  | true =>
    rw [kind, if_pos rfl] at walked
    rw [Path.absolute_of_isAbsolute kind]
    exact (followFrom_eq_ok walked List.not_mem_nil).1
  | false =>
    rw [kind, if_neg Bool.false_ne_true] at walked
    rw [Path.absolute_of_relative kind, Path.foldl_collapseStep_of_notMem absent, List.append_nil]
    exact (followFrom_eq_ok walked absent).1

theorem find?_eq_some_iff {node : Node} :
    disk.find? path = some (place, node) ↔
      disk.follow path = .ok place ∧ disk.node? place = some node := by
  unfold find? find
  cases disk.follow path with
  | error fault => simp [bind, Except.bind, Except.toOption]
  | ok there =>
    cases found : disk.node? there with
    | none =>
      simp only [bind, Except.bind, found, throw, throwThe, MonadExceptOf.throw, Except.toOption]
      grind
    | some other =>
      simp only [bind, Except.bind, found, pure, Except.pure, Except.toOption]
      grind

theorem absolute_of_find? {node : Node} (tree : disk.IsTree)
    (found : disk.find? path = some (place, node)) :
    (path.absolute disk.workingDirectory).names = place :=
  (place_of_follow (tree.named _ _ tree.working) (find?_eq_some_iff.mp found).1).symm

/-! ## Questions -/

theorem isFile_iff :
    disk.isFile path = true ↔ ∃ place content, disk.find? path = some (place, .file content) := by
  unfold isFile
  constructor
  · intro holds
    split at holds
    next place content found => exact ⟨place, content, found⟩
    next => cases holds
  · rintro ⟨place, content, found⟩
    rw [found]

theorem isDirectory_iff :
    disk.isDirectory path = true ↔ ∃ place, disk.find? path = some (place, .directory) := by
  unfold isDirectory
  constructor
  · intro holds
    split at holds
    next place found => exact ⟨place, found⟩
    next => cases holds
  · rintro ⟨place, found⟩
    rw [found]

theorem ask_of_follow (follows : disk.follow path = .ok place) :
    disk.ask path = .ok (disk.node? place) := by
  cases found : disk.node? place with
  | none =>
    simp [ask, find, follows, found, bind, Except.bind, throw, throwThe, MonadExceptOf.throw]
  | some node => simp [ask, find, follows, found, bind, Except.bind, pure, Except.pure]

theorem readText_of_find? {content : FileContent}
    (found : disk.find? path = some (place, .file content)) :
    disk.readText path = content.readable := by
  obtain ⟨follows, there⟩ := find?_eq_some_iff.mp found
  simp [readText, content?, find, follows, there, bind, Except.bind, pure, Except.pure]

/-! ## The last name of a path -/

theorem followFrom_append {names more : List Text} :
    disk.followFrom place (names ++ more) = .ok there ↔
      ∃ between, disk.followFrom place names = .ok between ∧
        disk.followFrom between more = .ok there := by
  induction names generalizing place with
  | nil => simp [followFrom]
  | cons name rest ih =>
    constructor
    · intro follows
      obtain ⟨isDirectory, short⟩ := of_followFrom_cons follows
      rw [List.cons_append, followFrom_cons isDirectory short] at follows
      rw [followFrom_cons isDirectory short]
      exact ih.mp follows
    · rintro ⟨between, first, second⟩
      obtain ⟨isDirectory, short⟩ := of_followFrom_cons first
      rw [followFrom_cons isDirectory short] at first
      rw [List.cons_append, followFrom_cons isDirectory short]
      exact ih.mpr ⟨between, first, second⟩

/-- The last name of a path is looked up in a directory. -/
theorem of_follow_append {front : List Text} {name : Text}
    (follows : disk.follow path = .ok place) (names : path.names = front ++ [name]) :
    ∃ above, disk.node? above = some .directory ∧
      place = if name = Path.parentName then above.dropLast else above ++ [name] := by
  have walked := (of_follow follows).2
  rw [names] at walked
  obtain ⟨above, -, last⟩ := followFrom_append.mp walked
  obtain ⟨isDirectory, short⟩ := of_followFrom_cons last
  rw [followFrom_cons isDirectory short] at last
  exact ⟨above, isDirectory, (Except.ok.inj last).symm⟩

/-- A path that names nothing, or ends in `..`, leads to a directory. -/
theorem IsTree.isDirectory_of_follow (tree : disk.IsTree) (follows : disk.follow path = .ok place)
    (unnamed : ∀ front name, path.names = front ++ [name] → name = Path.parentName) :
    disk.node? place = some .directory := by
  rcases List.eq_nil_or_concat path.names with empty | ⟨front, name, names⟩
  · have walked := (of_follow follows).2
    rw [empty] at walked
    cases walked
    unfold start
    split
    · exact node?_nil
    · exact tree.working
  · rw [List.concat_eq_append] at names
    obtain ⟨above, isDirectory, rfl⟩ := of_follow_append follows names
    rw [if_pos (unnamed front name names)]
    exact tree.parent above _ isDirectory

/-- What a path leads to where nothing stands yet is named by its last name. -/
theorem IsTree.of_follow_of_none (tree : disk.IsTree) (follows : disk.follow path = .ok place)
    (absent : disk.node? place = none) :
    ∃ front name above, path.names = front ++ [name] ∧ name ≠ Path.parentName ∧
      disk.node? above = some .directory ∧ place = above ++ [name] := by
  by_cases unnamed : ∀ front name, path.names = front ++ [name] → name = Path.parentName
  · rw [tree.isDirectory_of_follow follows unnamed] at absent
    cases absent
  · simp only [Classical.not_forall] at unnamed
    obtain ⟨front, name, names, ne⟩ := unnamed
    obtain ⟨above, isDirectory, there⟩ := of_follow_append follows names
    rw [if_neg ne] at there
    exact ⟨front, name, above, names, ne, isDirectory, there⟩

/-! ## What lies in a directory -/

theorem mem_below {names : List Text} {node : Node} :
    (names, node) ∈ disk.below place ↔
      names ≠ [] ∧ (place ++ names, node) ∈ disk.nodes.entries := by
  simp only [below, List.mem_filterMap, Prod.exists]
  constructor
  · rintro ⟨other, found, member, kept⟩
    split at kept
    next inside =>
      cases kept
      obtain ⟨⟨more, rfl⟩, different⟩ := inside
      rw [List.drop_left]
      refine ⟨?_, member⟩
      rintro rfl
      exact different (List.append_nil place)
    next => cases kept
  · rintro ⟨nonempty, member⟩
    refine ⟨_, node, member, ?_⟩
    rw [if_pos ⟨List.prefix_append _ _, by simpa using nonempty⟩, List.drop_left]

theorem reachesTooFar_eq_false_iff :
    disk.reachesTooFar path place = false ↔
      ∀ names node, names ≠ [] → (place ++ names, node) ∈ disk.nodes.entries →
        byteCount (pathBelow path names).toText ≤ longestPath := by
  simp only [reachesTooFar, List.any_eq_false, decide_eq_true_eq, Nat.not_lt]
  constructor
  · intro short names node nonempty member
    exact short (names, node) (mem_below.mpr ⟨nonempty, member⟩)
  · rintro short ⟨names, node⟩ inside
    obtain ⟨nonempty, member⟩ := mem_below.mp inside
    exact short names node nonempty member

theorem mem_filesBelow {suffix : Text} {listed : Path} :
    listed ∈ disk.filesBelow path suffix ↔
      ∃ root names content, disk.find? path = some (root, .directory) ∧
        disk.reachesTooFar path root = false ∧ names ≠ [] ∧
        (root ++ names, .file content) ∈ disk.nodes.entries ∧
        hasSuffix suffix (names.getLast?.getD []) = true ∧ listed = pathBelow path names := by
  unfold filesBelow
  split
  next root found =>
    cases far : disk.reachesTooFar path root with
    | true =>
      rw [if_pos rfl]
      constructor
      · intro member
        cases member
      · rintro ⟨other, _, _, foundToo, near, -⟩
        cases found.symm.trans foundToo
        cases far.symm.trans near
    | false =>
      rw [if_neg Bool.false_ne_true, Path.sort, List.mem_mergeSort, List.mem_filterMap]
      constructor
      · rintro ⟨⟨names, node⟩, member, kept⟩
        obtain ⟨nonempty, member⟩ := mem_below.mp member
        cases node with
        | directory => cases kept
        | file content =>
          dsimp only at kept
          split at kept
          next ends =>
            exact ⟨root, names, content, found, far, nonempty, member, ends,
              (Option.some.inj kept).symm⟩
          next => cases kept
      · rintro ⟨other, names, content, foundToo, -, nonempty, member, ends, rfl⟩
        cases found.symm.trans foundToo
        refine ⟨(names, .file content), mem_below.mpr ⟨nonempty, member⟩, ?_⟩
        simp [ends]
  next other =>
    constructor
    · intro member
      cases member
    · rintro ⟨root, _, _, found, -⟩
      exact absurd found (other root)

/-- The names of what is listed lead to where it stands. -/
theorem IsTree.parentName_notMem (tree : disk.IsTree) {entry : Place × Node}
    (member : entry ∈ disk.nodes.entries) : Path.parentName ∉ entry.1 :=
  fun inPlace => ((isTree_iff.mp tree).1 entry member).1 _ inPlace rfl

end SceneScript.Disk
