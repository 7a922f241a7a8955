import Mathlib.Data.List.Induction
import SceneScript.Proofs.Disk.Series
import SceneScript.Proofs.Disk.Tree

/-! # Disks as they are met

What stands on a disk is found again: at every place there is one node, and a directory leads down
to everything below it, unless the path becomes too long.

* `Disk.WellFormed` — a tree with one node at each place, whose names are those that disks have;
* `Disk.node?_eq_some_iff` — the node at a place is the one entry for it;
* `Disk.find?_pathBelow` — from a directory down to what stands below it;
* `Disk.mem_entries`, `Disk.exists_list_iff` — the entries of a directory;
* `Disk.nodup_filesBelow` — no file lies twice below a directory.
-/

namespace SceneScript.Disk

variable {disk : Disk} {place there : Place} {path : Path} {names : List Text} {node : Node}

/-- A name that a node of a disk can have. -/
def IsName (name : Text) : Prop := byteCount name ≤ longestName ∧ '\x00' ∉ name

instance (name : Text) : Decidable (IsName name) :=
  inferInstanceAs (Decidable (byteCount name ≤ longestName ∧ '\x00' ∉ name))

structure WellFormed (disk : Disk) : Prop where
  tree : disk.IsTree
  spellable : disk.Spellable
  distinct : disk.nodes.keys.Nodup
  named : ∀ entry ∈ disk.nodes.entries, ∀ name ∈ entry.1, IsName name

theorem wellFormed_iff : disk.WellFormed ↔
    disk.IsTree ∧ disk.Spellable ∧ disk.nodes.keys.Nodup ∧
      ∀ entry ∈ disk.nodes.entries, ∀ name ∈ entry.1, IsName name :=
  ⟨fun ⟨tree, spellable, distinct, named⟩ => ⟨tree, spellable, distinct, named⟩,
    fun ⟨tree, spellable, distinct, named⟩ => ⟨tree, spellable, distinct, named⟩⟩

instance : Decidable disk.WellFormed := decidable_of_iff' _ wellFormed_iff

theorem node?_eq_some_iff (distinct : disk.nodes.keys.Nodup) (named : place ≠ []) :
    disk.node? place = some node ↔ (place, node) ∈ disk.nodes.entries := by
  rw [node?, if_neg named, OrderedMap.get?_eq_some_iff distinct]

theorem WellFormed.isName (wellFormed : disk.WellFormed) (found : disk.node? place = some node) :
    ∀ name ∈ place, IsName name := by
  intro name member
  have ne : place ≠ [] := List.ne_nil_of_mem member
  exact wellFormed.named _ ((node?_eq_some_iff wellFormed.distinct ne).mp found) name member

/-! ## Down from a directory -/

theorem IsTree.isDirectory_above (tree : disk.IsTree)
    (found : disk.node? (place ++ names) = some node) (below : names ≠ []) :
    disk.node? place = some .directory := by
  induction names using List.reverseRecOn generalizing node with
  | nil => exact absurd rfl below
  | append_singleton front last ih =>
    have above := tree.parent _ _ found
    rw [← List.append_assoc, List.dropLast_concat] at above
    cases front with
    | nil => rwa [List.append_nil] at above
    | cons _ _ => exact ih above (List.cons_ne_nil _ _)

theorem followFrom_below (wellFormed : disk.WellFormed)
    (found : disk.node? (place ++ names) = some node) :
    disk.followFrom place names = .ok (place ++ names) := by
  induction names generalizing place with
  | nil => rw [List.append_nil, followFrom]
  | cons name rest ih =>
    have inPlace : name ∈ place ++ name :: rest := by simp
    have short : ¬ longestName < byteCount name :=
      Nat.not_lt.mpr (wellFormed.isName found name inPlace).1
    have ne : name ≠ Path.parentName := by
      rintro rfl
      exact wellFormed.tree.named _ _ found inPlace
    have isDirectory := wellFormed.tree.isDirectory_above found (List.cons_ne_nil _ _)
    have below : disk.node? ((place ++ [name]) ++ rest) = some node := by simpa using found
    rw [followFrom_cons isDirectory short, if_neg ne, ih below]
    simp

/-- What stands below a directory is found from there, if its path is not too long. -/
theorem find?_pathBelow (wellFormed : disk.WellFormed)
    (directory : disk.find? path = some (place, .directory))
    (found : disk.node? (place ++ names) = some node)
    (short : byteCount (pathBelow path names).toText ≤ longestPath) :
    disk.find? (pathBelow path names) = some (place ++ names, node) := by
  refine find?_eq_some_iff.mpr ⟨?_, found⟩
  obtain ⟨noNull, walked⟩ := of_follow (find?_eq_some_iff.mp directory).1
  have noNullBelow : (pathBelow path names).hasNull = false := by
    simp only [Path.hasNull, pathBelow, List.any_append, Bool.or_eq_false_iff]
    refine ⟨noNull, List.any_eq_false.mpr fun name member => ?_⟩
    have isName := wellFormed.isName found name (List.mem_append_right _ member)
    simpa using isName.2
  rw [follow, noNullBelow, if_neg Bool.false_ne_true, if_neg (Nat.not_lt.mpr short)]
  exact followFrom_append.mpr ⟨place, walked, followFrom_below wellFormed found⟩

/-! ## Entries of a directory -/

theorem mem_entries (distinct : disk.nodes.keys.Nodup) {entry : DirectoryEntry} :
    entry ∈ disk.entries path ↔ ∃ place name node, disk.find? path = some (place, .directory) ∧
      disk.node? (place ++ [name]) = some node ∧
      entry = ⟨name, path.child name, node == .directory⟩ := by
  unfold entries
  split
  next place found =>
    rw [List.mem_mergeSort, List.mem_filterMap]
    constructor
    · rintro ⟨⟨names, node⟩, member, kept⟩
      obtain ⟨-, member⟩ := mem_below.mp member
      dsimp only at kept
      split at kept
      next name _ =>
        have named : place ++ [name] ≠ [] := by simp
        exact ⟨place, name, node, found, (node?_eq_some_iff distinct named).mpr member,
          (Option.some.inj kept).symm⟩
      next => cases kept
    · rintro ⟨other, name, node, foundToo, there, rfl⟩
      cases found.symm.trans foundToo
      have named : place ++ [name] ≠ [] := by simp
      have member := (node?_eq_some_iff distinct named).mp there
      exact ⟨([name], node), mem_below.mpr ⟨List.cons_ne_nil _ _, member⟩, rfl⟩
  next other =>
    constructor
    · intro member
      cases member
    · rintro ⟨place, _, _, found, -⟩
      exact absurd found (other place)

theorem exists_list_iff (distinct : disk.nodes.keys.Nodup) :
    (∃ found, disk.list path = .ok found) ↔ path.hasNull = false ∧ ∀ place name node,
      disk.find? path = some (place, .directory) → disk.node? (place ++ [name]) = some node →
        byteCount (path.child name).toText ≤ longestPath := by
  simp only [list_eq_ok_iff, exists_and_left, exists_eq', and_true]
  refine and_congr_right fun _ => ⟨fun short place name node found there => ?_,
    fun short entry member => ?_⟩
  · exact short _ ((mem_entries distinct).mpr ⟨place, name, node, found, there, rfl⟩)
  · obtain ⟨place, name, node, found, there, rfl⟩ := (mem_entries distinct).mp member
    exact short place name node found there

/-! ## Walks -/

theorem pairwise_below (distinct : disk.nodes.keys.Nodup) :
    (disk.below place).Pairwise fun a b => a.1 ≠ b.1 := by
  refine (List.pairwise_map.mp distinct).filterMap _ ?_
  intro first second apart a inFirst b inSecond
  obtain ⟨insideFirst, isFirst⟩ := Option.ite_none_right_eq_some.mp inFirst
  obtain ⟨insideSecond, isSecond⟩ := Option.ite_none_right_eq_some.mp inSecond
  cases isFirst
  cases isSecond
  obtain ⟨more, splitFirst⟩ := insideFirst.1
  obtain ⟨others, splitSecond⟩ := insideSecond.1
  rw [← splitFirst, ← splitSecond, List.drop_left, List.drop_left]
  rintro rfl
  exact apart (splitFirst.symm.trans splitSecond)

theorem pathBelow_inj {others : List Text} :
    pathBelow path names = pathBelow path others ↔ names = others := by
  simp [pathBelow]

theorem nodup_filesBelow (distinct : disk.nodes.keys.Nodup) (suffix : Text) :
    (disk.filesBelow path suffix).Nodup := by
  unfold filesBelow
  split
  next place found =>
    split
    · exact List.nodup_nil
    · refine (List.mergeSort_perm _ _).nodup_iff.mpr ?_
      refine (pairwise_below distinct).filterMap _ fun first second apart a inFirst b inSecond => ?_
      obtain ⟨names, node⟩ := first
      obtain ⟨others, other⟩ := second
      cases node with
      | directory => cases inFirst
      | file content =>
        cases other with
        | directory => cases inSecond
        | file contentToo =>
          obtain ⟨-, isFirst⟩ := Option.ite_none_right_eq_some.mp inFirst
          obtain ⟨-, isSecond⟩ := Option.ite_none_right_eq_some.mp inSecond
          cases isFirst
          cases isSecond
          exact fun same => apart (pathBelow_inj.mp same)
  next => exact List.nodup_nil

end SceneScript.Disk
