import Mathlib.Algebra.GroupWithZero.Nat
import SceneScript.Proofs.Disk.Tree

/-! # Paths without their detours

Collapsing a path leaves out the names that `..` takes back. What a path leads to is found without
this detour too, and the collapsed path is not longer than the path.

* `Path.sublist_collapse` — a collapsed path has some of the names of the path, in their order;
* `Disk.byteCount_collapse_le` — it is not longer;
* `Disk.find?_collapse` — it leads to the same place.
-/

namespace SceneScript

namespace Path

variable {anchor : Anchor}

theorem collapseStep_reverse_sublist (anchor : Anchor) (stack : List Text) (name : Text) :
    (collapseStep anchor stack name).reverse.Sublist (stack.reverse ++ [name]) := by
  by_cases up : name = parentName
  · subst up
    cases stack with
    | nil => by_cases relative : anchor = .relative <;> simp [collapseStep, relative]
    | cons last rest =>
      by_cases same : last = parentName
      · simp [collapseStep, same]
      · rw [collapseStep_cancel same, List.reverse_cons, List.append_assoc]
        exact List.sublist_append_left _ _
  · simp [collapseStep_of_ne up]

theorem foldl_collapseStep_sublist (names stack : List Text) :
    (names.foldl (collapseStep anchor) stack).reverse.Sublist (stack.reverse ++ names) := by
  induction names generalizing stack with
  | nil => simp
  | cons name rest ih =>
    have step := (collapseStep_reverse_sublist anchor stack name).append_right rest
    rw [List.append_assoc] at step
    exact (ih _).trans step

theorem sublist_collapse (p : Path) : p.collapse.names.Sublist p.names :=
  foldl_collapseStep_sublist p.names []

end Path

namespace Disk

/-! ## The length of a path -/

theorem byteCount_append (a b : Text) : byteCount (a ++ b) = byteCount a + byteCount b := by
  simp only [byteCount, String.ofList_append, String.utf8ByteSize_append]

theorem byteCount_eq_zero_iff {t : Text} : byteCount t = 0 ↔ t = [] := by
  rw [byteCount, String.utf8ByteSize_eq_zero_iff]
  exact String.ofList_eq_empty_iff

theorem byteCount_join_cons (name : Text) (rest : List Text) :
    byteCount (Text.join ['/'] (name :: rest)) =
      byteCount name + if rest = [] then 0 else 1 + byteCount (Text.join ['/'] rest) := by
  cases rest with
  | nil => simp [Text.join]
  | cons second more =>
    have slash : byteCount ['/'] = 1 := rfl
    simp only [Text.join, List.intercalate_cons_cons, byteCount_append, slash, reduceCtorEq,
      if_false]
    omega

theorem byteCount_join_le {part all : List Text} (sublist : part.Sublist all) :
    byteCount (Text.join ['/'] part) ≤ byteCount (Text.join ['/'] all) := by
  induction sublist with
  | slnil => exact Nat.le_refl _
  | @cons part rest name sublist ih =>
    rw [byteCount_join_cons]
    by_cases last : rest = []
    · rw [last, List.sublist_nil] at sublist
      rw [sublist]
      exact Nat.zero_le _
    · rw [if_neg last]
      omega
  | @cons_cons part rest name sublist ih =>
    rw [byteCount_join_cons, byteCount_join_cons]
    by_cases last : part = []
    · rw [if_pos last]
      omega
    · have more : rest ≠ [] := by
        rintro rfl
        exact last (List.sublist_nil.mp sublist)
      rw [if_neg last, if_neg more]
      omega

/-- A path is at least as long as its names. -/
theorem sum_byteCount_le (path : Path) :
    (path.names.map byteCount).sum ≤ byteCount path.toText := by
  have joined (names : List Text) :
      (names.map byteCount).sum ≤ byteCount (Text.join ['/'] names) := by
    induction names with
    | nil => exact Nat.zero_le _
    | cons name rest ih =>
      rw [byteCount_join_cons, List.map_cons, List.sum_cons]
      split
      next last => simp [last]
      next => omega
  have spelled := joined path.names
  unfold Path.toText
  dsimp only
  split
  next nothing => simp [(List.append_eq_nil_iff.mp nothing).2, byteCount] at spelled ⊢; omega
  next =>
    rw [byteCount_append]
    omega

/-- Beside its names, a path has two slashes in front of them and one between them at most. -/
theorem byteCount_toText_le (path : Path) :
    byteCount path.toText ≤ (path.names.map byteCount).sum + path.names.length + 2 := by
  have joined (names : List Text) :
      byteCount (Text.join ['/'] names) ≤ (names.map byteCount).sum + names.length := by
    induction names with
    | nil => exact Nat.le_refl _
    | cons name rest ih =>
      rw [byteCount_join_cons, List.map_cons, List.sum_cons, List.length_cons]
      split <;> omega
  have spelled := joined path.names
  have anchored : byteCount path.anchor.toText ≤ 2 := by cases path.anchor <;> decide
  have dot : byteCount Path.currentName = 1 := rfl
  unfold Path.toText
  dsimp only
  split
  next => omega
  next =>
    rw [byteCount_append]
    omega

theorem byteCount_collapse_le (path : Path) :
    byteCount path.collapse.toText ≤ byteCount path.toText := by
  have shorter : byteCount (path.anchor.toText ++ Text.join ['/'] path.collapse.names) ≤
      byteCount (path.anchor.toText ++ Text.join ['/'] path.names) := by
    rw [byteCount_append, byteCount_append]
    have names := byteCount_join_le path.sublist_collapse
    omega
  have dot : byteCount Path.currentName = 1 := rfl
  have sameAnchor : path.collapse.anchor = path.anchor := rfl
  unfold Path.toText
  rw [sameAnchor]
  dsimp only
  split
  · -- a path that is written at all is not shorter than the dot for no name
    split
    · exact Nat.le_refl _
    next spelled =>
      have positive := Nat.pos_iff_ne_zero.mpr (mt byteCount_eq_zero_iff.mp spelled)
      omega
  · split
    next unspelled =>
      rw [unspelled] at shorter
      exact Nat.le_trans shorter (Nat.zero_le _)
    · exact shorter

/-! ## Where a collapsed path leads -/

variable {disk : Disk} {place here there : Place}

theorem followFrom_snoc {names : List Text} {name : Text}
    (follows : disk.followFrom place names = .ok here)
    (next : disk.followFrom here [name] = .ok there) :
    disk.followFrom place (names ++ [name]) = .ok there :=
  followFrom_append.mpr ⟨here, follows, next⟩

/-- The names on the stack lead to where all names so far have led. -/
theorem followFrom_collapseStep {anchor : Anchor} {stack : List Text} {name : Text}
    (starts : anchor = .relative ∨ place = [])
    (follows : disk.followFrom place stack.reverse = .ok here)
    (next : disk.followFrom here [name] = .ok there) :
    disk.followFrom place (Path.collapseStep anchor stack name).reverse = .ok there := by
  have pushed := followFrom_snoc follows next
  by_cases up : name = Path.parentName
  · subst up
    obtain ⟨isDirectory, short⟩ := of_followFrom_cons next
    rw [followFrom_cons isDirectory short, if_pos rfl] at next
    cases stack with
    | nil =>
      by_cases relative : anchor = .relative
      · simpa [Path.collapseStep, relative] using pushed
      · -- at the root `..` leads nowhere else
        cases starts.resolve_left relative
        cases follows
        cases next
        simp [Path.collapseStep, relative, followFrom]
    | cons last rest =>
      by_cases same : last = Path.parentName
      · simpa [Path.collapseStep, same] using pushed
      · rw [Path.collapseStep_cancel same]
        rw [List.reverse_cons] at follows
        obtain ⟨above, upTo, down⟩ := followFrom_append.mp follows
        obtain ⟨holds, fits⟩ := of_followFrom_cons down
        rw [followFrom_cons holds fits, if_neg same] at down
        cases down
        cases next
        rw [List.dropLast_concat]
        exact upTo
  · rw [Path.collapseStep_of_ne up, List.reverse_cons]
    exact pushed

theorem followFrom_foldl_collapseStep {anchor : Anchor} {names stack : List Text}
    (starts : anchor = .relative ∨ place = [])
    (follows : disk.followFrom place stack.reverse = .ok here)
    (more : disk.followFrom here names = .ok there) :
    disk.followFrom place (names.foldl (Path.collapseStep anchor) stack).reverse = .ok there := by
  induction names generalizing stack here with
  | nil =>
    cases more
    exact follows
  | cons name rest ih =>
    rw [← List.singleton_append] at more
    obtain ⟨between, next, later⟩ := followFrom_append.mp more
    exact ih (followFrom_collapseStep starts follows next) later

theorem hasNull_collapse {path : Path} (noNull : path.hasNull = false) :
    path.collapse.hasNull = false := by
  simp only [Path.hasNull, List.any_eq_false] at noNull ⊢
  exact fun name member => noNull name (path.sublist_collapse.subset member)

/-- What a path leads to is found without its detours too. -/
theorem find?_collapse {path : Path} {node : Node}
    (found : disk.find? path = some (place, node)) :
    disk.find? path.collapse = some (place, node) := by
  rw [find?_eq_some_iff] at found ⊢
  obtain ⟨follows, there⟩ := found
  refine ⟨?_, there⟩
  obtain ⟨noNull, walked⟩ := of_follow follows
  have short : ¬ longestPath < byteCount path.collapse.toText :=
    Nat.not_lt.mpr (Nat.le_trans (byteCount_collapse_le path) (byteCount_le_of_follow follows))
  have starts : path.anchor = .relative ∨ disk.start path = [] := by
    cases kind : path.isAbsolute with
    | true => exact .inr (by simp [start, kind])
    | false => exact .inl (Path.isAbsolute_eq_false_iff.mp kind)
  rw [follow, hasNull_collapse noNull, if_neg Bool.false_ne_true, if_neg short]
  have stays : disk.followFrom (disk.start path) [] = .ok (disk.start path) := rfl
  exact followFrom_foldl_collapseStep starts stays walked

end Disk

end SceneScript
