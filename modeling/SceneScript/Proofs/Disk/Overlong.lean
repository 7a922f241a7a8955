import SceneScript.Disk

/-! # Paths that are too long for a disk

What stands at a path is told of every path, except where the disk cannot look: the text of the path
is too long, or a name that is too long is looked up in a directory that exists.

* `Disk.Overlong` — a path that is too long, on the way that it takes over the disk;
* `Disk.ask_eq_error_iff`, `Disk.exists_ask_iff` — only such a path has no answer.
-/

namespace SceneScript.Disk

/-- A name that is too long counts only if the names before it lead to a directory. -/
def Overlong (disk : Disk) (path : Path) : Prop :=
  path.hasNull = false ∧
    (longestPath < byteCount path.toText ∨
      ∃ before name after place, path.names = before ++ name :: after ∧
        disk.followFrom (disk.start path) before = .ok place ∧
        disk.node? place = some .directory ∧ longestName < byteCount name)

theorem followFrom_cons {disk : Disk} {place : Place}
    (isDirectory : disk.node? place = some .directory) {name : Text}
    (short : ¬ longestName < byteCount name) (rest : List Text) :
    disk.followFrom place (name :: rest) =
      disk.followFrom (if name = Path.parentName then place.dropLast else place ++ [name])
        rest := by
  rw [followFrom, isDirectory]
  simp only [if_neg short]

/-- The first name of a way that does not fail there is looked up in a directory, and is not too
long. -/
theorem of_followFrom_cons {disk : Disk} {place there : Place} {name : Text} {rest : List Text}
    (follows : disk.followFrom place (name :: rest) = .ok there) :
    disk.node? place = some .directory ∧ ¬ longestName < byteCount name := by
  rw [followFrom] at follows
  split at follows
  · cases follows
  · cases follows
  next isDirectory =>
    split at follows
    · cases follows
    next short => exact ⟨isDirectory, short⟩

theorem followFrom_eq_nameTooLong_iff {disk : Disk} {place : Place} {names : List Text} :
    disk.followFrom place names = .error .nameTooLong ↔
      ∃ before name after there, names = before ++ name :: after ∧
        disk.followFrom place before = .ok there ∧ disk.node? there = some .directory ∧
        longestName < byteCount name := by
  induction names generalizing place with
  | nil => simp [followFrom]
  | cons first rest ih =>
    constructor
    · intro failed
      rw [followFrom] at failed
      split at failed
      · cases failed
      · cases failed
      next isDirectory =>
        split at failed
        next long => exact ⟨[], first, rest, place, rfl, rfl, isDirectory, long⟩
        next short =>
          obtain ⟨before, name, after, there, rfl, follows, found, long⟩ := ih.mp failed
          refine ⟨first :: before, name, after, there, rfl, ?_, found, long⟩
          rw [followFrom_cons isDirectory short, follows]
    · rintro ⟨before, name, after, there, names, follows, found, long⟩
      cases before with
      | nil =>
        obtain ⟨rfl, rfl⟩ := List.cons.inj names
        cases follows
        rw [followFrom, found]
        simp only [if_pos long]
      | cons _ before =>
        obtain ⟨rfl, rfl⟩ := List.cons.inj names
        obtain ⟨isDirectory, short⟩ := of_followFrom_cons follows
        rw [followFrom_cons isDirectory short] at follows ⊢
        exact ih.mpr ⟨before, name, after, there, rfl, follows, found, long⟩

theorem follow_eq_nameTooLong_iff {disk : Disk} {path : Path} :
    disk.follow path = .error .nameTooLong ↔ disk.Overlong path := by
  unfold follow Overlong
  cases path.hasNull with
  | true => simp
  | false =>
    by_cases long : longestPath < byteCount path.toText
    · simp [long]
    · simp [long, followFrom_eq_nameTooLong_iff]

theorem find_eq_nameTooLong_iff {disk : Disk} {path : Path} :
    disk.find path = .error .nameTooLong ↔ disk.follow path = .error .nameTooLong := by
  unfold find
  cases disk.follow path with
  | error fault => simp [bind, Except.bind]
  | ok place =>
    cases found : disk.node? place <;>
      simp [bind, Except.bind, pure, Except.pure, throw, throwThe, MonadExceptOf.throw, found]

theorem ask_eq_error_iff {disk : Disk} {path : Path} {error : DiskError} :
    disk.ask path = .error error ↔ disk.Overlong path ∧ error = ⟨.nameTooLong, path⟩ := by
  rw [← follow_eq_nameTooLong_iff, ← find_eq_nameTooLong_iff]
  unfold ask
  cases disk.find path with
  | ok found => simp
  | error fault => cases fault <;> simp [eq_comm]

theorem exists_ask_iff {disk : Disk} {path : Path} :
    (∃ node?, disk.ask path = .ok node?) ↔ ¬ disk.Overlong path := by
  cases asked : disk.ask path with
  | ok node? =>
    refine iff_of_true ⟨node?, rfl⟩ fun long => ?_
    cases asked.symm.trans (ask_eq_error_iff.mpr ⟨long, rfl⟩)
  | error error => exact iff_of_false (by simp) (not_not_intro (ask_eq_error_iff.mp asked).1)

end SceneScript.Disk
