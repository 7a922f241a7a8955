import SceneScript.Proofs.Disk.Overlong

/-! # Series of questions

Several questions that are asked one after the other have an answer if each of them has one. The
failure of one of them is the failure of them all.

* `mapM_eq_ok_iff`, `exists_mapM_eq_ok_iff` — a series that succeeds;
* `exists_of_mapM_eq_error` — a series that fails;
* `Disk.list_eq_ok_iff`, `Disk.walk_eq_ok_iff`, `Disk.askFile_eq_ok_iff` — what the disk answers.
-/

namespace SceneScript

theorem map_eq_ok_iff {α β ε : Type} {f : α → β} {asked : Except ε α} {b : β} :
    asked.map f = .ok b ↔ ∃ a, asked = .ok a ∧ f a = b := by
  cases asked <;> simp [Except.map]

theorem exists_map_eq_ok_iff {α β ε : Type} {f : α → β} {asked : Except ε α} :
    (∃ b, asked.map f = .ok b) ↔ ∃ a, asked = .ok a := by
  cases asked <;> simp [Except.map]

theorem map_eq_error_iff {α β ε : Type} {f : α → β} {asked : Except ε α} {e : ε} :
    asked.map f = .error e ↔ asked = .error e := by
  cases asked <;> simp [Except.map]

theorem eq_ok_of_toOption {α ε : Type} {asked : Except ε α} {a : α}
    (answer : asked.toOption = some a) : asked = .ok a := by
  cases asked with
  | error e => cases answer
  | ok b => exact congrArg Except.ok (Option.some.inj answer)

section Series

variable {α β ε : Type} {f : α → Except ε β} {as : List α} {bs : List β}

theorem exists_of_mapM_eq_error {e : ε} (failed : as.mapM f = .error e) :
    ∃ a ∈ as, f a = .error e := by
  induction as with
  | nil => cases failed
  | cons a rest ih =>
    rw [List.mapM_cons] at failed
    cases answer : f a with
    | error first =>
      rw [answer] at failed
      cases failed
      exact ⟨a, List.mem_cons_self, answer⟩
    | ok b =>
      cases answers : rest.mapM f with
      | error later =>
        rw [answer, answers] at failed
        cases failed
        obtain ⟨other, member, failedToo⟩ := ih answers
        exact ⟨other, List.mem_cons_of_mem _ member, failedToo⟩
      | ok later =>
        rw [answer, answers] at failed
        cases failed

/-- The answers of a series are those of its questions. -/
theorem mapM_eq_ok_map {g : α → β} (each : ∀ a ∈ as, f a = .ok (g a)) :
    as.mapM f = .ok (as.map g) := by
  induction as with
  | nil => rfl
  | cons a rest ih =>
    obtain ⟨first, others⟩ := List.forall_mem_cons.mp each
    rw [List.mapM_cons, first, ih others]
    rfl

theorem exists_mapM_eq_ok_iff : (∃ bs, as.mapM f = .ok bs) ↔ ∀ a ∈ as, ∃ b, f a = .ok b := by
  constructor
  · rintro ⟨bs, succeeded⟩ a member
    induction as generalizing bs with
    | nil => cases member
    | cons first rest ih =>
      rw [List.mapM_cons] at succeeded
      cases answer : f first with
      | error e =>
        rw [answer] at succeeded
        cases succeeded
      | ok b =>
        cases answers : rest.mapM f with
        | error e =>
          rw [answer, answers] at succeeded
          cases succeeded
        | ok later =>
          rcases List.mem_cons.mp member with rfl | inRest
          · exact ⟨b, answer⟩
          · exact ih later answers inRest
  · intro each
    cases succeeded : as.mapM f with
    | ok bs => exact ⟨bs, rfl⟩
    | error e =>
      obtain ⟨a, member, failed⟩ := exists_of_mapM_eq_error succeeded
      obtain ⟨b, answer⟩ := each a member
      cases answer.symm.trans failed

/-- If it is known which questions have an answer and which one, this is so for the series. -/
theorem mapM_eq_ok_iff {answered : α → Prop} {g : α → β}
    (each : ∀ a ∈ as, ∀ b, f a = .ok b ↔ answered a ∧ g a = b) :
    as.mapM f = .ok bs ↔ (∀ a ∈ as, answered a) ∧ as.map g = bs := by
  constructor
  · intro succeeded
    have all (a : α) (member : a ∈ as) : answered a := by
      obtain ⟨b, answer⟩ := exists_mapM_eq_ok_iff.mp ⟨bs, succeeded⟩ a member
      exact ((each a member b).mp answer).1
    have answers : as.mapM f = .ok (as.map g) :=
      mapM_eq_ok_map fun a member => (each a member _).mpr ⟨all a member, rfl⟩
    exact ⟨all, Except.ok.inj (answers.symm.trans succeeded)⟩
  · rintro ⟨all, rfl⟩
    exact mapM_eq_ok_map fun a member => (each a member _).mpr ⟨all a member, rfl⟩

end Series

namespace Disk

variable {disk : Disk} {path : Path}

theorem lookAt_eq_ok_iff {entry other : DirectoryEntry} :
    lookAt entry = .ok other ↔ byteCount entry.path.toText ≤ longestPath ∧ entry = other := by
  unfold lookAt
  split
  next long => simp [Nat.not_le.mpr long]
  next short => simp [Nat.not_lt.mp short]

theorem lookAt_eq_error {entry : DirectoryEntry} {e : DiskError}
    (failed : lookAt entry = .error e) : e = ⟨.nameTooLong, entry.path⟩ := by
  unfold lookAt at failed
  split at failed
  · exact (Except.error.inj failed).symm
  · cases failed

theorem list_eq_ok_iff {found : List DirectoryEntry} :
    disk.list path = .ok found ↔ path.hasNull = false ∧
      (∀ entry ∈ disk.entries path, byteCount entry.path.toText ≤ longestPath) ∧
      disk.entries path = found := by
  unfold list
  cases path.hasNull with
  | true => simp
  | false =>
    have looks : (disk.entries path).mapM lookAt = .ok found ↔
        (∀ entry ∈ disk.entries path, byteCount entry.path.toText ≤ longestPath) ∧
          (disk.entries path).map id = found :=
      mapM_eq_ok_iff fun _ _ _ => lookAt_eq_ok_iff
    rw [List.map_id] at looks
    simpa using looks

/-- A directory that can be looked up fails to be listed only with an entry that cannot be looked
at. -/
theorem fault_of_list_eq_error (noNull : path.hasNull = false) {e : DiskError}
    (failed : disk.list path = .error e) : e.fault = .nameTooLong := by
  rw [list, noNull, if_neg Bool.false_ne_true] at failed
  obtain ⟨entry, -, unseen⟩ := exists_of_mapM_eq_error failed
  rw [lookAt_eq_error unseen]

theorem walk_eq_ok_iff {suffix : Text} {files : List Path} :
    disk.walk path suffix = .ok files ↔
      ¬ disk.Overlong path ∧ disk.filesBelow path suffix = files := by
  simp [walk, map_eq_ok_iff, ← exists_ask_iff]

theorem askFile_eq_ok_iff {isFile : Bool} :
    disk.askFile path = .ok isFile ↔ ¬ disk.Overlong path ∧ disk.isFile path = isFile := by
  rw [← exists_ask_iff]
  unfold askFile ask Disk.isFile find?
  cases disk.find path with
  | ok found =>
    obtain ⟨place, node⟩ := found
    cases node <;> simp [Except.map, Except.toOption]
  | error fault => cases fault <;> simp [Except.map, Except.toOption]

theorem askFile_eq_error_iff {e : DiskError} :
    disk.askFile path = .error e ↔ disk.Overlong path ∧ e = ⟨.nameTooLong, path⟩ := by
  rw [← ask_eq_error_iff]
  unfold askFile
  cases disk.ask path <;> simp [Except.map]

end Disk

end SceneScript
