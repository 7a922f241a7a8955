import SceneScript.Text.Basic

/-! # Runs of characters

Words that are joined by other characters are found again as the runs of a text.

* `Text.forall_of_mem_runs` — what a run consists of;
* `Text.runs_append_cons` — a character that is in no run separates;
* `Text.runs_append` — a run in front of what does not go on with it;
* `Text.runs_join` — words joined by a separator.
-/

namespace SceneScript.Text

variable {keep : Char → Bool} {c : Char} {word : Text}

theorem forall_of_mem_splitWhere {cut : Char → Bool} {t piece : Text}
    (member : piece ∈ splitWhere cut t) : ∀ c ∈ piece, cut c = false := by
  induction t generalizing piece with
  | nil =>
    rw [splitWhere, List.mem_singleton] at member
    simp [member]
  | cons c rest ih =>
    unfold splitWhere at member
    split at member
    · rcases List.mem_cons.mp member with rfl | later
      · exact List.forall_mem_nil _
      · exact ih later
    next uncut =>
      cases pieces : splitWhere cut rest with
      | nil => exact absurd pieces (splitWhere_ne_nil cut rest)
      | cons first others =>
        rw [pieces] at member ih
        rcases List.mem_cons.mp member with rfl | later
        · exact List.forall_mem_cons.mpr ⟨Bool.not_eq_true _ ▸ uncut, ih List.mem_cons_self⟩
        · exact ih (List.mem_cons_of_mem _ later)

theorem forall_of_mem_runs {t : Text} (member : word ∈ runs keep t) :
    word ≠ [] ∧ ∀ c ∈ word, keep c = true := by
  obtain ⟨piece, nonempty⟩ := List.mem_filter.mp member
  refine ⟨by simpa using nonempty, fun c inWord => ?_⟩
  simpa using forall_of_mem_splitWhere piece c inWord

theorem runs_of_forall (nonempty : word ≠ []) (kept : ∀ c ∈ word, keep c = true) :
    runs keep word = [word] := by
  have uncut : ∀ c ∈ word, (!keep c) = false := fun c member => by simp [kept c member]
  rw [runs, splitWhere_of_forall_not uncut]
  simp [nonempty]

theorem runs_append_cons (apart : keep c = false) (a b : Text) :
    runs keep (a ++ c :: b) = runs keep a ++ runs keep b := by
  rw [runs, splitWhere_append_cons (by simp [apart]), List.filter_append]
  rfl

theorem runs_cons (apart : keep c = false) (rest : Text) :
    runs keep (c :: rest) = runs keep rest :=
  runs_append_cons apart [] rest

theorem any_head?_dropWhile (keep : Char → Bool) (t : Text) :
    (t.dropWhile keep).head?.any keep = false := by
  have stopped := List.head?_dropWhile_not keep t
  cases first : (t.dropWhile keep).head? with
  | none => rfl
  | some c =>
    rw [first] at stopped
    exact stopped

theorem runs_append {rest : Text} (nonempty : word ≠ []) (kept : ∀ c ∈ word, keep c = true)
    (stops : rest.head?.any keep = false) :
    runs keep (word ++ rest) = word :: runs keep rest := by
  cases rest with
  | nil =>
    rw [List.append_nil, runs_of_forall nonempty kept]
    rfl
  | cons c rest =>
    have apart : keep c = false := stops
    rw [runs_append_cons apart, runs_of_forall nonempty kept, runs_cons apart]
    rfl

theorem runs_append_of_forall_not {separator : Text} (apart : ∀ c ∈ separator, keep c = false)
    (rest : Text) : runs keep (separator ++ rest) = runs keep rest := by
  induction separator with
  | nil => rfl
  | cons c more ih =>
    obtain ⟨here, later⟩ := List.forall_mem_cons.mp apart
    rw [List.cons_append, runs_cons here, ih later]

theorem runs_append_right_of_forall_not {separator : Text}
    (apart : ∀ c ∈ separator, keep c = false) (t : Text) :
    runs keep (t ++ separator) = runs keep t := by
  cases separator with
  | nil => rw [List.append_nil]
  | cons c more =>
    obtain ⟨here, later⟩ := List.forall_mem_cons.mp apart
    have none : runs keep more = [] := by
      simpa [runs, splitWhere] using runs_append_of_forall_not later []
    rw [runs_append_cons here, none, List.append_nil]

theorem runs_join {separator : Text} {words : List Text} (nonempty : separator ≠ [])
    (apart : ∀ c ∈ separator, keep c = false)
    (kept : ∀ word ∈ words, word ≠ [] ∧ ∀ c ∈ word, keep c = true) :
    runs keep (join separator words) = words := by
  induction words with
  | nil => rfl
  | cons word rest ih =>
    obtain ⟨⟨written, own⟩, others⟩ := List.forall_mem_cons.mp kept
    cases rest with
    | nil =>
      rw [join, List.intercalate_singleton]
      exact runs_of_forall written own
    | cons second more =>
      obtain ⟨mark, marks, rfl⟩ := List.exists_cons_of_ne_nil nonempty
      obtain ⟨here, later⟩ := List.forall_mem_cons.mp apart
      rw [join, List.intercalate_cons_cons, List.append_assoc, List.cons_append,
        runs_append_cons here, runs_of_forall written own, runs_append_of_forall_not later,
        ← join, ih others]
      rfl

end SceneScript.Text
