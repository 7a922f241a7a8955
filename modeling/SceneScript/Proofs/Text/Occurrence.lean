import Mathlib.Data.List.TakeWhile
import SceneScript.Proofs.Text.Runs

/-! # Where the runs of a text stand

A run of characters is maximal: neither the character before it nor the one after it could belong to
it. So a text has at each place at most one run that starts there.

* `Text.Occurrence`, `Text.Occurrence.IsRun` — a part of a text in its place, and the runs;
* `Text.occurrences` — the runs of a text with their places, from left to right;
* `Text.mem_occurrences`, `Text.pairwise_occurrences`, `Text.map_word_occurrences` — every run is
  listed, in order, and their words are `Text.runs`.
-/

namespace SceneScript.Text

/-- A part of a text, with what stands before and after it. -/
structure Occurrence where
  before : Text
  word : Text
  after : Text
  deriving Repr, DecidableEq

namespace Occurrence

def whole (o : Occurrence) : Text := o.before ++ (o.word ++ o.after)

/-- A run of characters that cannot be made longer at either end. -/
structure IsRun (keep : Char → Bool) (o : Occurrence) : Prop where
  filled : o.word ≠ []
  kept : ∀ c ∈ o.word, keep c = true
  start : o.before.getLast?.any keep = false
  finish : o.after.head?.any keep = false

end Occurrence

/-- The runs that start in the second text, where the first one stands before it. -/
def occurrencesFrom (keep : Char → Bool) (before : Text) : Text → List Occurrence
  | [] => []
  | c :: rest =>
    let later := occurrencesFrom keep (before ++ [c]) rest
    if keep c && !before.getLast?.any keep then
      ⟨before, (c :: rest).takeWhile keep, (c :: rest).dropWhile keep⟩ :: later
    else later

def occurrences (keep : Char → Bool) (t : Text) : List Occurrence := occurrencesFrom keep [] t

/-- What is left of a text behind the run that goes on into it. -/
def afterRun (keep : Char → Bool) (before t : Text) : Text :=
  if before.getLast?.any keep then t.dropWhile keep else t

variable {keep : Char → Bool} {before word after t : Text} {c : Char} {o : Occurrence}

/-! ## One run -/

/-- A run is what can be taken from its place on. -/
theorem takeWhile_append_of_stop (kept : ∀ c ∈ word, keep c = true)
    (stops : after.head?.any keep = false) :
    (word ++ after).takeWhile keep = word ∧ (word ++ after).dropWhile keep = after := by
  rw [List.takeWhile_append_of_pos kept, List.dropWhile_append_of_pos kept]
  cases after with
  | nil => simp
  | cons c rest =>
    have stop : keep c = false := stops
    simp [stop]

namespace Occurrence

theorem isRun_takeWhile (start : before.getLast?.any keep = false) (kept : keep c = true)
    (rest : Text) :
    IsRun keep ⟨before, (c :: rest).takeWhile keep, (c :: rest).dropWhile keep⟩ := by
  refine ⟨?_, fun d member => List.mem_takeWhile_imp member, start, any_head?_dropWhile keep _⟩
  rw [List.takeWhile_cons_of_pos kept]
  exact List.cons_ne_nil _ _

/-- The first character and the rest of what stands from a run on. -/
theorem IsRun.eq_of_append (run : IsRun keep ⟨before, word, after⟩) {rest : Text}
    (split : word ++ after = c :: rest) :
    keep c = true ∧ word = (c :: rest).takeWhile keep ∧ after = (c :: rest).dropWhile keep := by
  obtain ⟨first, others, filled⟩ := List.exists_cons_of_ne_nil run.filled
  obtain ⟨taken, dropped⟩ := takeWhile_append_of_stop run.kept run.finish
  dsimp only at filled taken dropped
  rw [split] at taken dropped
  rw [filled] at split
  obtain ⟨rfl, -⟩ := List.cons.inj split
  exact ⟨run.kept _ (filled ▸ List.mem_cons_self), taken.symm, dropped.symm⟩

/-- The run that starts at a place, if the character there starts one. -/
theorem isRun_at_iff {rest : Text} :
    o.whole = before ++ c :: rest ∧ o.IsRun keep ∧ before.length = o.before.length ↔
      (keep c = true ∧ before.getLast?.any keep = false) ∧
        o = ⟨before, (c :: rest).takeWhile keep, (c :: rest).dropWhile keep⟩ := by
  obtain ⟨front, word, after⟩ := o
  constructor
  · rintro ⟨whole, run, same⟩
    obtain ⟨rfl, split⟩ := List.append_inj whole same.symm
    obtain ⟨kept, isWord, isAfter⟩ := run.eq_of_append split
    exact ⟨⟨kept, run.start⟩, by rw [← isWord, ← isAfter]⟩
  · rintro ⟨⟨kept, start⟩, same⟩
    rw [same]
    exact ⟨congrArg (before ++ ·) List.takeWhile_append_dropWhile, isRun_takeWhile start kept rest,
      rfl⟩

end Occurrence

/-! ## All runs -/

theorem mem_occurrencesFrom :
    o ∈ occurrencesFrom keep before t ↔
      o.whole = before ++ t ∧ o.IsRun keep ∧ before.length ≤ o.before.length := by
  induction t generalizing before with
  | nil =>
    refine iff_of_false List.not_mem_nil ?_
    rintro ⟨whole, run, far⟩
    have lengths := congrArg List.length whole
    have filled := List.length_pos_iff.mpr run.filled
    simp only [Occurrence.whole, List.length_append, List.length_nil] at lengths
    omega
  | cons c rest ih =>
    -- a run starts at this place, or it is one of those that the induction speaks of
    have later : o ∈ occurrencesFrom keep (before ++ [c]) rest ↔
        o.whole = before ++ c :: rest ∧ o.IsRun keep ∧ before.length < o.before.length := by
      rw [ih, List.append_assoc, List.length_append]
      rfl
    rw [Nat.le_iff_lt_or_eq, and_or_left, and_or_left, ← later, Occurrence.isRun_at_iff,
      occurrencesFrom]
    split
    next starts =>
      have start : keep c = true ∧ before.getLast?.any keep = false := by simpa using starts
      rw [List.mem_cons, and_iff_right start, or_comm]
    next passes =>
      have none : ¬(keep c = true ∧ before.getLast?.any keep = false) := by simpa using passes
      rw [iff_false_intro none, false_and, or_false]

/-- The runs of a text are listed, each with its place. -/
theorem mem_occurrences : o ∈ occurrences keep t ↔ o.whole = t ∧ o.IsRun keep := by
  rw [occurrences, mem_occurrencesFrom, List.nil_append]
  exact and_congr_right fun _ => and_iff_left (Nat.zero_le _)

theorem pairwise_occurrencesFrom (keep : Char → Bool) (before t : Text) :
    (occurrencesFrom keep before t).Pairwise fun a b => a.before.length < b.before.length := by
  induction t generalizing before with
  | nil => exact .nil
  | cons c rest ih =>
    rw [occurrencesFrom]
    split
    · refine List.pairwise_cons.mpr ⟨fun o later => ?_, ih _⟩
      have behind := (mem_occurrencesFrom.mp later).2.2
      rw [List.length_append] at behind
      exact behind
    · exact ih _

/-- They are listed from left to right. -/
theorem pairwise_occurrences (keep : Char → Bool) (t : Text) :
    (occurrences keep t).Pairwise fun a b => a.before.length < b.before.length :=
  pairwise_occurrencesFrom keep [] t

/-! ## Their words -/

/-- A run goes on behind its last character. -/
theorem any_getLast?_append (filled : word ≠ []) (kept : ∀ c ∈ word, keep c = true)
    (before : Text) : (before ++ word).getLast?.any keep = true := by
  rw [List.getLast?_append, List.getLast?_eq_some_getLast filled]
  exact kept _ (List.getLast_mem filled)

theorem afterRun_concat (keep : Char → Bool) (before : Text) (c : Char) (rest : Text) :
    afterRun keep (before ++ [c]) rest = if keep c then rest.dropWhile keep else rest := by
  simp [afterRun]

theorem afterRun_of_stop (stops : t.head?.any keep = false) (before : Text) :
    afterRun keep before t = t := by
  unfold afterRun
  split
  · cases t with
    | nil => rfl
    | cons c rest => exact List.dropWhile_cons_of_neg (by simpa using stops)
  · rfl

theorem runs_of_starts (kept : keep c = true) (rest : Text) :
    runs keep (c :: rest) = (c :: rest).takeWhile keep :: runs keep (rest.dropWhile keep) := by
  have filled : (c :: rest).takeWhile keep ≠ [] := by
    rw [List.takeWhile_cons_of_pos kept]
    exact List.cons_ne_nil _ _
  have runs := runs_append filled (fun d member => List.mem_takeWhile_imp member)
    (any_head?_dropWhile keep (c :: rest))
  rwa [List.takeWhile_append_dropWhile, List.dropWhile_cons_of_pos kept] at runs

theorem map_word_occurrencesFrom (keep : Char → Bool) (before t : Text) :
    (occurrencesFrom keep before t).map (·.word) = runs keep (afterRun keep before t) := by
  induction t generalizing before with
  | nil => simp [occurrencesFrom, afterRun, runs, splitWhere]
  | cons c rest ih =>
    have later := ih (before ++ [c])
    rw [afterRun_concat] at later
    cases kept : keep c with
    | false =>
      rw [kept, if_neg Bool.false_ne_true] at later
      simp [occurrencesFrom, afterRun, kept, later, runs_cons]
    | true =>
      rw [kept, if_pos rfl] at later
      cases goesOn : before.getLast?.any keep with
      | false =>
        simp [occurrencesFrom, afterRun, kept, goesOn, later, runs_of_starts kept rest]
      | true => simp [occurrencesFrom, afterRun, kept, goesOn, later]

theorem map_word_occurrences (keep : Char → Bool) (t : Text) :
    (occurrences keep t).map (·.word) = runs keep t :=
  map_word_occurrencesFrom keep [] t

end SceneScript.Text
