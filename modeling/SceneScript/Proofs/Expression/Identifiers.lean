import SceneScript.Expression
import SceneScript.Proofs.Text.Occurrence

/-! # The identifiers of an expression

A name is a letter or an underscore and any number of word characters behind it, between two word
boundaries. A search for names from left to right finds the runs of word characters that do not
start with a digit, as a boundary stands at either end of a run and nowhere else in it.

* `IsWordBoundary`, `Text.Occurrence.IsName` — what the search looks for;
* `NameSearch`, `nameSearch_iff` — the search, and the one list of words that it finds;
* `identifiers_append_cons` — what is no word character separates expressions;
* `identifiers_exact` — the identifiers, in order, and those of them that are new.
-/

namespace SceneScript

open Text

/-- Exactly one of the characters at a word boundary is a word character. -/
def IsWordBoundary (before after : Text) : Prop :=
  before.getLast?.any isWordChar ≠ after.head?.any isWordChar

/-- A letter or an underscore. -/
def isNameStart (c : Char) : Bool := c.isAlpha || c = '_'

structure Text.Occurrence.IsName (o : Occurrence) : Prop where
  opens : IsWordBoundary o.before (o.word ++ o.after)
  named : ∃ c rest, o.word = c :: rest ∧ isNameStart c = true ∧ ∀ d ∈ rest, isWordChar d = true
  closes : IsWordBoundary (o.before ++ o.word) o.after

/-- A search for names, from a place between two texts on. Where names start, the longest of them is
taken, and the search goes on behind it; elsewhere one character is passed over. -/
inductive NameSearch : Text → Text → List Text → Prop
  | finish (before : Text) : NameSearch before [] []
  | take {before word after : Text} {words : List Text}
      (fits : Occurrence.IsName ⟨before, word, after⟩)
      (longest : ∀ longer rest, longer ++ rest = word ++ after →
        Occurrence.IsName ⟨before, longer, rest⟩ → longer.length ≤ word.length)
      (more : NameSearch (before ++ word) after words) :
      NameSearch before (word ++ after) (word :: words)
  | pass {before rest : Text} {c : Char} {words : List Text}
      (unfit : ∀ word after, word ++ after = c :: rest →
        ¬ Occurrence.IsName ⟨before, word, after⟩)
      (more : NameSearch (before ++ [c]) rest words) : NameSearch before (c :: rest) words

variable {before word after rest : Text} {c : Char} {o : Occurrence} {words : List Text}

/-! ## Names are runs -/

theorem isAlpha_eq_false_of_isDigit (digit : c.isDigit = true) : c.isAlpha = false := by
  -- the digits stand before the letters
  have top : c.val ≤ '9'.val := of_decide_eq_true (Bool.and_eq_true_iff.mp digit).2
  have upper : c.isUpper = false :=
    decide_eq_false fun ⟨above, _⟩ => absurd (UInt32.le_trans above top) (by decide)
  have lower : c.isLower = false :=
    Bool.and_eq_false_iff.mpr (.inl (decide_eq_false fun above =>
      absurd (UInt32.le_trans above top) (by decide)))
  exact Bool.or_eq_false_iff.mpr ⟨upper, lower⟩

theorem isNameStart_iff : isNameStart c = true ↔ isWordChar c = true ∧ c.isDigit = false := by
  have mark : c.isDigit = true → c ≠ '_' := by
    rintro digit rfl
    cases digit
  cases digit : c.isDigit with
  | true => simp [isNameStart, isAlpha_eq_false_of_isDigit digit, mark digit]
  | false => simp [isNameStart, isWordChar, Char.isAlphanum, digit]

/-- A name is a run of word characters that does not start with a digit. -/
theorem Text.Occurrence.isName_iff :
    o.IsName ↔ o.IsRun isWordChar ∧ o.word.head?.any Char.isDigit = false := by
  obtain ⟨before, word, after⟩ := o
  constructor
  · rintro ⟨opens, ⟨c, rest, filled, start, others⟩, closes⟩
    dsimp only at filled opens closes
    subst filled
    obtain ⟨first, noDigit⟩ := isNameStart_iff.mp start
    have kept : ∀ d ∈ c :: rest, isWordChar d = true := List.forall_mem_cons.mpr ⟨first, others⟩
    have ends := any_getLast?_append (List.cons_ne_nil c rest) kept before
    rw [IsWordBoundary, ends] at closes
    have begins : ((c :: rest) ++ after).head?.any isWordChar = true := first
    rw [IsWordBoundary, begins] at opens
    exact ⟨⟨List.cons_ne_nil c rest, kept, by simpa using opens, by simpa using closes.symm⟩,
      noDigit⟩
  · rintro ⟨run, noDigit⟩
    obtain ⟨c, rest, filled⟩ := List.exists_cons_of_ne_nil run.filled
    dsimp only at filled noDigit
    subst filled
    obtain ⟨first, others⟩ := List.forall_mem_cons.mp run.kept
    have ends := any_getLast?_append run.filled run.kept before
    have begins : ((c :: rest) ++ after).head?.any isWordChar = true := first
    refine ⟨?_, ⟨c, rest, rfl, isNameStart_iff.mpr ⟨first, noDigit⟩, others⟩, ?_⟩
    · rw [IsWordBoundary, begins, run.start]
      exact Bool.false_ne_true
    · rw [IsWordBoundary, ends, run.finish]
      exact Bool.false_ne_true.symm

/-! ## What a search finds -/

/-- The runs of word characters that do not start with a digit. -/
def nameRuns (t : Text) : List Text :=
  (runs isWordChar t).filter fun word => !word.head?.any Char.isDigit

theorem nameRuns_cons (apart : isWordChar c = false) (rest : Text) :
    nameRuns (c :: rest) = nameRuns rest := by
  rw [nameRuns, runs_cons apart, nameRuns]

theorem nameRuns_of_starts (kept : isWordChar c = true) (rest : Text) :
    nameRuns (c :: rest) =
      (if c.isDigit then [] else [(c :: rest).takeWhile isWordChar]) ++
        nameRuns (rest.dropWhile isWordChar) := by
  rw [nameRuns, runs_of_starts kept, nameRuns]
  cases digit : c.isDigit <;> simp [kept, digit]

/-- A search passes over the rest of a run in which it starts, and over the runs that start with a
digit. -/
theorem NameSearch.eq_nameRuns (search : NameSearch before rest words) :
    words = nameRuns (afterRun isWordChar before rest) := by
  induction search with
  | finish before => simp [afterRun, nameRuns, runs, splitWhere]
  | @take before word after words fits longest more ih =>
    obtain ⟨run, noDigit⟩ := Occurrence.isName_iff.mp fits
    have whole : afterRun isWordChar before (word ++ after) = word ++ after := by
      rw [afterRun, run.start, if_neg Bool.false_ne_true]
    rw [ih, afterRun_of_stop run.finish, whole, nameRuns, nameRuns,
      runs_append run.filled run.kept run.finish, List.filter_cons_of_pos (by simp [noDigit])]
  | @pass before rest c words unfit more ih =>
    rw [ih, afterRun_concat]
    cases kept : isWordChar c with
    | false =>
      have stops : (c :: rest).head?.any isWordChar = false := kept
      rw [if_neg Bool.false_ne_true, afterRun_of_stop stops, nameRuns_cons kept]
    | true =>
      rw [if_pos rfl, afterRun]
      cases goesOn : before.getLast?.any isWordChar with
      | true => rw [if_pos rfl, List.dropWhile_cons_of_pos kept]
      | false =>
        -- a run starts here, and it is no name
        have run := Occurrence.isRun_takeWhile goesOn kept rest
        have digit : c.isDigit = true := by
          refine (Bool.eq_false_or_eq_true _).resolve_right fun noDigit => ?_
          refine unfit _ _ List.takeWhile_append_dropWhile (Occurrence.isName_iff.mpr ⟨run, ?_⟩)
          simp [kept, noDigit]
        rw [if_neg Bool.false_ne_true, nameRuns_of_starts kept, if_pos digit, List.nil_append]

theorem exists_nameSearch (before rest : Text) : ∃ words, NameSearch before rest words := by
  cases rest with
  | nil => exact ⟨[], .finish before⟩
  | cons c rest =>
    by_cases named : ∃ word after, word ++ after = c :: rest ∧
        Occurrence.IsName ⟨before, word, after⟩
    · obtain ⟨word, after, split, fits⟩ := named
      have run := (Occurrence.isName_iff.mp fits).1
      have shorter : after.length < (c :: rest).length := by
        have filled : 0 < word.length := List.length_pos_iff.mpr run.filled
        rw [← split, List.length_append]
        omega
      have longest : ∀ longer others, longer ++ others = word ++ after →
          Occurrence.IsName ⟨before, longer, others⟩ → longer.length ≤ word.length := by
        intro longer others same fitsToo
        have runToo := (Occurrence.isName_iff.mp fitsToo).1
        rw [(run.eq_of_append split).2.1, (runToo.eq_of_append (same.trans split)).2.1]
      obtain ⟨words, more⟩ := exists_nameSearch (before ++ word) after
      exact ⟨word :: words, split ▸ .take fits longest more⟩
    · obtain ⟨words, more⟩ := exists_nameSearch (before ++ [c]) rest
      exact ⟨words, .pass (fun word after split fits => named ⟨word, after, split, fits⟩) more⟩
termination_by rest.length
decreasing_by
  · exact shorter
  · exact Nat.lt_succ_self _

/-- A search finds the runs of word characters that do not start with a digit, and nothing else. -/
theorem nameSearch_iff {expression : Text} :
    NameSearch [] expression words ↔ words = nameRuns expression := by
  refine ⟨NameSearch.eq_nameRuns, ?_⟩
  rintro rfl
  obtain ⟨words, search⟩ := exists_nameSearch [] expression
  exact search.eq_nameRuns ▸ search

/-! ## Identifiers -/

theorem isIdentifier_iff (filled : word ≠ []) :
    isIdentifier word = true ↔ word.head?.any Char.isDigit = false ∧ word ∉ reservedWords := by
  obtain ⟨c, rest, rfl⟩ := List.exists_cons_of_ne_nil filled
  simp [isIdentifier]

theorem identifiers_eq_filter (expression : Text) :
    identifiers expression = (nameRuns expression).filter (· ∉ reservedWords) := by
  rw [identifiers, nameRuns, List.filter_filter]
  refine List.filter_congr fun word member => ?_
  have same := isIdentifier_iff (forall_of_mem_runs member).1
  rw [Bool.eq_iff_iff, same]
  simp [and_comm]

theorem identifiers_append_cons (apart : isWordChar c = false) (a b : Text) :
    identifiers (a ++ c :: b) = identifiers a ++ identifiers b := by
  rw [identifiers, runs_append_cons apart, List.filter_append]
  rfl

/-- The identifiers of an expression are, from left to right, its runs of word characters, without
those that start with a digit and without the reserved words. A search for names finds the same
runs, and what is no word character keeps two expressions apart. Of the identifiers each one is kept
where it occurs first. -/
theorem identifiers_exact (expression : Text) :
    let found := (occurrences isWordChar expression).filter fun o => isIdentifier o.word
    identifiers expression = found.map (·.word) ∧
    found.Pairwise (fun a b => a.before.length < b.before.length) ∧
    (∀ o, o ∈ found ↔ o.whole = expression ∧ o.IsRun isWordChar ∧
      o.word.head?.any Char.isDigit = false ∧ o.word ∉ reservedWords) ∧
    (∃ words, (∀ other, NameSearch [] expression other ↔ other = words) ∧
      identifiers expression = words.filter (· ∉ reservedWords)) ∧
    (∀ a c b, isWordChar c = false → expression = a ++ c :: b →
      identifiers expression = identifiers a ++ identifiers b) ∧
    (distinctIdentifiers expression).Nodup ∧
    (∀ name, name ∈ distinctIdentifiers expression ↔ name ∈ identifiers expression) ∧
    (distinctIdentifiers expression).Pairwise fun a b =>
      (identifiers expression).idxOf a < (identifiers expression).idxOf b := by
  intro found
  refine ⟨?_, (pairwise_occurrences _ _).filter _, fun o => ?_,
    ⟨nameRuns expression, fun _ => nameSearch_iff, identifiers_eq_filter expression⟩, ?_,
    nodup_firstOccurrences _, fun _ => mem_firstOccurrences, pairwise_idxOf_firstOccurrences _⟩
  · rw [identifiers, ← map_word_occurrences, List.filter_map]
    rfl
  · rw [List.mem_filter, mem_occurrences, and_assoc]
    exact and_congr_right fun _ => and_congr_right fun run => isIdentifier_iff run.filled
  · rintro a c b apart rfl
    exact identifiers_append_cons apart a b

/-- A letter that is no word character, a number with an exponent, and reserved words. -/
theorem identifiers_exact_mixed :
    let expression : Text := "éa1>1e5 and not _x or a1==Infinity"
    isWordChar '>' = false ∧
      identifiers expression =
        identifiers "éa1" ++ identifiers "1e5 and not _x or a1==Infinity" ∧
      identifiers expression = ["a1".toList, "_x".toList, "a1".toList] ∧
      distinctIdentifiers expression = ["a1".toList, "_x".toList] := by
  intro expression
  have apart : isWordChar '>' = false := by decide
  obtain ⟨-, -, -, -, splits, -⟩ := identifiers_exact expression
  exact ⟨apart, splits "éa1" '>' _ apart rfl, by decide +kernel, by decide +kernel⟩

end SceneScript
