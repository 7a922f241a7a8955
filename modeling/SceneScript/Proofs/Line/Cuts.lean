import Mathlib.Data.List.Induction
import SceneScript.Expression
import SceneScript.Proofs.Line.Arguments
import SceneScript.Proofs.Text.Margin
import SceneScript.Proofs.Text.Runs

/-! # Where a line is cut

The body of a line is cut at every blank that a hyphen follows. What stands before the first cut is
its main part, and what stands between two cuts, or behind the last one, is one segment of its
arguments.

* `Text.cuts`, `Text.segmentsAt` — the places of the cuts, and the segments that they leave;
* `Text.segmentsAt_cuts`, `Text.flatten_segmentsAt_cuts` — the search for one boundary after the
  other leaves the same segments, and nothing of the text is lost;
* `Argument.Says` — what a segment says on its own, `Argument.ofSegment?_eq_some_iff`;
* `OrderedMap.keys_ofList` — several entries with one key stand where the first of them stood;
* `splitArguments_exact` — the main part of a body and its arguments, read off the cuts.
-/

namespace SceneScript

theorem OrderedMap.keys_ofList {κ α : Type} [DecidableEq κ] (entries : List (κ × α)) :
    (ofList entries).keys = firstOccurrences (entries.map (·.1)) := by
  induction entries using List.reverseRecOn with
  | nil => rfl
  | append_singleton front last ih =>
    have written : ofList (front ++ [last]) = (ofList front).insert last.1 last.2 := by
      simp [ofList]
    rw [written, keys_insert, ih, List.map_append, List.map_singleton, firstOccurrences_concat]
    simp only [mem_firstOccurrences]

namespace Text

variable {a b t margin : Text} {c : Char}

/-! ## Cuts -/

/-- The places of the blanks that a hyphen follows. -/
def cuts (t : Text) : List Nat :=
  (List.range t.length).filter fun place => t[place]?.any isBlank && t[place + 1]? = some '-'

/-- What stands behind each of these cuts, up to the next one. -/
def segmentsAt (t : Text) : List Nat → List Text
  | [] => []
  | [place] => [t.drop (place + 2)]
  | place :: next :: more => (t.take next).drop (place + 2) :: segmentsAt t (next :: more)

@[simp] theorem cuts_nil : cuts [] = [] := rfl

theorem cuts_cons (c : Char) (t : Text) :
    cuts (c :: t) =
      (if isBlank c && t.head? = some '-' then [0] else []) ++ (cuts t).map (· + 1) := by
  rw [cuts, List.length_cons, List.range_succ_eq_map, List.filter_cons, List.filter_map]
  cases t with
  | nil => simp
  | cons d rest =>
    split <;> simp_all [cuts, Function.comp_def]

theorem cuts_eq_nil_iff : cuts t = [] ↔ t.Unbroken := by
  induction t with
  | nil => simp
  | cons c rest ih =>
    rw [cuts_cons, List.append_eq_nil_iff, List.map_eq_nil_iff, ih]
    cases rest with
    | nil => simp
    | cons d rest =>
      rw [unbroken_cons_cons]
      cases isBlank c <;> simp

/-- The first cut is where the first boundary is, and the others follow behind it. -/
theorem cuts_append (unbroken : a.Unbroken) (blank : isBlank c = true) (b : Text) :
    cuts (a ++ c :: '-' :: b) = a.length :: (cuts b).map (· + (a.length + 2)) := by
  induction a with
  | nil =>
    have letter : isBlank '-' = false := by decide
    simp [cuts_cons, blank, letter]
  | cons d a ih =>
    have later : Unbroken a := unbroken.of_isInfix (List.suffix_cons d a).isInfix
    have uncut : (isBlank d && (a ++ c :: '-' :: b).head? = some '-') = false := by
      cases a with
      | nil =>
        have letter : c ≠ '-' := by
          rintro rfl
          exact absurd blank (by decide)
        simp [letter]
      | cons e a =>
        have here := (unbroken_cons_cons.mp unbroken).1
        simpa using fun inked hyphen => by simp [here hyphen] at inked
    rw [List.cons_append, cuts_cons, uncut, ih later, List.map_cons, List.map_map]
    rfl

/-! ## Segments between cuts -/

theorem length_segmentsAt (t : Text) (places : List Nat) :
    (segmentsAt t places).length = places.length := by
  fun_induction segmentsAt t places with
  | case1 => rfl
  | case2 => rfl
  | case3 place next more ih => simp [ih]

/-- Places that are counted from a later start. -/
theorem segmentsAt_map_add (front t : Text) (places : List Nat) :
    segmentsAt (front ++ t) (places.map (· + front.length)) = segmentsAt t places := by
  fun_induction segmentsAt t places with
  | case1 => rfl
  | case2 place =>
    simp only [List.map_cons, List.map_nil, segmentsAt]
    rw [show place + front.length + 2 = front.length + (place + 2) by omega,
      List.drop_length_add_append]
  | case3 place next more ih =>
    simp only [List.map_cons] at ih
    simp only [List.map_cons, segmentsAt, ih]
    rw [Nat.add_comm next, Nat.add_right_comm, Nat.add_comm _ front.length,
      List.take_length_add_append, List.drop_length_add_append]

/-- The segment behind the first cut ends where the next cut is, if there is one. -/
theorem segmentsAt_append (a b : Text) (c : Char) (places : List Nat) :
    segmentsAt (a ++ c :: '-' :: b) (a.length :: places.map (· + (a.length + 2))) =
      b.take (places.head?.getD b.length) :: segmentsAt b places := by
  have split : a ++ c :: '-' :: b = (a ++ [c, '-']) ++ b := by simp
  have front : (a ++ [c, '-']).length = a.length + 2 := by simp
  rw [split, ← front]
  cases places with
  | nil => simp [segmentsAt]
  | cons place more =>
    have later := segmentsAt_map_add (a ++ [c, '-']) b (place :: more)
    rw [List.map_cons] at later
    rw [List.map_cons, segmentsAt, later, ← front, Nat.add_comm place,
      List.take_length_add_append, List.drop_left]
    rfl

/-- The segments between the cuts are found by going from one boundary to the next. -/
theorem segmentsAt_cuts (unbroken : a.Unbroken) (blank : isBlank c = true) (b : Text) :
    segmentsAt (a ++ c :: '-' :: b) (cuts (a ++ c :: '-' :: b)) = hyphenated b := by
  rw [cuts_append unbroken blank, segmentsAt_append]
  fun_induction hyphenated b generalizing a c with
  | case1 b none =>
    rw [cuts_eq_nil_iff.mpr (breakAtHyphen?_eq_none.mp none)]
    simp [segmentsAt]
  | case2 b before after found _ ih =>
    obtain ⟨d, blankToo, rfl, unbrokenToo⟩ := breakAtHyphen?_eq_some found
    rw [cuts_append unbrokenToo blankToo, segmentsAt_append, ih unbrokenToo blankToo]
    simp

/-! ## Nothing is lost -/

/-- The segments one after the other, each behind the blank and the hyphen of its cut. -/
def rejoined (t : Text) (places : List Nat) : Text :=
  (List.zipWith (fun place segment => (t.drop place).take 2 ++ segment) places
    (segmentsAt t places)).flatten

theorem rejoined_append (a b : Text) (c : Char) (places : List Nat) :
    rejoined (a ++ c :: '-' :: b) (a.length :: places.map (· + (a.length + 2))) =
      c :: '-' :: b.take (places.head?.getD b.length) ++ rejoined b places := by
  have shifted (place : Nat) :
      (a ++ c :: '-' :: b).drop (place + (a.length + 2)) = b.drop place := by
    rw [show place + (a.length + 2) = a.length + (place + 2) by omega,
      List.drop_length_add_append]
    rfl
  rw [rejoined, segmentsAt_append, List.zipWith_cons_cons, List.zipWith_map_left,
    List.flatten_cons]
  simp only [shifted, List.drop_left]
  rfl

theorem rejoined_cuts (unbroken : a.Unbroken) (blank : isBlank c = true) (b : Text) :
    rejoined (a ++ c :: '-' :: b) (cuts (a ++ c :: '-' :: b)) = c :: '-' :: b := by
  rw [cuts_append unbroken blank, rejoined_append]
  fun_induction hyphenated b generalizing a c with
  | case1 b none =>
    rw [cuts_eq_nil_iff.mpr (breakAtHyphen?_eq_none.mp none)]
    simp [rejoined]
  | case2 b before after found _ ih =>
    obtain ⟨d, blankToo, rfl, unbrokenToo⟩ := breakAtHyphen?_eq_some found
    rw [cuts_append unbrokenToo blankToo, rejoined_append, ih unbrokenToo blankToo]
    simp

/-! ## Blanks at the end -/

theorem Blank.unbroken (blank : t.Blank) : t.Unbroken := by
  rintro before c after rfl
  have hyphen : isBlank '-' = true := blank '-' (by simp)
  cases hyphen

/-- Blanks behind a text are no hyphens, so that they do not make a boundary of its end. -/
theorem Unbroken.append_blank (unbroken : t.Unbroken) (blank : margin.Blank) :
    (t ++ margin).Unbroken := by
  induction t with
  | nil => exact blank.unbroken
  | cons c rest ih =>
    cases rest with
    | nil =>
      cases margin with
      | nil => exact unbroken_singleton
      | cons d margin =>
        refine unbroken_cons_cons.mpr ⟨?_, blank.unbroken⟩
        rintro rfl
        have hyphen : isBlank '-' = true := blank '-' List.mem_cons_self
        cases hyphen
    | cons d rest =>
      obtain ⟨here, later⟩ := unbroken_cons_cons.mp unbroken
      exact unbroken_cons_cons.mpr ⟨here, ih later⟩

theorem map_strip_hyphenated_append_blank (blank : margin.Blank) (t : Text) :
    (hyphenated (t ++ margin)).map strip = (hyphenated t).map strip := by
  fun_induction hyphenated t with
  | case1 t none =>
    have unbroken : t.Unbroken := breakAtHyphen?_eq_none.mp none
    rw [hyphenated_of_unbroken (unbroken.append_blank blank)]
    have stripped := strip_append_blanks (List.forall_mem_nil _ : Blank []) blank t
    rw [List.nil_append] at stripped
    simp [stripped]
  | case2 t before after found _ ih =>
    obtain ⟨c, isBlank_c, rfl, unbroken⟩ := breakAtHyphen?_eq_some found
    rw [List.append_assoc, List.cons_append, List.cons_append,
      hyphenated_append unbroken isBlank_c, List.map_cons, List.map_cons, ih]

end Text

/-! ## The first word -/

namespace Text

variable {t : Text}

theorem words_strip (t : Text) : words (strip t) = words t := by
  obtain ⟨before, after, blankBefore, blankAfter, split⟩ := exists_margins t
  have apart {margin : Text} (blank : margin.Blank) : ∀ c ∈ margin, (!isBlank c) = false :=
    fun c member => by rw [blank c member]; rfl
  conv_rhs => rw [split]
  rw [words, words, runs_append_right_of_forall_not (apart blankAfter),
    runs_append_of_forall_not (apart blankBefore)]

/-- The first word of a text that is not blank is the run of ink that it begins with. -/
theorem head?_words (filled : strip t ≠ []) : (words t).head? = some (firstWord (strip t)) := by
  have start := (trimmed_strip t).start
  have word : firstWord (strip t) = (strip t).takeWhile (!isBlank ·) := by
    rw [firstWord, stripStart_eq_self start]
  have runs := runs_append (word ▸ firstWord_ne_nil start filled)
    (fun c member => List.mem_takeWhile_imp member) (any_head?_dropWhile _ (strip t))
  rw [List.takeWhile_append_dropWhile] at runs
  rw [← words_strip, words, runs, word]
  rfl

theorem mem_strip_iff {c : Char} (ink : isBlank c = false) : c ∈ strip t ↔ c ∈ t := by
  obtain ⟨before, after, blankBefore, blankAfter, split⟩ := exists_margins t
  have absent {margin : Text} (blank : margin.Blank) : c ∉ margin := by
    intro inMargin
    rw [blank c inMargin] at ink
    cases ink
  conv_rhs => rw [split]
  simp [absent blankBefore, absent blankAfter]

end Text

/-! ## What a segment says -/

namespace Argument

/-- A segment names a key, and behind the first equals sign its value; without that sign its first
word is a key on its own. -/
inductive Says (segment : Text) : Text × Text → Prop
  | value {before after : Text} (split : Text.strip segment = before ++ '=' :: after)
      (first : '=' ∉ before) (named : Text.strip before ≠ []) :
      Says segment (Text.strip before, Text.strip after)
  | flag {word : Text} (unmarked : '=' ∉ segment)
      (first : (Text.words segment).head? = some word) : Says segment (word, "true")

variable {segment before after : Text} {argument : Text × Text}

theorem ofSegment?_strip (segment : Text) :
    ofSegment? (Text.strip segment) = ofSegment? segment := by
  rw [ofSegment?, ofSegment?, Text.strip_eq_self (Text.trimmed_strip segment)]

theorem ofSegment?_of_marked (split : Text.strip segment = before ++ '=' :: after)
    (first : '=' ∉ before) :
    ofSegment? segment =
      if Text.strip before = [] then none else some (Text.strip before, Text.strip after) := by
  simp only [ofSegment?, split, Text.breakAt?_append first]

theorem ofSegment?_of_unmarked (unmarked : '=' ∉ Text.strip segment) :
    ofSegment? segment =
      if Text.strip segment = [] then none
      else some (Text.firstWord (Text.strip segment), flagValue) := by
  simp only [ofSegment?, Text.breakAt?_eq_none.mpr unmarked]

theorem ofSegment?_eq_some_iff : ofSegment? segment = some argument ↔ Says segment argument := by
  have ink : isBlank '=' = false := by decide
  constructor
  · intro read
    cases marked : Text.breakAt? '=' (Text.strip segment) with
    | some parts =>
      obtain ⟨split, first⟩ := Text.breakAt?_eq_some marked
      rw [ofSegment?_of_marked split first] at read
      obtain ⟨named, same⟩ := Option.ite_none_left_eq_some.mp read
      exact Option.some.inj same ▸ .value split first named
    | none =>
      have unmarked := Text.breakAt?_eq_none.mp marked
      rw [ofSegment?_of_unmarked unmarked] at read
      obtain ⟨filled, same⟩ := Option.ite_none_left_eq_some.mp read
      rw [Text.mem_strip_iff ink] at unmarked
      exact Option.some.inj same ▸ .flag unmarked (Text.head?_words filled)
  · rintro (⟨split, first, named⟩ | ⟨unmarked, first⟩)
    · rw [ofSegment?_of_marked split first, if_neg named]
    · have filled : Text.strip segment ≠ [] := by
        intro blank
        rw [← Text.words_strip, blank] at first
        cases first
      rw [Text.head?_words filled] at first
      rw [ofSegment?_of_unmarked (mt (Text.mem_strip_iff ink).mp unmarked), if_neg filled,
        Option.some.inj first]
      rfl

end Argument

/-! ## The main part and the arguments -/

/-- Blanks at the end of a body belong to its last segment, and are stripped from it. -/
theorem Arguments.ofSegments_hyphenated_stripEnd (t : Text) :
    ofSegments (Text.hyphenated (Text.stripEnd t)) = ofSegments (Text.hyphenated t) := by
  obtain ⟨margin, blank, split⟩ := Text.exists_append_blank t
  have stripped (segments : List Text) :
      segments.filterMap Argument.ofSegment? =
        (segments.map Text.strip).filterMap Argument.ofSegment? := by
    simp only [List.filterMap_map, Function.comp_def, Argument.ofSegment?_strip]
  conv_rhs => rw [split]
  rw [ofSegments, ofSegments, stripped, stripped (Text.hyphenated (_ ++ margin)),
    Text.map_strip_hyphenated_append_blank blank]

theorem splitArguments_append {a : Text} {c : Char} (unbroken : a.Unbroken)
    (blank : isBlank c = true) (b : Text) :
    splitArguments (a ++ c :: '-' :: b) =
      (Text.strip a, Arguments.ofSegments (Text.hyphenated b)) := by
  rw [splitArguments, Text.breakAtHyphen?_append unbroken blank]
  simp only [Arguments.ofSegments_hyphenated_stripEnd]

/-- Without a cut a body is left as it stands. Otherwise its main part is what stands before the
first cut, and the segments behind the cuts say its arguments: a key stands where it was said first,
with the value that was said last. The segments are as many as the cuts, no one holds another cut,
and together with the cuts they make up the rest of the body. -/
theorem splitArguments_exact (body : Text) :
    (Text.cuts body = [] → splitArguments body = (body, ∅)) ∧
    ∀ first more, Text.cuts body = first :: more →
      let segments := Text.segmentsAt body (first :: more)
      let said := segments.filterMap Argument.ofSegment?
      let arguments := (splitArguments body).2
      (splitArguments body).1 = Text.strip (body.take first) ∧
      arguments.keys = firstOccurrences (said.map (·.1)) ∧
      (∀ key value, arguments.get? key = some value ↔
        ∃ before after, said = before ++ (key, value) :: after ∧ ∀ later ∈ after, later.1 ≠ key) ∧
      (∀ segment argument,
        Argument.ofSegment? segment = some argument ↔ Argument.Says segment argument) ∧
      segments.length = (first :: more).length ∧
      (∀ segment ∈ segments, segment.Unbroken) ∧
      body.take first ++ Text.rejoined body (first :: more) = body := by
  refine ⟨fun uncut => ?_, fun first more cut => ?_⟩
  · exact splitArguments_of_none
      (Text.breakAtHyphen?_eq_none.mpr (Text.cuts_eq_nil_iff.mp uncut))
  · cases found : Text.breakAtHyphen? body with
    | none =>
      rw [Text.cuts_eq_nil_iff.mpr (Text.breakAtHyphen?_eq_none.mp found)] at cut
      cases cut
    | some parts =>
      obtain ⟨a, b⟩ := parts
      obtain ⟨c, blank, rfl, unbroken⟩ := Text.breakAtHyphen?_eq_some found
      have segments := Text.segmentsAt_cuts unbroken blank b
      have rejoined := Text.rejoined_cuts unbroken blank b
      have here : a.length = first :=
        (List.cons.inj ((Text.cuts_append unbroken blank b).symm.trans cut)).1
      rw [cut] at segments rejoined
      rw [splitArguments_append unbroken blank, segments, rejoined, ← here, List.take_left]
      refine ⟨rfl, OrderedMap.keys_ofList _, fun _ _ => OrderedMap.get?_ofList,
        fun _ _ => Argument.ofSegment?_eq_some_iff, ?_,
        fun _ => Text.unbroken_of_mem_hyphenated, rfl⟩
      rw [← segments, Text.length_segmentsAt, here]

/-- A key that is said twice, a segment that says nothing, a key on its own, and a hyphen at the
end of the body. -/
theorem splitArguments_exact_repeated :
    let body : Text := "Eve: hi\t-k = a=1 - -on air -k=2 -\u3000"
    Text.cuts body = [7, 16, 18, 26, 31] ∧
      (splitArguments body).1 = "Eve: hi".toList ∧
      (splitArguments body).2.keys = ["k".toList, "on".toList] ∧
      (splitArguments body).2.get? "k".toList = some "2".toList := by
  intro body
  have cut : Text.cuts body = [7, 16, 18, 26, 31] := by decide +kernel
  obtain ⟨main, keys, found, -⟩ := (splitArguments_exact body).2 _ _ cut
  have said : (Text.segmentsAt body [7, 16, 18, 26, 31]).filterMap Argument.ofSegment? =
      ([("k", "a=1"), ("on", "true"), ("k", "2")] : List (Text × Text)) := by
    decide +kernel
  rw [said] at keys found
  refine ⟨cut, main.trans (by decide +kernel), keys.trans (by decide +kernel), (found _ _).mpr ?_⟩
  exact ⟨[("k", "a=1"), ("on", "true")], [], rfl, by simp⟩

end SceneScript
