import SceneScript.Proofs.Text.Margin
import SceneScript.Symbols

/-! # What is not read of a line

Blanks around a line and a comment behind it say nothing. So it does not matter either whether the
lines of a document end in carriage returns.

* `Text.beforeComment_append_comment`, `Text.beforeComment_append_blank` — what the search for a
  comment passes over;
* `Statement.ofText_append_blanks`, `Statement.ofText_append_comment` — lines that say the same;
* `Text.lines_withReturns`, `Script.parse_withReturns` — a document and its carriage returns;
* `blanks_and_comments_inert` — all of this in one.
-/

namespace SceneScript

namespace Text

variable {after t : Text}

/-! ## Where a comment begins -/

/-- A comment that is put behind a text ends the search where the text itself would end. -/
theorem beforeComment_append_comment {escaped : Bool} (start : t = [] → escaped = false)
    (unescaped : t.getLast? ≠ some '\\') (comment : Text) :
    beforeComment escaped (t ++ ';' :: comment) = beforeComment escaped t := by
  induction t generalizing escaped with
  | nil => simp [beforeComment, start rfl]
  | cons c rest ih =>
    -- the new semicolon follows the last character, which is this one or one of the rest
    have later : rest = [] → decide (c = '\\') = false := by
      rintro rfl
      simpa using unescaped
    have last : rest.getLast? ≠ some '\\' := by
      cases rest with
      | nil => simp
      | cons d more => simpa using unescaped
    simp only [List.cons_append, beforeComment, ih later last]

theorem beforeComment_blank (blank : t.Blank) (escaped : Bool) : beforeComment escaped t = t := by
  induction t generalizing escaped with
  | nil => rfl
  | cons c rest ih =>
    obtain ⟨here, later⟩ := List.forall_mem_cons.mp blank
    have noMark : c ≠ ';' := by
      rintro rfl
      exact absurd here (by decide)
    simp only [beforeComment, noMark, false_and, if_false, ih later]

/-- Blanks behind a text begin no comment: they are cut off with one or stay. -/
theorem beforeComment_append_blank (escaped : Bool) (blank : after.Blank) (t : Text) :
    ∃ kept, Blank kept ∧
      beforeComment escaped (t ++ after) = beforeComment escaped t ++ kept := by
  induction t generalizing escaped with
  | nil => exact ⟨after, blank, beforeComment_blank blank escaped⟩
  | cons c rest ih =>
    by_cases cut : c = ';' ∧ escaped = false
    · exact ⟨[], List.forall_mem_nil _, by simp [beforeComment, cut]⟩
    · obtain ⟨kept, blankKept, same⟩ := ih (c = '\\')
      refine ⟨kept, blankKept, ?_⟩
      simp only [List.cons_append, beforeComment, if_neg cut, same]

/-- What stands before the comment of a line does not depend on the blanks at its end. -/
theorem strip_beforeComment_stripStart (t : Text) :
    strip (beforeComment false (stripStart t)) = strip (beforeComment false (strip t)) := by
  obtain ⟨margin, blank, split⟩ := exists_append_blank (stripStart t)
  obtain ⟨kept, blankKept, same⟩ := beforeComment_append_blank false blank (strip t)
  have whole : stripStart t = strip t ++ margin := split
  have nothing : Blank [] := List.forall_mem_nil _
  rw [whole, same]
  exact strip_append_blanks nothing blankKept _

theorem getLast?_stripStart (ink : ¬ t.Blank) : (stripStart t).getLast? = t.getLast? := by
  obtain ⟨margin, -, split⟩ := exists_blank_append t
  have filled : stripStart t ≠ [] := mt stripStart_eq_nil_iff.mp ink
  obtain ⟨c, last⟩ := Option.ne_none_iff_exists'.mp (mt List.getLast?_eq_none_iff.mp filled)
  rw [split, List.getLast?_append, ← split, last]
  rfl

/-! ## Carriage returns -/

/-- The document with a carriage return in front of every line feed. -/
def withReturns (document : Text) : Text := replace "\n" "\r\n" document

theorem withReturns_feed (rest : Text) :
    withReturns ('\n' :: rest) = '\r' :: '\n' :: withReturns rest := by
  have starts : startsWith "\n" ('\n' :: rest) = true := by simp [startsWith]
  have some : ("\n" : Text) ≠ [] := by decide
  rw [withReturns, replace, if_pos ⟨some, starts⟩]
  rfl

theorem withReturns_cons {c : Char} (other : c ≠ '\n') (rest : Text) :
    withReturns (c :: rest) = c :: withReturns rest := by
  have starts : startsWith "\n" (c :: rest) = false := by
    simp [startsWith, List.isPrefixOf, Ne.symm other]
  rw [withReturns, replace, starts]
  simp [withReturns]

theorem lines_feed (rest : Text) : lines ('\n' :: rest) = [] :: lines rest := pieces_mark

theorem lines_cons {c : Char} (other : c ≠ '\n') (rest : Text) :
    lines (c :: rest) = (lines rest).modifyHead (c :: ·) := by
  simp [lines, pieces, splitWhere, other]

/-- Every line but the last one ends in a carriage return. -/
theorem lines_withReturns (document : Text) :
    lines (withReturns document) = (lines document).mapIdx fun index line =>
      if index + 1 < (lines document).length then line ++ ['\r'] else line := by
  induction document with
  | nil => rw [withReturns, replace]; rfl
  | cons c rest ih =>
    have some : lines rest ≠ [] := splitWhere_ne_nil _ rest
    obtain ⟨first, others, split⟩ := List.exists_cons_of_ne_nil some
    by_cases feed : c = '\n'
    · -- an empty line is put in front, and it gets a carriage return
      subst feed
      rw [withReturns_feed, lines_cons (by decide), lines_feed, lines_feed, ih, split]
      simp
    · -- the first line grows at its start, and its end stays the same
      rw [withReturns_cons feed, lines_cons feed, lines_cons feed, ih, split]
      cases others with
      | nil => simp
      | cons second more => simp

end Text

namespace Statement

variable {vocabulary : Vocabulary} {raw : Text}

/-- A line that is neither blank nor a comment is read as its body. -/
theorem ofText_of_body (filled : Text.strip raw ≠ [])
    (uncommented : (Text.strip raw).head? ≠ some ';') :
    ofText vocabulary raw =
      ofBody vocabulary
        (Text.unescape (Text.strip (Text.beforeComment false (Text.strip raw)))) := by
  unfold ofText
  split
  next blank => exact absurd blank filled
  next comment =>
    rw [comment] at uncommented
    exact absurd rfl uncommented
  next => rfl

theorem ofText_append_blanks {before after : Text} (blankBefore : before.Blank)
    (blankAfter : after.Blank) (raw : Text) :
    ofText vocabulary (before ++ raw ++ after) = ofText vocabulary raw := by
  simp only [ofText, Text.strip_append_blanks blankBefore blankAfter]

theorem ofText_append_comment (filled : Text.strip raw ≠ [])
    (uncommented : (Text.strip raw).head? ≠ some ';') (unescaped : raw.getLast? ≠ some '\\')
    (comment : Text) :
    ofText vocabulary (raw ++ ';' :: comment) = ofText vocabulary raw := by
  have ink : ¬ raw.Blank := mt Text.strip_eq_nil_iff.mpr filled
  have start : Text.stripStart (raw ++ ';' :: comment) = Text.stripStart raw ++ ';' :: comment :=
    Text.stripStart_append ink _
  have filledLonger : Text.strip (raw ++ ';' :: comment) ≠ [] := by
    rw [ne_eq, Text.strip_eq_nil_iff]
    intro blank
    exact ink (List.forall_mem_append.mp blank).1
  have uncommentedLonger : (Text.strip (raw ++ ';' :: comment)).head? ≠ Option.some ';' := by
    rw [← Text.head?_stripStart filledLonger, start, List.head?_append,
      Text.head?_stripStart filled]
    obtain ⟨c, rest, first⟩ := List.exists_cons_of_ne_nil filled
    rw [first] at uncommented ⊢
    exact uncommented
  -- both lines stop being read at the same place
  have same : Text.beforeComment false (Text.stripStart raw ++ ';' :: comment) =
      Text.beforeComment false (Text.stripStart raw) := by
    apply Text.beforeComment_append_comment (fun _ => rfl)
    rw [Text.getLast?_stripStart ink]
    exact unescaped
  rw [ofText_of_body filledLonger uncommentedLonger, ofText_of_body filled uncommented,
    ← Text.strip_beforeComment_stripStart, start, same, Text.strip_beforeComment_stripStart]

end Statement

/-! ## Documents -/

/-- Only the raw lines differ: all but the last one end in a carriage return. -/
def Script.withReturns (script : Script) : Script :=
  script.mapIdx fun index line =>
    { line with raw := if index + 1 < script.length then line.raw ++ ['\r'] else line.raw }

theorem Script.parse_withReturns (vocabulary : Vocabulary) (document : Text) :
    Script.parse vocabulary (Text.withReturns document) =
      (Script.parse vocabulary document).withReturns := by
  have nothing : Text.Blank [] := List.forall_mem_nil _
  have carriage : Text.Blank ['\r'] := by decide
  have same (raw : Text) :
      Statement.ofText vocabulary (raw ++ ['\r']) = .ofText vocabulary raw :=
    Statement.ofText_append_blanks nothing carriage raw
  simp only [parse, withReturns, Text.lines_withReturns, List.mapIdx_mapIdx, List.length_mapIdx]
  congr 1
  funext number raw
  simp only [Function.comp, Line.parse]
  split <;> simp [same]

/-- What does not look at raw lines finds the same in both scripts. -/
theorem Script.filterMap_withReturns {β : Type} {find : Line → Option β}
    (blind : ∀ line raw, find { line with raw } = find line) (script : Script) :
    script.withReturns.filterMap find = script.filterMap find := by
  have changed (rename : Nat → Line → Text) :
      (script.mapIdx fun index line => { line with raw := rename index line }).filterMap find =
        script.filterMap find := by
    induction script generalizing rename with
    | nil => rfl
    | cons line rest ih =>
      rw [List.mapIdx_cons, List.filterMap_cons, List.filterMap_cons, blind, ih]
  exact changed _

/-- Blanks around a line leave its statement as it is, and so does a comment behind a line that is
more than a comment, unless a backslash escapes its semicolon. With carriage returns in front of the
line feeds a document has the same symbols in the same lines. -/
theorem blanks_and_comments_inert (vocabulary : Vocabulary) :
    (∀ before line after number, Text.Blank before → Text.Blank after →
      (Line.parse vocabulary (before ++ line ++ after) number).statement =
        (Line.parse vocabulary line number).statement) ∧
    (∀ line comment number, Text.strip line ≠ [] → (Text.strip line).head? ≠ some ';' →
      line.getLast? ≠ some '\\' →
      (Line.parse vocabulary (line ++ ';' :: comment) number).statement =
        (Line.parse vocabulary line number).statement) ∧
    ∀ file document,
      DocumentSymbols.ofText vocabulary file (Text.withReturns document) =
        { DocumentSymbols.ofText vocabulary file document with
          lines := (Script.parse vocabulary document).withReturns } := by
  refine ⟨?_, ?_, ?_⟩
  · intro before line after number blankBefore blankAfter
    exact Statement.ofText_append_blanks blankBefore blankAfter line
  · intro line comment number filled uncommented unescaped
    exact Statement.ofText_append_comment filled uncommented unescaped comment
  · intro file document
    have labels (script : Script) : script.withReturns.labels file = script.labels file :=
      script.filterMap_withReturns fun _ _ => rfl
    have definitions (script : Script) :
        script.withReturns.variableDefinitions file = script.variableDefinitions file :=
      script.filterMap_withReturns fun _ _ => rfl
    have references (script : Script) :
        script.withReturns.sceneReferences = script.sceneReferences :=
      script.filterMap_withReturns fun _ _ => rfl
    have characters (script : Script) : script.withReturns.characters = script.characters :=
      congrArg firstOccurrences (script.filterMap_withReturns fun _ _ => rfl)
    simp only [DocumentSymbols.ofText, Script.parse_withReturns, labels, definitions, references,
      characters]

/-- Wide blanks around a line, and a comment that looks like an argument and ends in a backslash. -/
theorem blanks_and_comments_inert_setVar :
    let line : Text := "setVar:mark=\\;: -when=a "
    let statement : Statement := .command "setVar" "mark=;:" ⟨[("when", "a")]⟩
    (Text.Blank "\t\u3000" ∧ Text.Blank "\u2028\r" ∧ Text.strip line ≠ [] ∧
        (Text.strip line).head? ≠ some ';' ∧ line.getLast? ≠ some '\\') ∧
      (Line.parse ["setVar"] ("\t\u3000" ++ line ++ "\u2028\r") 0).statement = statement ∧
      (Line.parse ["setVar"] (line ++ ';' :: " -when=b;:\\") 0).statement = statement := by
  intro line statement
  have wide : Text.Blank "\t\u3000" := by decide
  have ending : Text.Blank "\u2028\r" := by decide
  have filled : Text.strip line ≠ [] := by decide
  have uncommented : (Text.strip line).head? ≠ some ';' := by decide
  have unescaped : line.getLast? ≠ some '\\' := by decide
  obtain ⟨blanks, comments, -⟩ := blanks_and_comments_inert ["setVar"]
  have plain : (Line.parse ["setVar"] line 0).statement = statement := by decide +kernel
  exact ⟨⟨wide, ending, filled, uncommented, unescaped⟩, (blanks _ _ _ 0 wide ending).trans plain,
    (comments _ _ 0 filled uncommented unescaped).trans plain⟩

end SceneScript
