import SceneScript.Proofs.Line.Arguments
import SceneScript.Proofs.Line.Escape

/-! # Statements as they are read and written

A line can be read to a statement exactly if the statement is well-formed, and writing a well-formed
statement gives one of the lines that are read to it.

* `Statement.WellFormed` — what a statement that was read looks like;
* `Statement.wellFormed_ofText` — every statement that was read looks so;
* `Statement.ofText_renderParts` — a head, a content and arguments, written and read again;
* `Line.parse_render` — the round trip.
-/

namespace SceneScript

inductive Statement.WellFormed (vocabulary : Vocabulary) : Statement → Prop where
  | blank : WellFormed vocabulary .blank
  | comment {content : Text} (trimmed : content.Trimmed) : WellFormed vocabulary (.comment content)
  | command {name content : Text} {arguments : Arguments} (known : name ∈ vocabulary)
      (unmarked : ':' ∉ name) (clean : name.Clean) (content_clean : content.Clean)
      (arguments_wellFormed : arguments.WellFormed) :
      WellFormed vocabulary (.command name content arguments)
  | narration {content : Text} {arguments : Arguments} (content_clean : content.Clean)
      (arguments_wellFormed : arguments.WellFormed) :
      WellFormed vocabulary (.dialogue none content arguments)
  | speech {speaker content : Text} {arguments : Arguments} (named : speaker ≠ [])
      (unknown : speaker ∉ vocabulary) (unmarked : ':' ∉ speaker) (clean : speaker.Clean)
      (content_clean : content.Clean) (arguments_wellFormed : arguments.WellFormed) :
      WellFormed vocabulary (.dialogue (some speaker) content arguments)

namespace Statement

variable {vocabulary : Vocabulary}

/-! ## Reading -/

/-- The head of a line decides which kind of statement it is. -/
theorem wellFormed_of_head {head content : Text} {arguments : Arguments} (clean : head.Clean)
    (unmarked : ':' ∉ head) (content_clean : content.Clean)
    (arguments_wellFormed : arguments.WellFormed) :
    (if head ∈ vocabulary then Statement.command head content arguments
      else .dialogue (speakerOfHead head) content arguments).WellFormed vocabulary := by
  split
  next known => exact .command known unmarked clean content_clean arguments_wellFormed
  next unknown =>
    unfold speakerOfHead
    split
    next => exact .narration content_clean arguments_wellFormed
    next named => exact .speech named unknown unmarked clean content_clean arguments_wellFormed

theorem wellFormed_ofBody {body : Text} (trimmed : body.Trimmed) :
    (ofBody vocabulary body).WellFormed vocabulary := by
  cases split : splitArguments body with
  | mk main arguments =>
    obtain ⟨clean, arguments_wellFormed⟩ := splitArguments_wellFormed trimmed split
    simp only [ofBody, split]
    cases marked : Text.breakAt? ':' main with
    | some parts =>
      obtain ⟨before, after⟩ := parts
      obtain ⟨whole, absent⟩ := Text.breakAt?_eq_some marked
      have unmarked : ':' ∉ Text.strip before := fun member =>
        absent ((Text.strip_isInfix before).subset member)
      exact wellFormed_of_head
        (Text.clean_strip (clean.unbroken.of_isInfix ⟨[], ':' :: after, whole.symm⟩)) unmarked
        (Text.clean_strip (clean.unbroken.of_isInfix ⟨before ++ [':'], [], by simp [whole]⟩))
        arguments_wellFormed
    | none =>
      have unmarked := Text.breakAt?_eq_none.1 marked
      dsimp only
      split
      next known =>
        exact .command known unmarked clean (Text.clean_of_no_blank rfl)
          arguments_wellFormed
      next => exact .narration clean arguments_wellFormed

theorem wellFormed_ofText (raw : Text) : (ofText vocabulary raw).WellFormed vocabulary := by
  unfold ofText
  split
  next => exact .blank
  next rest _ => exact .comment (Text.trimmed_strip rest)
  next => exact wellFormed_ofBody (Text.trimmed_strip _).unescape

/-! ## Writing -/

theorem renderArgument_eq (argument : Text × Text) :
    Line.renderArgument argument =
      Text.escapeSemicolons (' ' :: '-' :: Argument.write argument) := by
  simp [Line.renderArgument, Argument.write, Text.escapeSemicolons_append, Text.escapeSemicolons]

theorem flatMap_renderArgument (entries : List (Text × Text)) :
    entries.flatMap Line.renderArgument = Text.escapeSemicolons (Arguments.write entries) := by
  induction entries with
  | nil => rfl
  | cons first rest ih =>
    rw [List.flatMap_cons, ih, renderArgument_eq, ← Text.escapeSemicolons_append]
    rfl

/-- Escaping the parts of a line is escaping the line. -/
theorem renderParts_eq (head content : Text) (arguments : Arguments) :
    Line.renderParts head content arguments =
      Text.escapeSemicolons (head ++ ':' :: content ++ Arguments.write arguments.entries) := by
  simp [Line.renderParts, flatMap_renderArgument, Text.escapeSemicolons_append,
    Text.escapeSemicolons]

section Parts

variable {head content : Text} {arguments : Arguments} (clean : head.Clean)
  (unmarked : ':' ∉ head) (content_clean : content.Clean)
  (arguments_wellFormed : arguments.WellFormed)

include clean unmarked content_clean arguments_wellFormed

theorem ofBody_append_write (vocabulary : Vocabulary) :
    ofBody vocabulary (head ++ ':' :: content ++ Arguments.write arguments.entries) =
      if head ∈ vocabulary then .command head content arguments
      else .dialogue (speakerOfHead head) content arguments := by
  have main : (head ++ ':' :: content).Clean :=
    clean.append_cons content_clean (by decide) (by decide)
  simp only [ofBody, splitArguments_append_write main arguments_wellFormed,
    Text.breakAt?_append unmarked, Text.strip_eq_self clean.trimmed,
    Text.strip_eq_self content_clean.trimmed]

theorem ofText_renderParts (vocabulary : Vocabulary) :
    ofText vocabulary (Line.renderParts head content arguments) =
      if head ∈ vocabulary then .command head content arguments
      else .dialogue (speakerOfHead head) content arguments := by
  have main : (head ++ ':' :: content).Clean :=
    clean.append_cons content_clean (by decide) (by decide)
  have filled : head ++ ':' :: content ≠ [] := by simp
  have trimmed : (head ++ ':' :: content ++ Arguments.write arguments.entries).Trimmed :=
    ⟨Text.trimmedStart_append main.trimmed.start fun empty => absurd empty filled,
      Text.trimmedEnd_append main.trimmed.finish
        (Arguments.trimmedEnd_write arguments_wellFormed.each)⟩
  rw [renderParts_eq, ofText_escapeSemicolons trimmed (by simp),
    ofBody_append_write clean unmarked content_clean arguments_wellFormed]

end Parts

theorem ofText_comment {content : Text} (trimmed : content.Trimmed) :
    ofText vocabulary (";" ++ content) = .comment content := by
  have mark : Text.Trimmed [';'] := Text.trimmed_of_no_blank (by decide)
  have raw : Text.strip (";" ++ content) = ';' :: content :=
    Text.strip_eq_self (mark.append trimmed)
  simp only [ofText, raw, Text.strip_eq_self trimmed]

/-- Writing a statement and reading it again gives the same statement, as long as the line that has
no speaker is not taken for a command without a name. -/
theorem ofText_render (unnamed : [] ∉ vocabulary) {statement : Statement}
    (wellFormed : statement.WellFormed vocabulary) :
    ofText vocabulary statement.render = statement := by
  cases wellFormed with
  | blank => rfl
  | comment trimmed => exact ofText_comment trimmed
  | command known unmarked clean content_clean arguments_wellFormed =>
    rw [render, ofText_renderParts clean unmarked content_clean arguments_wellFormed,
      if_pos known]
  | narration content_clean arguments_wellFormed =>
    -- the head of narration is empty, and so is that of a command without a name
    have clean : Text.Clean [] := Text.clean_of_no_blank rfl
    rw [render, Option.getD_none,
      ofText_renderParts clean List.not_mem_nil content_clean arguments_wellFormed,
      if_neg unnamed]
    rfl
  | speech named unknown unmarked clean content_clean arguments_wellFormed =>
    rw [render, Option.getD_some,
      ofText_renderParts clean unmarked content_clean arguments_wellFormed, if_neg unknown,
      speakerOfHead, if_neg named]

end Statement

/-- Every line is read to a well-formed statement, and every well-formed statement is what its
written form is read to. So the statements that lines are read to are the well-formed ones. -/
theorem Line.parse_render {vocabulary : Vocabulary} (unnamed : [] ∉ vocabulary) :
    (∀ raw number, (Line.parse vocabulary raw number).statement.WellFormed vocabulary) ∧
      (∀ statement number, statement.WellFormed vocabulary →
        (Line.parse vocabulary statement.render number).statement = statement) ∧
      ∀ statement, (∃ raw number, (Line.parse vocabulary raw number).statement = statement) ↔
        statement.WellFormed vocabulary := by
  refine ⟨fun raw _ => Statement.wellFormed_ofText raw,
    fun statement _ wellFormed => Statement.ofText_render unnamed wellFormed,
    fun statement => ⟨?_, fun wellFormed => ?_⟩⟩
  · rintro ⟨raw, _, rfl⟩
    exact Statement.wellFormed_ofText raw
  · exact ⟨statement.render, 0, Statement.ofText_render unnamed wellFormed⟩

/-- Semicolons, colons, hyphens and backslashes in one line. -/
theorem Line.parse_render_setVar :
    (Line.parse ["setVar"] "setVar:mark=\\;:-\\ -when=a\\;b" 0).statement =
      .command "setVar" "mark=;:-\\" ⟨[("when", "a;b")]⟩ := by
  have name : Text.Clean "setVar" := Text.clean_of_no_blank (by decide)
  have content : Text.Clean "mark=;:-\\" := Text.clean_of_no_blank (by decide)
  have key : Text.Clean "when" := Text.clean_of_no_blank (by decide)
  have value : Text.Clean "a;b" := Text.clean_of_no_blank (by decide)
  have arguments : Arguments.WellFormed ⟨[("when", "a;b")]⟩ :=
    ⟨by decide, by simpa using ⟨by decide, by decide, key, value⟩⟩
  exact (Line.parse_render (by decide)).2.1 _ 0
    (.command List.mem_cons_self (by decide) name content arguments)

end SceneScript
