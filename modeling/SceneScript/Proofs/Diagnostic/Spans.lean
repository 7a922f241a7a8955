import SceneScript.Proofs.Diagnostic.Labels
import SceneScript.Proofs.Diagnostic.Shape
import SceneScript.Proofs.Line.Placement

/-! # What the columns of a diagnostic show

Three kinds of diagnostics quote a name that stands on their line: a file, the label of a jump, and
an unknown command. Their columns begin where the name can begin, behind the first colon or at the
start of the line, and are as wide as the name. So they show the name unless there are blanks.

* `Diagnostic.shown`, `Diagnostic.quoted` — what a diagnostic shows of its line, and what it quotes;
* `Diagnostic.Locates` — where the columns lie, and where the name stands;
* `Checker.locates_content`, `Checker.locates_name` — the two places;
* `Checker.locates_of_mem_foundOn` — what is found on a line is at one of them;
* `Checker.shown_eq_quoted_iff` — when the columns show the name.
-/

namespace SceneScript

namespace Diagnostic

/-- The characters of the line from the first column to before the last one. -/
def shown (raw : Text) (d : Diagnostic) : Text :=
  (raw.drop d.startColumn.toNat).take (d.endColumn - d.startColumn).toNat

/-- What the message says behind the words that it begins with. -/
def quoted (d : Diagnostic) : Text := d.message.drop d.code.heading.length

/-- The diagnostic quotes a name that stands on its line. -/
def QuotesName (line : Line) (d : Diagnostic) : Prop :=
  d.code = .resourceNotFound ∨ d.code = .unknownCommand ∨
    d.code = .undefinedLabel ∧ line.commandNamed? Command.jumpLabel ≠ none

instance (line : Line) (d : Diagnostic) : Decidable (d.QuotesName line) :=
  inferInstanceAs (Decidable (_ ∨ _ ∨ _ ∧ _))

/-- The columns begin at the start of the line or behind its first colon, and the name stands behind
the blanks that are there. -/
structure Locates (line : Line) (d : Diagnostic) : Prop where
  message : d.message = d.code.heading ++ d.quoted
  name : ∃ command content arguments, line.statement = .command command content arguments ∧
    d.quoted = if d.code = .unknownCommand then command else content
  start : if d.code = .unknownCommand then d.startColumn = 0
    else ∃ colon, Text.find? ':' line.raw = some colon ∧ d.startColumn = colon + 1
  finish : d.endColumn = d.startColumn + d.quoted.length
  behind : d.quoted <+: Text.stripStart (line.raw.drop d.startColumn.toNat)

variable {line : Line} {d : Diagnostic}

theorem quoted_on {finding : Finding} {name : Text}
    (told : finding.message = finding.code.heading ++ name) (file : Text) (line : Line)
    (span : Nat × Nat) : (finding.on file line span).quoted = name := by
  change finding.message.drop finding.code.heading.length = name
  rw [told, List.drop_left]

theorem Locates.shown_eq_iff (locates : d.Locates line) :
    d.shown line.raw = d.quoted ↔
      Text.TrimmedStart (line.raw.drop d.startColumn.toNat) ∨ d.quoted = [] := by
  have width : (d.endColumn - d.startColumn).toNat = d.quoted.length := by
    have finish := locates.finish
    omega
  rw [shown, width]
  exact Text.take_eq_iff locates.behind

end Diagnostic

namespace Checker

variable {checker : Checker} {validateResources : Bool} {labels : List Text} {file : Text}

/-! ## What is found -/

theorem of_missingResource? {command content : Text} {finding : Finding}
    (found : checker.missingResource? validateResources command content = some finding) :
    finding = .resourceNotFound content ∧ content ≠ [] := by
  unfold missingResource? at found
  split at found
  · split at found <;> cases found
    next missed =>
      refine ⟨rfl, ?_⟩
      rintro rfl
      simp at missed
  · cases found

theorem of_undefinedJump? {command content : Text} {finding : Finding}
    (found : undefinedJump? labels command content = some finding) :
    finding = .undefinedLabel content ∧ content ≠ [] := by
  unfold undefinedJump? at found
  split at found <;> cases found
  next missed =>
    refine ⟨rfl, ?_⟩
    rintro rfl
    simp at missed

/-! ## Where it is shown -/

section Located

variable {line : Line} {vocabulary : Vocabulary} {command content : Text} {arguments : Arguments}
  (plain : '\\' ∉ line.raw) (read : line.statement = .ofText vocabulary line.raw)
  (statement : line.statement = .command command content arguments)

include plain read statement

theorem locates_name (file : Text) :
    ((Finding.unknownCommand command).on file line (0, command.length)).Locates line := by
  have told : (Finding.unknownCommand command).message =
      (Finding.unknownCommand command).code.heading ++ command := rfl
  have quoted := Diagnostic.quoted_on told file line (0, command.length)
  obtain ⟨named, -⟩ := Statement.isPrefix_of_ofText plain (read.symm.trans statement)
  refine ⟨?_, ⟨command, content, arguments, statement, ?_⟩, ?_, ?_, ?_⟩
  · rw [quoted]
    exact told
  · rw [quoted]
    exact (if_pos rfl).symm
  · exact (if_pos rfl).mpr rfl
  · rw [quoted]
    exact (Int.zero_add _).symm
  · rw [quoted]
    exact named

theorem locates_content (file : Text) {finding : Finding}
    (told : finding.message = finding.code.heading ++ content)
    (inContent : finding.code ≠ .unknownCommand) (present : content ≠ []) :
    (finding.on file line (line.contentSpan content.length)).Locates line := by
  have quoted := Diagnostic.quoted_on told file line (line.contentSpan content.length)
  -- a content that is there was read behind the first colon of the line
  obtain ⟨-, empty | ⟨front, back, found, inside⟩⟩ :=
    Statement.isPrefix_of_ofText plain (read.symm.trans statement)
  · exact absurd empty present
  have colon : Text.find? ':' line.raw = some front.length := by
    rw [Text.find?, found]
    rfl
  have span : line.contentSpan content.length =
      (front.length + 1, front.length + 1 + content.length) := by
    rw [Line.contentSpan, colon]
    rfl
  have behind : line.raw.drop (front.length + 1) = back := by
    rw [(Text.breakAt?_eq_some found).1]
    simp
  rw [span] at quoted ⊢
  refine ⟨?_, ⟨command, content, arguments, statement, ?_⟩, ?_, ?_, ?_⟩
  · rw [quoted]
    exact told
  · rw [quoted]
    exact (if_neg inContent).symm
  · exact (if_neg inContent).mpr ⟨front.length, colon, rfl⟩
  · rw [quoted]
    rfl
  · rw [quoted]
    exact behind ▸ inside

theorem locates_of_mem_foundOn {d : Diagnostic} (quotes : d.QuotesName line)
    (member : d ∈ checker.foundOn validateResources labels file line d.code) :
    d.Locates line := by
  unfold foundOn at member
  rw [statement] at member
  cases known : checker.commands.contains command with
  | false =>
    -- nothing but the command itself is quoted
    rcases quotes with code | code | ⟨code, -⟩
    · simp [code, known] at member
    · simp only [code, known, List.mem_singleton] at member
      rw [member]
      exact locates_name plain read statement file
    · simp [code, known] at member
  | true =>
    rcases quotes with code | code | ⟨code, jump⟩
    · simp only [code, known, Option.mem_toList, Option.map_eq_some_iff] at member
      obtain ⟨finding, found, rfl⟩ := member
      obtain ⟨rfl, present⟩ := of_missingResource? found
      exact locates_content plain read statement file rfl DiagnosticCode.noConfusion present
    · simp [code, known] at member
    · simp only [code, known, List.mem_append, Option.mem_toList, Option.map_eq_some_iff] at member
      rcases member with ⟨finding, found, rfl⟩ | option
      · obtain ⟨rfl, present⟩ := of_undefinedJump? found
        exact locates_content plain read statement file rfl DiagnosticCode.noConfusion present
      · -- the targets of a choice are not shown at a jump
        have apart : command ≠ Command.choose := by
          rintro rfl
          simp [Line.commandNamed?, statement] at jump
          exact absurd jump (by decide)
        simp [undefinedTargets, apart] at option

end Located

/-! ## A whole report -/

/-- The columns of a diagnostic that quotes a name show that name exactly if it begins right there,
at the start of the line or behind its first colon. -/
theorem shown_eq_quoted_iff {text : Text} {line : Line} {d : Diagnostic}
    (reported : d ∈ checker.diagnose text file validateResources)
    (inScript : line ∈ Script.parse checker.vocabulary text) (own : d.number = line.number)
    (plain : '\\' ∉ line.raw) (quotes : d.QuotesName line) :
    d.Locates line ∧
      (d.shown line.raw = d.quoted ↔
        Text.TrimmedStart (line.raw.drop d.startColumn.toNat) ∨ d.quoted = []) := by
  have checked : d.code ≠ .unusedLabel := by
    rcases quotes with code | code | ⟨code, -⟩ <;> rw [code] <;> exact DiagnosticCode.noConfusion
  have checks : d ∈ checker.checkLine validateResources
      (((Script.parse checker.vocabulary text).labels file).map (·.name)) file line := by
    rw [← filter_checks_diagnose text inScript]
    exact List.mem_filter.mpr ⟨reported, decide_eq_true ⟨own, checked⟩⟩
  have found := mem_foundOn_of_mem_checkLine checks
  obtain ⟨command, content, arguments, statement, -⟩ := exists_of_mem_foundOn found
  have read := Script.statement_of_mem_parse inScript
  have locates := locates_of_mem_foundOn plain read statement quotes found
  exact ⟨locates, locates.shown_eq_iff⟩

/-- Nothing stands between the colon and the label of the jump; what follows does not matter. -/
theorem shown_eq_quoted_jump :
    let checker : Checker := { catalog := .ofNames ["jumpLabel"] ∅, vocabulary := ["jumpLabel"] }
    let line : Line := .parse checker.vocabulary " jumpLabel:nowhere -when=met ; later" 0
    let d := (Finding.undefinedLabel "nowhere").on [] line (11, 18)
    (d ∈ checker.diagnose line.raw ∧ line ∈ Script.parse checker.vocabulary line.raw ∧
      d.number = line.number ∧ '\\' ∉ line.raw ∧ d.QuotesName line) ∧
      d.shown line.raw = "nowhere" := by
  intro checker line d
  have reported : d ∈ checker.diagnose line.raw := by decide +kernel
  have inScript : line ∈ Script.parse checker.vocabulary line.raw := by decide +kernel
  have plain : '\\' ∉ line.raw := by decide +kernel
  have quotes : d.QuotesName line := by decide +kernel
  obtain ⟨-, shown⟩ := shown_eq_quoted_iff reported inScript rfl plain quotes
  exact ⟨⟨reported, inScript, rfl, plain, quotes⟩, shown.mpr (.inl (by decide +kernel))⟩

/-- A blank behind the colon is shown, and the end of the name is not. -/
theorem not_forall_shown_eq_quoted :
    ¬ ∀ (checker : Checker) (text file : Text) (validateResources : Bool) (line : Line)
        (d : Diagnostic), d ∈ checker.diagnose text file validateResources →
      line ∈ Script.parse checker.vocabulary text → d.number = line.number →
      '\\' ∉ line.raw → d.QuotesName line → d.shown line.raw = d.quoted := by
  intro always
  let line : Line := ⟨0, "jumpLabel: nowhere", .command "jumpLabel" "nowhere" ∅⟩
  let d := (Finding.undefinedLabel "nowhere").on [] line (10, 17)
  have script : Script.parse .builtin line.raw = [line] := by decide +kernel
  have report : ({} : Checker).diagnose line.raw = [d] := by decide +kernel
  have reported : d ∈ ({} : Checker).diagnose line.raw := report ▸ List.mem_singleton_self d
  have inScript : line ∈ Script.parse .builtin line.raw := script ▸ List.mem_singleton_self line
  have shown := always {} line.raw [] true line d reported inScript rfl (by decide) (by decide)
  exact absurd shown (by decide)

end Checker

end SceneScript
