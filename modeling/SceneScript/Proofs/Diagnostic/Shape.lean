import SceneScript.Proofs.Diagnostic.Conditions
import SceneScript.Proofs.Line.Columns
import SceneScript.Proofs.Line.RoundTrip

/-! # The shape of a report

A report has what was found on the lines, in their order, and behind that the labels that nothing
leads to. Everything in it points into the line that it is about.

* `Checker.LineReport` — what can be found on one line, and in which order;
* `Checker.lineReport_checkLine` — nothing else is found on the lines of a script;
* `Checker.filter_checks_diagnose` — where in a report the checks of one line are;
* `Diagnostic.PointsInto`, `Checker.pointsInto_of_mem_diagnose` — where a diagnostic points to;
* `Checker.diagnose_shape` — the report as a whole.
-/

namespace SceneScript

/-- The diagnostic is about a line of the text, and its columns are in the line. -/
def Diagnostic.PointsInto (text : Text) (d : Diagnostic) : Prop :=
  ∃ (number : Nat) (raw : Text), (Text.lines text)[number]? = some raw ∧ d.number = number ∧
    0 ≤ d.startColumn ∧ d.startColumn ≤ d.endColumn ∧ d.endColumn ≤ raw.length

namespace Checker

variable {checker : Checker} {validateResources : Bool} {labels : List Text} {file : Text}

theorem pairwise_idxOf_undefinedVariables (expression : Text) :
    (checker.undefinedVariables expression).Pairwise fun a b =>
      (identifiers expression).idxOf a < (identifiers expression).idxOf b := by
  unfold undefinedVariables
  split
  · exact .nil
  · exact (pairwise_idxOf_firstOccurrences (identifiers expression)).filter _

/-! ## One line -/

/-- What a diagnostic about undefined variables in this condition is like. -/
structure WarnsOf (condition : Text) (d : Diagnostic) : Prop where
  code : d.code = .undefinedVariable
  severity : d.severity = .warning
  message : d.message = (Finding.undefinedVariables d.toldNames).message
  some : d.toldNames ≠ []
  distinct : d.toldNames.Nodup
  subset : d.toldNames ⊆ identifiers condition
  ordered : d.toldNames.Pairwise fun a b =>
    (identifiers condition).idxOf a < (identifiers condition).idxOf b

/-- The diagnostics that a line can have, in the order in which it has them. -/
inductive LineReport (line : Line) : List Diagnostic → Prop where
  | other (silent : line.statement.isCommand = false) : LineReport line []
  | unknown {d : Diagnostic} (command : line.statement.isCommand = true)
      (code : d.code = .unknownCommand) (severity : d.severity = .error) : LineReport line [d]
  | known {content targets condition : List Diagnostic}
      (command : line.statement.isCommand = true)
      (oneOfContent : content.length ≤ 1)
      (content_code : ∀ d ∈ content, d.code = .missingParameter ∨ d.code = .resourceNotFound)
      (targets_error : ∀ d ∈ targets, d.code = .undefinedLabel ∧ d.severity = .error)
      (oneOfCondition : condition.length ≤ 1)
      (condition_warns : ∀ d ∈ condition, WarnsOf (line.condition?.getD []) d) :
      LineReport line (content ++ targets ++ condition)

theorem warnsOf_of_mem_conditionWarnings {line : Line} {d : Diagnostic}
    (warned : d ∈ checker.conditionWarnings file line) : WarnsOf (line.condition?.getD []) d := by
  obtain ⟨-, undefined, rfl⟩ := mem_conditionWarnings.mp warned
  have words : ∀ name ∈ checker.undefinedVariables (line.condition?.getD []),
      name ≠ [] ∧ ∀ c ∈ name, isWordChar c = true := isWord_of_mem_undefinedVariables
  have told := Finding.toldNames_on words file line line.wholeSpan
  refine ⟨rfl, rfl, ?_, ?_, ?_, ?_, ?_⟩
  · rw [told]
    rfl
  · rw [told]
    exact undefined
  · rw [told]
    exact nodup_undefinedVariables _
  · rw [told]
    exact subset_undefinedVariables
  · rw [told]
    exact pairwise_idxOf_undefinedVariables _

/-- An unknown command is not checked any further. -/
theorem checkLine_of_unknown {line : Line} {command content : Text} {arguments : Arguments}
    (statement : line.statement = .command command content arguments)
    (unknown : checker.commands.contains command = false) :
    checker.checkLine validateResources labels file line =
      [(Finding.unknownCommand command).on file line (0, command.length)] := by
  simp [checkLine, checkCommand, statement, unknown]

/-- A content that lacks a parameter is empty, and so names no file. -/
theorem missingParameter_or_missingResource (checker : Checker) (validateResources : Bool)
    (command : Text) {content : Text} (trimmed : content.Trimmed) :
    checker.missingParameter? command content = none ∨
      checker.missingResource? validateResources command content = none := by
  by_cases empty : content = []
  · right
    unfold missingResource?
    split
    · simp [empty]
    · rfl
  · left
    unfold missingParameter?
    split
    · rfl
    · rw [Text.strip_eq_self trimmed, if_neg empty]

theorem lineReport_checkLine {vocabulary : Vocabulary} {line : Line}
    (read : line.statement = .ofText vocabulary line.raw) :
    LineReport line (checker.checkLine validateResources labels file line) := by
  have wellFormed : line.statement.WellFormed vocabulary :=
    read ▸ Statement.wellFormed_ofText line.raw
  cases statement : line.statement with
  | command command content arguments =>
    rw [statement] at wellFormed
    obtain trimmed : content.Trimmed := by
      cases wellFormed with
      | command _ _ _ content_clean _ => exact content_clean.trimmed
    cases known : checker.commands.contains command with
    | false =>
      rw [checkLine_of_unknown statement known]
      exact .unknown (by rw [statement]; rfl) rfl rfl
    | true =>
      have parts : checker.checkLine validateResources labels file line =
          (checker.foundOn validateResources labels file line .missingParameter ++
            checker.foundOn validateResources labels file line .resourceNotFound) ++
          checker.foundOn validateResources labels file line .undefinedLabel ++
          checker.conditionWarnings file line := by
        rw [checkLine_eq, ← checker.foundOn_undefinedVariable validateResources labels]
        simp [DiagnosticCode.all, foundOn, statement, known]
      rw [parts]
      -- the parts are those of the relation, and only the first two can stand in each other's way
      refine .known (by rw [statement]; rfl) ?_ ?_ ?_ ?_
        fun d => warnsOf_of_mem_conditionWarnings
      · rcases checker.missingParameter_or_missingResource validateResources command trimmed
          with none | none
        · simp [foundOn, statement, known, none]
        · simp [foundOn, statement, known, none]
      · intro d member
        exact (List.mem_append.mp member).imp code_of_mem_foundOn code_of_mem_foundOn
      · intro d member
        obtain ⟨-, -, -, -, finding, coded, span, -, rfl⟩ := exists_of_mem_foundOn member
        have severity : finding.severity = (Finding.undefinedLabel []).severity :=
          Finding.severity_eq_of_code_eq coded
        exact ⟨coded, severity⟩
      · rw [conditionWarnings_eq line ⟨command, content, arguments, statement, known⟩]
        exact Option.length_toList_le
  | _ =>
    have silent : checker.checkLine validateResources labels file line = [] := by
      simp [checkLine, statement]
    rw [silent]
    exact .other (by rw [statement]; rfl)

/-! ## The report -/

theorem number_of_mem_checkLine {line : Line} {d : Diagnostic}
    (member : d ∈ checker.checkLine validateResources labels file line) :
    d.number = line.number := by
  obtain ⟨-, -, -, -, finding, span, -, rfl⟩ := checker.exists_of_mem_checkLine _ _ _ member
  rfl

theorem code_of_mem_checkLine {line : Line} {d : Diagnostic}
    (member : d ∈ checker.checkLine validateResources labels file line) :
    d.code ≠ .unusedLabel := by
  intro unused
  have found := mem_foundOn_of_mem_checkLine member
  rw [unused, foundOn_unusedLabel] at found
  cases found

/-- The checks that a report has of one line are those of that line. -/
theorem filter_checks_diagnose (text : Text) {line : Line}
    (inScript : line ∈ Script.parse checker.vocabulary text) :
    (checker.diagnose text file validateResources).filter
        (fun d => d.number = line.number ∧ d.code ≠ .unusedLabel) =
      checker.checkLine validateResources
        (((Script.parse checker.vocabulary text).labels file).map (·.name)) file line := by
  let script := Script.parse checker.vocabulary text
  let labels := (script.labels file).map (·.name)
  let checks := script.flatMap (checker.checkLine validateResources labels file)
  have hints : (unusedLabels file script).filter
      (fun d => d.number = line.number ∧ d.code ≠ .unusedLabel) = [] := by
    rw [List.filter_eq_nil_iff]
    intro d member
    simp [code_of_mem_unusedLabels member]
  have kept : checks.filter (fun d => d.number = line.number ∧ d.code ≠ .unusedLabel) =
      checks.filter (·.number = line.number) := by
    refine List.filter_congr fun d member => ?_
    obtain ⟨other, -, found⟩ := List.mem_flatMap.mp member
    simp [code_of_mem_checkLine found]
  have report : checker.diagnose text file validateResources =
      checks ++ unusedLabels file script := rfl
  rw [report, List.filter_append, hints, kept, List.append_nil]
  exact Script.filter_number_flatMap (Script.nodup_numbers _ text)
    (fun _ _ => number_of_mem_checkLine) inScript

theorem pointsInto_of_mem_diagnose {text : Text} {d : Diagnostic}
    (member : d ∈ checker.diagnose text file validateResources) : d.PointsInto text := by
  have within {line : Line} (inScript : line ∈ Script.parse checker.vocabulary text)
      (finding : Finding) {span : Nat × Nat}
      (inLine : span.1 ≤ span.2 ∧ span.2 ≤ line.raw.length) :
      (finding.on file line span).PointsInto text := by
    obtain ⟨number, raw, present, rfl⟩ := Script.exists_of_mem_parse inScript
    exact ⟨number, raw, present, rfl, Int.natCast_nonneg _, Int.ofNat_le.mpr inLine.1,
      Int.ofNat_le.mpr inLine.2⟩
  rcases List.mem_append.mp member with check | hint
  · obtain ⟨line, inScript, found⟩ := List.mem_flatMap.mp check
    obtain ⟨command, content, arguments, statement, finding, span, among, rfl⟩ :=
      checker.exists_of_mem_checkLine _ _ _ found
    have read := Script.statement_of_mem_parse inScript
    exact within inScript finding (Line.span_le read statement among)
  · obtain ⟨line, inScript, name, -, rfl⟩ := exists_of_mem_unusedLabels hint
    exact within inScript _ ⟨Nat.zero_le _, Nat.le_refl _⟩

theorem pairwise_number_unusedLabels {script : Script}
    (ordered : script.Pairwise (·.number < ·.number)) :
    (unusedLabels file script).Pairwise (·.number < ·.number) := by
  rw [unusedLabels_eq, List.pairwise_filterMap]
  refine ordered.imp fun before d found d' found' => ?_
  obtain ⟨-, -, -, rfl⟩ := unusedLabel?_eq_some.mp found
  obtain ⟨-, -, -, rfl⟩ := unusedLabel?_eq_some.mp found'
  exact before

variable (checker validateResources file)

/-- First come the checks line by line, then the unused labels. -/
theorem diagnose_shape (text : Text) :
    ∃ checks hints, checker.diagnose text file validateResources = checks ++ hints ∧
      (∀ d ∈ checks, d.code ≠ .unusedLabel) ∧
      (∀ d ∈ hints, d.code = .unusedLabel ∧ d.severity = .hint) ∧
      checks.Pairwise (·.number ≤ ·.number) ∧
      hints.Pairwise (·.number < ·.number) ∧
      (∀ d ∈ checks ++ hints, d.PointsInto text) ∧
      ∀ line ∈ Script.parse checker.vocabulary text,
        LineReport line (checks.filter (·.number = line.number)) := by
  let script := Script.parse checker.vocabulary text
  let labels := (script.labels file).map (·.name)
  have ordered := Script.pairwise_number_parse checker.vocabulary text
  refine ⟨script.flatMap (checker.checkLine validateResources labels file),
    unusedLabels file script, rfl, ?_, ?_, ?_, ?_, ?_, ?_⟩
  · intro d member
    obtain ⟨line, -, found⟩ := List.mem_flatMap.mp member
    exact code_of_mem_checkLine found
  · intro d member
    obtain ⟨line, -, name, -, rfl⟩ := exists_of_mem_unusedLabels member
    exact ⟨rfl, rfl⟩
  · rw [List.pairwise_flatMap]
    constructor
    · -- all that is found on one line has its number
      refine fun line _ => List.pairwise_of_forall_mem_list fun d member d' member' => ?_
      have same : d.number = d'.number :=
        (number_of_mem_checkLine member).trans (number_of_mem_checkLine member').symm
      exact Int.le_of_eq same
    · refine ordered.imp fun before d member d' member' => ?_
      rw [number_of_mem_checkLine member, number_of_mem_checkLine member']
      exact Int.le_of_lt before
  · exact pairwise_number_unusedLabels ordered
  · exact fun d => pointsInto_of_mem_diagnose
  · intro line inScript
    rw [Script.filter_number_flatMap (Script.nodup_numbers _ text)
      (fun line d => number_of_mem_checkLine) inScript]
    exact lineReport_checkLine (Script.statement_of_mem_parse inScript)

end Checker

end SceneScript
