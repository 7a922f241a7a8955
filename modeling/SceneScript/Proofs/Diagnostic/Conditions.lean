import SceneScript.Proofs.Diagnostic.Codes
import SceneScript.Proofs.Text.Runs

/-! # Warnings about conditions

A script is warned once for each known command whose condition names undefined variables, and the
names can be read from the message.

* `Diagnostic.toldNames` — the names that the message of a warning tells;
* `Checker.conditionWarnings` — the warnings about the condition of one line;
* `Checker.filter_undefinedVariable_diagnoseScript` — they are all the warnings about undefined
  variables;
* `Checker.filter_number_diagnose` — those on one line of a parsed script.
-/

namespace SceneScript

/-! ## What a warning tells -/

/-- The words of the message behind its first words. -/
def Diagnostic.toldNames (d : Diagnostic) : List Text :=
  Text.runs isWordChar (d.message.drop (Finding.undefinedVariables []).message.length)

theorem isWord_of_mem_identifiers {expression name : Text}
    (member : name ∈ identifiers expression) :
    name ≠ [] ∧ ∀ c ∈ name, isWordChar c = true :=
  Text.forall_of_mem_runs (List.mem_filter.mp member).1

theorem Finding.message_undefinedVariables (names : List Text) :
    (undefinedVariables names).message =
      (undefinedVariables []).message ++ Text.join ", " names := by
  have none : Text.join ", " [] = [] := rfl
  unfold message
  dsimp only
  rw [none]
  exact congrArg (· ++ _) (List.append_nil _).symm

/-- The names of a warning are read from its message. -/
theorem Finding.toldNames_on {names : List Text}
    (words : ∀ name ∈ names, name ≠ [] ∧ ∀ c ∈ name, isWordChar c = true) (file : Text)
    (line : Line) (span : Nat × Nat) :
    ((Finding.undefinedVariables names).on file line span).toldNames = names := by
  have apart (c : Char) (member : c ∈ (", " : Text)) : isWordChar c = false := by
    have none : (", " : Text).all (!isWordChar ·) = true := by decide
    exact (Bool.not_eq_true' _).mp (List.all_eq_true.mp none c member)
  change Text.runs isWordChar ((undefinedVariables names).message.drop _) = names
  rw [message_undefinedVariables names, List.drop_left]
  exact Text.runs_join (by decide) apart words

namespace Checker

variable (checker : Checker) (validateResources : Bool) (labels : List Text) (file : Text)

/-! ## One line -/

/-- The line is a command that the catalog lists. -/
def Knows (line : Line) : Prop :=
  ∃ command content arguments, line.statement = .command command content arguments ∧
    checker.commands.contains command = true

/-- The warning about the condition of a known command, if it names undefined variables. -/
def conditionWarnings (line : Line) : List Diagnostic :=
  match line.statement with
  | .command command _ _ =>
    if checker.commands.contains command then
      ((checker.undefinedCondition? line).map (·.on file line line.wholeSpan)).toList
    else []
  | _ => []

variable {checker}

theorem mem_undefinedVariables {expression name : Text} {isDefined : Text → Bool}
    (judges : checker.isDefined = some isDefined) :
    name ∈ checker.undefinedVariables expression ↔
      name ∈ identifiers expression ∧ isDefined name = false := by
  simp [undefinedVariables, judges, distinctIdentifiers, mem_firstOccurrences]

theorem nodup_undefinedVariables (expression : Text) :
    (checker.undefinedVariables expression).Nodup := by
  unfold undefinedVariables
  split
  · exact List.nodup_nil
  · exact (nodup_firstOccurrences _).filter _

theorem subset_undefinedVariables {expression : Text} :
    checker.undefinedVariables expression ⊆ identifiers expression := by
  intro name member
  unfold undefinedVariables at member
  split at member
  · cases member
  · exact mem_firstOccurrences.mp (List.mem_filter.mp member).1

theorem isWord_of_mem_undefinedVariables {expression : Text} :
    ∀ name ∈ checker.undefinedVariables expression,
      name ≠ [] ∧ ∀ c ∈ name, isWordChar c = true :=
  fun _ member => isWord_of_mem_identifiers (subset_undefinedVariables member)

variable {file}

theorem conditionWarnings_eq (line : Line) (knows : checker.Knows line) :
    checker.conditionWarnings file line =
      ((checker.undefinedCondition? line).map (·.on file line line.wholeSpan)).toList := by
  obtain ⟨command, content, arguments, statement, known⟩ := knows
  simp only [conditionWarnings, statement, known, if_true]

theorem knows_of_mem_conditionWarnings {line : Line} {d : Diagnostic}
    (member : d ∈ checker.conditionWarnings file line) : checker.Knows line := by
  unfold conditionWarnings at member
  split at member
  next command content arguments statement =>
    split at member
    next known => exact ⟨command, content, arguments, statement, known⟩
    next => cases member
  next => cases member

theorem conditionWarnings_of_not_knows {line : Line} (unknown : ¬ checker.Knows line) :
    checker.conditionWarnings file line = [] :=
  List.eq_nil_iff_forall_not_mem.mpr fun _ member =>
    unknown (knows_of_mem_conditionWarnings member)

/-- The warning about a condition names the undefined variables of that condition. -/
theorem conditionWarnings_of_undefined (file : Text) {line : Line} (knows : checker.Knows line)
    (undefined : checker.undefinedVariables (line.condition?.getD []) ≠ []) :
    checker.conditionWarnings file line =
      [(Finding.undefinedVariables
        (checker.undefinedVariables (line.condition?.getD []))).on file line line.wholeSpan] := by
  rw [conditionWarnings_eq line knows, undefinedCondition?]
  split
  next none => exact absurd none undefined
  next => rfl

theorem mem_conditionWarnings {line : Line} {d : Diagnostic} :
    d ∈ checker.conditionWarnings file line ↔
      checker.Knows line ∧ checker.undefinedVariables (line.condition?.getD []) ≠ [] ∧
        d = (Finding.undefinedVariables
          (checker.undefinedVariables (line.condition?.getD []))).on file line line.wholeSpan := by
  constructor
  · intro member
    have knows := knows_of_mem_conditionWarnings member
    by_cases undefined : checker.undefinedVariables (line.condition?.getD []) = []
    · rw [conditionWarnings_eq line knows, undefinedCondition?, undefined] at member
      cases member
    · rw [conditionWarnings_of_undefined file knows undefined, List.mem_singleton] at member
      exact ⟨knows, undefined, member⟩
  · rintro ⟨knows, undefined, rfl⟩
    rw [conditionWarnings_of_undefined file knows undefined]
    exact List.mem_singleton_self _

variable (checker)

/-- A line is told of undefined variables exactly in the warnings about its condition. -/
theorem foundOn_undefinedVariable (line : Line) :
    checker.foundOn validateResources labels file line .undefinedVariable =
      checker.conditionWarnings file line := by
  unfold foundOn conditionWarnings
  cases line.statement with
  | command command content arguments =>
    cases known : checker.commands.contains command <;> simp [known]
  | _ => rfl

/-! ## A whole script -/

theorem filter_undefinedVariable_diagnoseScript (script : Script) :
    (checker.diagnoseScript validateResources file script).filter
        (·.code = .undefinedVariable) = script.flatMap (checker.conditionWarnings file) := by
  rw [filter_code_diagnoseScript checker validateResources file (by decide)]
  simp only [foundOn_undefinedVariable]

variable {checker validateResources} in
/-- Behind every warning about undefined variables there is a line. -/
theorem exists_line_of_mem_diagnose {text : Text} {d : Diagnostic}
    (member : d ∈ checker.diagnose text file validateResources)
    (code : d.code = .undefinedVariable) :
    ∃ line ∈ Script.parse checker.vocabulary text, d ∈ checker.conditionWarnings file line := by
  have warned : d ∈ (checker.diagnose text file validateResources).filter
      (·.code = .undefinedVariable) := List.mem_filter.mpr ⟨member, decide_eq_true code⟩
  rw [diagnose, filter_undefinedVariable_diagnoseScript] at warned
  exact List.mem_flatMap.mp warned

theorem number_of_mem_conditionWarnings {line : Line} {d : Diagnostic}
    (member : d ∈ checker.conditionWarnings file line) : d.number = line.number := by
  obtain ⟨-, -, rfl⟩ := mem_conditionWarnings.mp member
  rfl

/-- On a line of a parsed script there are only the warnings about its own condition. -/
theorem filter_number_diagnose (text : Text) {line : Line}
    (member : line ∈ Script.parse checker.vocabulary text) :
    (checker.diagnose text file validateResources).filter
        (fun d => d.code = .undefinedVariable ∧ d.number = line.number) =
      checker.conditionWarnings file line := by
  have both : (checker.diagnose text file validateResources).filter
      (fun d => d.code = .undefinedVariable ∧ d.number = line.number) =
        ((checker.diagnose text file validateResources).filter
          (·.code = .undefinedVariable)).filter (·.number = line.number) := by
    simp [List.filter_filter, Bool.and_comm]
  rw [both, diagnose, filter_undefinedVariable_diagnoseScript]
  exact Script.filter_number_flatMap (Script.nodup_numbers _ text)
    (fun line d warned => checker.number_of_mem_conditionWarnings warned) member

end Checker

end SceneScript
