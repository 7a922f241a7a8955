import SceneScript.Proofs.Diagnostic.Conditions

/-! # What a checker is given

Besides its catalog and its vocabulary a checker can be given what assets are stored and what
variables are defined, and it can be told not to look for assets. Each of these has a say in the
diagnostics of one code only.

* `Checker.stores`, `Checker.defines` — what a checker goes by, whether it was given that or not;
* `Checker.filter_diagnoseScript_congr` — reports agree in the codes whose checks agree;
* `Diagnostic.leaveOut` — a warning without the variables that are defined after all;
* `Checker.collaborators_apart` — two reports on one text, compared.
-/

namespace SceneScript

/-- The warning without these names, if it still has any. -/
def Diagnostic.leaveOut (isDefined : Text → Bool) (d : Diagnostic) : Option Diagnostic :=
  match d.toldNames.filter (!isDefined ·) with
  | [] => none
  | names => some { d with message := (Finding.undefinedVariables names).message }

theorem Finding.leaveOut_on {names : List Text}
    (words : ∀ name ∈ names, name ≠ [] ∧ ∀ c ∈ name, isWordChar c = true)
    (isDefined : Text → Bool) (file : Text) (line : Line) (span : Nat × Nat) :
    ((undefinedVariables names).on file line span).leaveOut isDefined =
      match names.filter (!isDefined ·) with
      | [] => none
      | rest => some ((undefinedVariables rest).on file line span) := by
  unfold Diagnostic.leaveOut
  rw [toldNames_on words]
  cases names.filter (!isDefined ·) <;> rfl

namespace Checker

/-! ## What is not given -/

/-- A checker that was not given any assets misses none. -/
def stores (checker : Checker) : Text → AssetType → Bool :=
  checker.assetExists.getD fun _ _ => true

/-- A checker that was not given any variables misses none. -/
def defines (checker : Checker) : Text → Bool := checker.isDefined.getD fun _ => true

theorem missingResource?_eq (checker : Checker) (validateResources : Bool)
    (command content : Text) :
    checker.missingResource? validateResources command content =
      (assetTypeOfCommand? command).bind fun type =>
        if validateResources && content ≠ [] && content ≠ emptySlot &&
            !checker.stores content type then
          some (.resourceNotFound content)
        else none := by
  unfold missingResource? stores
  cases checker.assetExists <;> cases assetTypeOfCommand? command <;> simp

theorem undefinedVariables_eq (checker : Checker) (expression : Text) :
    checker.undefinedVariables expression =
      (distinctIdentifiers expression).filter (!checker.defines ·) := by
  unfold undefinedVariables defines
  cases checker.isDefined <;> simp

/-! ## Checks that agree -/

section Agree

variable {first second : Checker} {validateFirst validateSecond : Bool} {labels : List Text}
  {file : Text} {line : Line}

theorem commands_congr (catalog : first.catalog = second.catalog) :
    first.commands = second.commands := congrArg Catalog.orBuiltin catalog

theorem knows_congr (catalog : first.catalog = second.catalog) :
    first.Knows line ↔ second.Knows line := by
  unfold Knows
  rw [commands_congr catalog]

/-- The checks of a code agree where what they go by does. -/
theorem foundOn_congr (catalog : first.catalog = second.catalog) {code : DiagnosticCode}
    (resource : code = .resourceNotFound →
      validateFirst = validateSecond ∧ first.stores = second.stores)
    (condition : code = .undefinedVariable → first.defines = second.defines) :
    first.foundOn validateFirst labels file line code =
      second.foundOn validateSecond labels file line code := by
  have commands := commands_congr catalog
  unfold foundOn
  rw [commands]
  cases line.statement with
  | command command content arguments =>
    dsimp only
    cases second.commands.contains command with
    | false => cases code <;> rfl
    | true =>
      cases code with
      | unknownCommand | undefinedLabel | unusedLabel => rfl
      | missingParameter => simp only [missingParameter?, commands]
      | resourceNotFound =>
        obtain ⟨flags, stores⟩ := resource rfl
        simp only [missingResource?_eq, flags, stores]
      | undefinedVariable =>
        simp only [undefinedCondition?, undefinedVariables_eq, condition rfl]
  | _ => rfl

theorem filter_diagnoseScript_congr (keep : DiagnosticCode → Bool)
    (agree : ∀ code, keep code = true → ∀ labels line,
      first.foundOn validateFirst labels file line code =
        second.foundOn validateSecond labels file line code) (script : Script) :
    (first.diagnoseScript validateFirst file script).filter (keep ·.code) =
      (second.diagnoseScript validateSecond file script).filter (keep ·.code) := by
  rw [filter_diagnoseScript, filter_diagnoseScript]
  congr 2
  funext line
  rw [List.flatMap_def, List.flatMap_def]
  refine congrArg List.flatten (List.map_congr_left fun code kept => ?_)
  exact agree code (List.mem_filter.mp kept).2 _ line

end Agree

theorem foundOn_resourceNotFound_false (checker : Checker) (labels : List Text) (file : Text)
    (line : Line) : checker.foundOn false labels file line .resourceNotFound = [] := by
  unfold foundOn
  split
  next command content _ _ =>
    cases checker.commands.contains command with
    | false => rfl
    | true => simp [missingResource?_eq]
  next => rfl

/-- Without looking for assets all else is found. -/
theorem diagnoseScript_false (checker : Checker) (file : Text) (script : Script) :
    checker.diagnoseScript false file script =
      (checker.diagnoseScript true file script).filter (·.code ≠ .resourceNotFound) := by
  have none :
      (checker.diagnoseScript false file script).filter (·.code = .resourceNotFound) = [] := by
    rw [filter_code_diagnoseScript checker false file (by decide)]
    exact List.flatMap_eq_nil_iff.mpr fun line _ => checker.foundOn_resourceNotFound_false _ _ line
  have all : (checker.diagnoseScript false file script).filter (·.code ≠ .resourceNotFound) =
      checker.diagnoseScript false file script :=
    List.filter_eq_self.mpr fun d member => decide_eq_true fun same =>
      List.filter_eq_nil_iff.mp none d member (decide_eq_true same)
  rw [← all]
  exact filter_diagnoseScript_congr (· ≠ .resourceNotFound)
    (fun code kept labels line => foundOn_congr rfl
      (fun same => absurd same (of_decide_eq_true kept)) (fun _ => rfl)) script

/-! ## More variables -/

variable {first second : Checker} {file : Text}

/-- Where more variables are defined a warning loses those names, and with the last of them it is
gone. -/
theorem conditionWarnings_of_subset (catalog : first.catalog = second.catalog)
    (more : ∀ name, first.defines name = true → second.defines name = true) (line : Line) :
    second.conditionWarnings file line =
      (first.conditionWarnings file line).filterMap (·.leaveOut second.defines) := by
  by_cases known : first.Knows line
  · have also : second.Knows line := (knows_congr catalog).mp known
    have fewer : second.undefinedVariables (line.condition?.getD []) =
        (first.undefinedVariables (line.condition?.getD [])).filter (!second.defines ·) := by
      have both (name : Text) : (!second.defines name && !first.defines name) =
          !second.defines name := by
        cases defined : first.defines name with
        | false => simp
        | true => simp [more name defined]
      simp only [undefinedVariables_eq, List.filter_filter, both]
    rw [conditionWarnings_eq line known, conditionWarnings_eq line also, undefinedCondition?,
      undefinedCondition?, fewer]
    have words : ∀ name ∈ first.undefinedVariables (line.condition?.getD []),
        name ≠ [] ∧ ∀ c ∈ name, isWordChar c = true := isWord_of_mem_undefinedVariables
    generalize first.undefinedVariables (line.condition?.getD []) = names at words ⊢
    cases names with
    | nil => rfl
    | cons name rest =>
      change _ = [(Finding.undefinedVariables (name :: rest)).on file line
        line.wholeSpan].filterMap (·.leaveOut second.defines)
      rw [List.filterMap_cons, Finding.leaveOut_on words]
      cases (name :: rest).filter (!second.defines ·) <;> rfl
  · have neither : ¬ second.Knows line := fun knows => known ((knows_congr catalog).mpr knows)
    rw [conditionWarnings_of_not_knows known, conditionWarnings_of_not_knows neither]
    rfl

/-! ## Two reports -/

/-- Two checkers with one catalog and one vocabulary differ only in what is not found of the assets
and in what is not defined of the variables. -/
theorem collaborators_apart (catalog : first.catalog = second.catalog)
    (vocabulary : first.vocabulary = second.vocabulary) (text file : Text)
    (validateFirst validateSecond : Bool) :
    let report (checker : Checker) (validateResources : Bool) :=
      checker.diagnose text file validateResources
    let missing (checker : Checker) (validateResources : Bool) :=
      (report checker validateResources).filter (·.code = .resourceNotFound)
    let undefined (checker : Checker) (validateResources : Bool) :=
      (report checker validateResources).filter (·.code = .undefinedVariable)
    (report first validateFirst).filter
        (fun d => d.code ≠ .resourceNotFound ∧ d.code ≠ .undefinedVariable) =
      (report second validateSecond).filter
        (fun d => d.code ≠ .resourceNotFound ∧ d.code ≠ .undefinedVariable) ∧
    (validateFirst = validateSecond → first.stores = second.stores →
      missing first validateFirst = missing second validateSecond) ∧
    report first false = (report first true).filter (·.code ≠ .resourceNotFound) ∧
    (first.defines = second.defines →
      undefined first validateFirst = undefined second validateSecond) ∧
    ((∀ name, first.defines name = true → second.defines name = true) →
      undefined second validateSecond =
        (undefined first validateFirst).filterMap (·.leaveOut second.defines)) := by
  intro report missing undefined
  have parsed : Script.parse first.vocabulary text = Script.parse second.vocabulary text := by
    rw [vocabulary]
  have undefined_eq (checker : Checker) (validateResources : Bool) :
      undefined checker validateResources =
        (Script.parse checker.vocabulary text).flatMap (checker.conditionWarnings file) :=
    checker.filter_undefinedVariable_diagnoseScript validateResources _
  have compared (keep : DiagnosticCode → Bool)
      (resource : keep .resourceNotFound = true →
        validateFirst = validateSecond ∧ first.stores = second.stores)
      (condition : keep .undefinedVariable = true → first.defines = second.defines) :
      (report first validateFirst).filter (keep ·.code) =
        (report second validateSecond).filter (keep ·.code) := by
    dsimp only [report, diagnose]
    rw [parsed]
    exact filter_diagnoseScript_congr keep (fun code kept labels line => foundOn_congr catalog
      (fun same => resource (same ▸ kept)) (fun same => condition (same ▸ kept))) _
  refine ⟨?_, ?_, ?_, ?_, ?_⟩
  · exact compared (fun code => code ≠ .resourceNotFound ∧ code ≠ .undefinedVariable)
      (fun kept => absurd kept (by decide)) (fun kept => absurd kept (by decide))
  · intro flags stores
    exact compared (· = .resourceNotFound) (fun _ => ⟨flags, stores⟩)
      (fun kept => absurd kept (by decide))
  · exact first.diagnoseScript_false file _
  · intro defines
    exact compared (· = .undefinedVariable) (fun kept => absurd kept (by decide))
      (fun _ => defines)
  · intro more
    rw [undefined_eq, undefined_eq, parsed, List.filterMap_flatMap,
      funext (conditionWarnings_of_subset catalog more)]

/-- Where one more variable is defined a warning loses a name and another warning is gone. -/
theorem collaborators_apart_defined :
    let first : Checker := { isDefined := some (· = "score") }
    let second : Checker :=
      { assetExists := some fun _ _ => false, isDefined := some (· ∈ [("score" : Text), "luck"]) }
    let text : Text := "changeBg:a.png -when=luck>score and mood;\nbgm:b.mp3 -when=luck;"
    let warned (checker : Checker) : List (Int × List Text) :=
      ((checker.diagnose text []).filter (·.code = .undefinedVariable)).map
        fun d => (d.number, d.toldNames)
    (first.catalog = second.catalog ∧ first.vocabulary = second.vocabulary ∧
        ∀ name, first.defines name = true → second.defines name = true) ∧
      warned first = [(0, [("luck" : Text), "mood"]), (1, [("luck" : Text)])] ∧
      warned second = [(0, [("mood" : Text)])] := by
  intro first second text warned
  have more (name : Text) (defined : first.defines name = true) : second.defines name = true :=
    decide_eq_true (of_decide_eq_true defined ▸ List.mem_cons_self)
  have catalog : first.catalog = second.catalog := rfl
  have vocabulary : first.vocabulary = second.vocabulary := rfl
  obtain ⟨-, -, -, -, fewer⟩ := collaborators_apart catalog vocabulary text [] true true
  refine ⟨⟨catalog, vocabulary, more⟩, by decide +kernel, ?_⟩
  have told := congrArg (List.map fun d => (d.number, d.toldNames)) (fewer more)
  exact told.trans (by decide +kernel)

end Checker

end SceneScript
