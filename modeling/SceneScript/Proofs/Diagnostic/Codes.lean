import SceneScript.Diagnostic.Check

/-! # What is found on a line, code by code

The diagnostics of a line come in the order of `DiagnosticCode.all`, those of each code from a check
of its own. So the diagnostics that a report has of some codes are those of their checks.

* `Checker.foundOn` — the diagnostics of one code on one line;
* `Checker.checkLine_eq` — a line has those of all codes, one code after another;
* `Checker.filter_diagnoseScript` — a report cut down to some codes;
* `Script.pairwise_number_parse`, `Script.filter_number_flatMap` — lines are told apart by their
  numbers.
-/

namespace SceneScript

/-! ## Line numbers -/

theorem Script.exists_of_mem_parse {vocabulary : Vocabulary} {text : Text} {line : Line}
    (member : line ∈ Script.parse vocabulary text) :
    ∃ (number : Nat) (raw : Text), (Text.lines text)[number]? = some raw ∧
      line = Line.parse vocabulary raw number := by
  obtain ⟨number, bound, rfl⟩ := List.mem_mapIdx.mp member
  exact ⟨number, _, List.getElem?_eq_getElem bound, rfl⟩

theorem Script.statement_of_mem_parse {vocabulary : Vocabulary} {text : Text} {line : Line}
    (member : line ∈ Script.parse vocabulary text) :
    line.statement = .ofText vocabulary line.raw := by
  obtain ⟨number, raw, -, rfl⟩ := Script.exists_of_mem_parse member
  rfl

theorem Script.pairwise_number_parse (vocabulary : Vocabulary) (text : Text) :
    (Script.parse vocabulary text).Pairwise (·.number < ·.number) := by
  rw [List.pairwise_iff_getElem]
  intro first second _ _ before
  simp [Script.parse, Line.parse, before]

theorem Script.nodup_numbers (vocabulary : Vocabulary) (text : Text) :
    ((Script.parse vocabulary text).map (·.number)).Nodup :=
  List.pairwise_map.mpr ((Script.pairwise_number_parse vocabulary text).imp Int.ne_of_lt)

/-- What is found line by line can be taken apart again by the numbers of the lines. -/
theorem Script.filter_number_flatMap {script : Script}
    (distinct : (script.map (·.number)).Nodup) {found : Line → List Diagnostic}
    (own : ∀ line, ∀ d ∈ found line, d.number = line.number) {line : Line}
    (member : line ∈ script) :
    (script.flatMap found).filter (·.number = line.number) = found line := by
  obtain ⟨before, after, rfl⟩ := List.append_of_mem member
  -- no line before or after this one has its number
  rw [List.map_append, List.map_cons, List.nodup_append, List.nodup_cons] at distinct
  obtain ⟨-, ⟨absentAfter, -⟩, apart⟩ := distinct
  have absentBefore : line.number ∉ before.map (·.number) := fun inBefore =>
    apart _ inBefore _ List.mem_cons_self rfl
  have silent (others : Script) (absent : line.number ∉ others.map (·.number)) :
      (others.flatMap found).filter (·.number = line.number) = [] := by
    rw [List.filter_eq_nil_iff]
    intro d member same
    obtain ⟨other, inOthers, member⟩ := List.mem_flatMap.mp member
    rw [own other d member, decide_eq_true_eq] at same
    exact absent (same ▸ List.mem_map_of_mem inOthers)
  have itself : (found line).filter (·.number = line.number) = found line :=
    List.filter_eq_self.mpr fun d member => decide_eq_true (own line d member)
  rw [List.flatMap_append, List.flatMap_cons, List.filter_append, List.filter_append,
    silent before absentBefore, silent after absentAfter, itself, List.nil_append, List.append_nil]

/-! ## What a diagnostic keeps of its finding -/

theorem Finding.severity_eq_of_code_eq {first second : Finding} (same : first.code = second.code) :
    first.severity = second.severity := by
  cases first <;> cases second <;> first | rfl | cases same

@[simp] theorem Finding.number_on (finding : Finding) (file : Text) (line : Line)
    (span : Nat × Nat) : (finding.on file line span).number = line.number := rfl

namespace Checker

variable (checker : Checker) (validateResources : Bool) (labels : List Text) (file : Text)

/-! ## Unused labels -/

/-- The hint that a line gets for its label, going by which labels are used. -/
def unusedLabel? (used : Text → Bool) (file : Text) (line : Line) : Option Diagnostic :=
  line.label?.bind fun name =>
    if used name then none else some ((Finding.unusedLabel name).on file line line.wholeSpan)

theorem unusedLabels_eq (script : Script) :
    unusedLabels file script =
      script.filterMap (unusedLabel? (fun name => script.any (Line.refersToLabel name)) file) :=
  rfl

theorem unusedLabel?_eq_some {used : Text → Bool} {file : Text} {line : Line} {d : Diagnostic} :
    unusedLabel? used file line = some d ↔ ∃ name, line.label? = some name ∧
      used name = false ∧ d = (Finding.unusedLabel name).on file line line.wholeSpan := by
  unfold unusedLabel?
  rw [Option.bind_eq_some_iff]
  refine exists_congr fun name => and_congr_right fun _ => ?_
  cases used name <;> simp [eq_comm]

/-! ## The code of a finding -/

section Code

variable {checker validateResources labels file} {command content : Text} {finding : Finding}

theorem code_of_missingParameter?
    (found : checker.missingParameter? command content = some finding) :
    finding.code = .missingParameter := by
  unfold missingParameter? at found
  split at found
  · cases found
  · split at found <;> cases found
    rfl

theorem code_of_missingResource?
    (found : checker.missingResource? validateResources command content = some finding) :
    finding.code = .resourceNotFound := by
  unfold missingResource? at found
  split at found
  · split at found <;> cases found
    rfl
  · cases found

theorem code_of_undefinedJump? (found : undefinedJump? labels command content = some finding) :
    finding.code = .undefinedLabel := by
  unfold undefinedJump? at found
  split at found <;> cases found
  rfl

theorem code_of_mem_undefinedTargets (member : finding ∈ undefinedTargets labels command content) :
    finding.code = .undefinedLabel := by
  unfold undefinedTargets at member
  split at member
  · obtain ⟨option, -, found⟩ := List.mem_filterMap.mp member
    obtain ⟨target, -, found⟩ := Option.bind_eq_some_iff.mp found
    split at found <;> cases found
    rfl
  · cases member

theorem code_of_undefinedCondition? {line : Line}
    (found : checker.undefinedCondition? line = some finding) :
    finding.code = .undefinedVariable := by
  unfold undefinedCondition? at found
  split at found <;> cases found
  rfl

theorem exists_of_mem_unusedLabels {script : Script} {d : Diagnostic}
    (member : d ∈ unusedLabels file script) :
    ∃ line ∈ script, ∃ name, line.label? = some name ∧
      d = (Finding.unusedLabel name).on file line line.wholeSpan := by
  rw [unusedLabels_eq] at member
  obtain ⟨line, inScript, found⟩ := List.mem_filterMap.mp member
  obtain ⟨name, label, -, same⟩ := unusedLabel?_eq_some.mp found
  exact ⟨line, inScript, name, label, same⟩

theorem code_of_mem_unusedLabels {script : Script} {d : Diagnostic}
    (member : d ∈ unusedLabels file script) : d.code = .unusedLabel := by
  obtain ⟨line, -, name, -, rfl⟩ := exists_of_mem_unusedLabels member
  rfl

end Code

/-! ## One line -/

/-- The diagnostics of one code on a line. -/
def foundOn (line : Line) (code : DiagnosticCode) : List Diagnostic :=
  match line.statement with
  | .command command content _ =>
    match code, checker.commands.contains command with
    | .unknownCommand, false => [(Finding.unknownCommand command).on file line (0, command.length)]
    | .missingParameter, true =>
      ((checker.missingParameter? command content).map (·.on file line line.wholeSpan)).toList
    | .resourceNotFound, true =>
      ((checker.missingResource? validateResources command content).map
        (·.on file line (line.contentSpan content.length))).toList
    | .undefinedLabel, true =>
      ((undefinedJump? labels command content).map
        (·.on file line (line.contentSpan content.length))).toList ++
      (undefinedTargets labels command content).map (·.on file line line.wholeSpan)
    | .undefinedVariable, true =>
      ((checker.undefinedCondition? line).map (·.on file line line.wholeSpan)).toList
    | _, _ => []
  | _ => []

/-- Whether a label is used is not seen from its line. -/
theorem foundOn_unusedLabel (line : Line) :
    checker.foundOn validateResources labels file line .unusedLabel = [] := by
  unfold foundOn
  split <;> rfl

theorem checkLine_eq (line : Line) :
    checker.checkLine validateResources labels file line =
      DiagnosticCode.all.flatMap (checker.foundOn validateResources labels file line) := by
  unfold checkLine foundOn
  cases line.statement with
  | command command content arguments =>
    cases known : checker.commands.contains command <;>
      simp [checkCommand, known, DiagnosticCode.all]
  | _ => rfl

section Member

variable {checker validateResources labels file} {line : Line} {code : DiagnosticCode}
  {d : Diagnostic}

/-- Behind a diagnostic of a line there is a finding about its command. -/
theorem exists_of_mem_foundOn
    (member : d ∈ checker.foundOn validateResources labels file line code) :
    ∃ command content arguments, line.statement = .command command content arguments ∧
      ∃ finding : Finding, finding.code = code ∧
        ∃ span ∈ [(0, command.length), line.wholeSpan, line.contentSpan content.length],
          d = finding.on file line span := by
  unfold foundOn at member
  split at member
  next command content arguments statement =>
    refine ⟨command, content, arguments, statement, ?_⟩
    split at member
    next =>
      obtain rfl := List.mem_singleton.mp member
      exact ⟨_, rfl, _, by simp, rfl⟩
    next =>
      obtain ⟨finding, found, rfl⟩ := Option.map_eq_some_iff.mp (Option.mem_toList.mp member)
      exact ⟨finding, code_of_missingParameter? found, _, by simp, rfl⟩
    next =>
      obtain ⟨finding, found, rfl⟩ := Option.map_eq_some_iff.mp (Option.mem_toList.mp member)
      exact ⟨finding, code_of_missingResource? found, _, by simp, rfl⟩
    next =>
      rcases List.mem_append.mp member with jump | option
      · obtain ⟨finding, found, rfl⟩ := Option.map_eq_some_iff.mp (Option.mem_toList.mp jump)
        exact ⟨finding, code_of_undefinedJump? found, _, by simp, rfl⟩
      · obtain ⟨finding, found, rfl⟩ := List.mem_map.mp option
        exact ⟨finding, code_of_mem_undefinedTargets found, _, by simp, rfl⟩
    next =>
      obtain ⟨finding, found, rfl⟩ := Option.map_eq_some_iff.mp (Option.mem_toList.mp member)
      exact ⟨finding, code_of_undefinedCondition? found, _, by simp, rfl⟩
    next => cases member
  next => cases member

theorem code_of_mem_foundOn
    (member : d ∈ checker.foundOn validateResources labels file line code) : d.code = code := by
  obtain ⟨-, -, -, -, finding, coded, span, -, rfl⟩ := exists_of_mem_foundOn member
  exact coded

theorem mem_foundOn_of_mem_checkLine
    (member : d ∈ checker.checkLine validateResources labels file line) :
    d ∈ checker.foundOn validateResources labels file line d.code := by
  rw [checkLine_eq] at member
  obtain ⟨code, -, found⟩ := List.mem_flatMap.mp member
  rwa [code_of_mem_foundOn found]

end Member

theorem filter_foundOn (keep : DiagnosticCode → Bool) (line : Line) (code : DiagnosticCode) :
    (checker.foundOn validateResources labels file line code).filter (keep ·.code) =
      if keep code then checker.foundOn validateResources labels file line code else [] := by
  split
  next kept =>
    exact List.filter_eq_self.mpr fun d member => by rw [code_of_mem_foundOn member, kept]
  next dropped =>
    exact List.filter_eq_nil_iff.mpr fun d member => by rwa [code_of_mem_foundOn member]

theorem filter_checkLine (keep : DiagnosticCode → Bool) (line : Line) :
    (checker.checkLine validateResources labels file line).filter (keep ·.code) =
      (DiagnosticCode.all.filter keep).flatMap
        (checker.foundOn validateResources labels file line) := by
  rw [checkLine_eq, List.filter_flatMap]
  -- a code is kept with all of its diagnostics or with none of them
  induction DiagnosticCode.all with
  | nil => rfl
  | cons code rest ih =>
    rw [List.flatMap_cons, filter_foundOn, ih, List.filter_cons]
    split
    · rfl
    · rfl

theorem exists_of_mem_checkLine {line : Line} {d : Diagnostic}
    (member : d ∈ checker.checkLine validateResources labels file line) :
    ∃ command content arguments, line.statement = .command command content arguments ∧
      ∃ finding : Finding,
        ∃ span ∈ [(0, command.length), line.wholeSpan, line.contentSpan content.length],
          d = finding.on file line span := by
  obtain ⟨command, content, arguments, statement, finding, -, found⟩ :=
    exists_of_mem_foundOn (mem_foundOn_of_mem_checkLine member)
  exact ⟨command, content, arguments, statement, finding, found⟩

/-! ## A whole script -/

theorem exists_of_mem_diagnoseScript {script : Script} {d : Diagnostic}
    (member : d ∈ checker.diagnoseScript validateResources file script) :
    ∃ finding : Finding, ∃ line ∈ script, ∃ span, d = finding.on file line span := by
  rcases List.mem_append.mp member with check | hint
  · obtain ⟨line, inScript, found⟩ := List.mem_flatMap.mp check
    obtain ⟨-, -, -, -, finding, span, -, rfl⟩ := checker.exists_of_mem_checkLine _ _ _ found
    exact ⟨finding, line, inScript, span, rfl⟩
  · obtain ⟨line, inScript, name, -, rfl⟩ := exists_of_mem_unusedLabels hint
    exact ⟨_, line, inScript, _, rfl⟩

/-- A report has the diagnostics of some codes line by line, and behind them the unused labels. -/
theorem filter_diagnoseScript (keep : DiagnosticCode → Bool) (script : Script) :
    (checker.diagnoseScript validateResources file script).filter (keep ·.code) =
      (script.flatMap fun line => (DiagnosticCode.all.filter keep).flatMap
        (checker.foundOn validateResources ((script.labels file).map (·.name)) file line)) ++
      if keep .unusedLabel then unusedLabels file script else [] := by
  have hints : (unusedLabels file script).filter (keep ·.code) =
      if keep .unusedLabel then unusedLabels file script else [] := by
    split
    next kept =>
      exact List.filter_eq_self.mpr fun d member => by rw [code_of_mem_unusedLabels member, kept]
    next dropped =>
      exact List.filter_eq_nil_iff.mpr fun d member => by rwa [code_of_mem_unusedLabels member]
  unfold diagnoseScript
  dsimp only
  rw [List.filter_append, hints, List.filter_flatMap]
  congr 2
  exact funext fun line => checker.filter_checkLine _ _ _ keep line

/-- Those of one code that lines are checked for. -/
theorem filter_code_diagnoseScript {code : DiagnosticCode} (checked : code ≠ .unusedLabel)
    (script : Script) :
    (checker.diagnoseScript validateResources file script).filter (·.code = code) =
      script.flatMap fun line =>
        checker.foundOn validateResources ((script.labels file).map (·.name)) file line code := by
  have single : DiagnosticCode.all.filter (· = code) = [code] := by cases code <;> rfl
  rw [filter_diagnoseScript checker validateResources file (· = code), single]
  simp [Ne.symm checked]

theorem filter_unusedLabel_diagnoseScript (script : Script) :
    (checker.diagnoseScript validateResources file script).filter (·.code = .unusedLabel) =
      unusedLabels file script := by
  have last : DiagnosticCode.all.filter (· = .unusedLabel) = [.unusedLabel] := rfl
  rw [filter_diagnoseScript checker validateResources file (· = .unusedLabel), last]
  simp [foundOn_unusedLabel]

end Checker

end SceneScript
