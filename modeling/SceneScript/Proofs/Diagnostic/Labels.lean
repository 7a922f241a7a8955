import SceneScript.Proofs.Diagnostic.Codes

/-! # Labels and what leads to them

A line can lead to several labels, and to one of them several times. It is told once of each time
that it leads to a label which no line defines, and every line that defines a label is told if none
leads there.

* `Line.targets` — the labels that a line leads to, one for each time that it does;
* `Diagnostic.Tells` — the diagnostic shows what was found, as a reader sees it;
* `Checker.exists_foundOn_undefinedLabel`, `Checker.numbers_unusedLabels` — the two checks;
* `Checker.label_checks_exact` — what a report says about the labels of one name.
-/

namespace SceneScript

/-! ## What a line has to do with labels -/

/-- The second segment of an option, unless it is blank. -/
def ChooseOption.destination? (option : Text) : Option Text :=
  ((Text.pieces ':' option)[1]?.map Text.strip).filter (· ≠ [])

theorem ChooseOption.target_ofText (option : Text) :
    (ofText option).target = destination? option := by
  unfold ofText destination?
  rcases Text.pieces ':' option with _ | ⟨text, _ | ⟨target, rest⟩⟩
  · rfl
  · rfl
  · change (if Text.strip target = [] then none else some (Text.strip target)) =
      (some (Text.strip target)).filter (· ≠ [])
    by_cases blank : Text.strip target = [] <;> simp [Option.filter, blank]

namespace Line

def targets (line : Line) : List Text :=
  match line.statement with
  | .command name content _ =>
    if name = Command.jumpLabel then [content].filter (· ≠ [])
    else if name = Command.choose then
      (Text.pieces '|' content).filterMap ChooseOption.destination?
    else []
  | _ => []

/-- The line is a label of that name. A label without a name is none. -/
def Defines (name : Text) (line : Line) : Prop :=
  line.commandNamed? Command.label = some name ∧ name ≠ []

instance (name : Text) (line : Line) : Decidable (line.Defines name) :=
  inferInstanceAs (Decidable (_ ∧ _))

theorem label?_eq_some {name : Text} {line : Line} :
    line.label? = some name ↔ line.Defines name := by
  unfold label? Defines
  rcases line.commandNamed? Command.label with _ | _ | ⟨c, rest⟩
  · simp
  · simp
  · simp only [Option.some.injEq]
    exact ⟨fun same => ⟨same, same ▸ List.cons_ne_nil c rest⟩, And.left⟩

theorem refersToLabel_iff {name : Text} (named : name ≠ []) {line : Line} :
    line.refersToLabel name = true ↔ name ∈ line.targets := by
  have apart : Command.jumpLabel ≠ Command.choose := by decide
  unfold refersToLabel targets commandNamed?
  cases line.statement with
  | command command content arguments =>
    by_cases jump : command = Command.jumpLabel
    · simp only [jump, apart, if_true, if_false]
      by_cases same : content = name
      · simp [same, named]
      · simp [same, Ne.symm same]
    · by_cases choose : command = Command.choose
      · simp only [choose, apart.symm, if_true, if_false]
        simp [ChooseOption.ofContent, ChooseOption.target_ofText]
      · simp [jump, choose]
  | _ => simp

end Line

theorem Script.mem_labels {script : Script} {file name : Text} :
    name ∈ (script.labels file).map (·.name) ↔ script.filter (·.Defines name) ≠ [] := by
  simp [labels, List.map_filterMap, List.filter_eq_nil_iff, Line.label?_eq_some]

theorem Script.named_of_defines {script : Script} {name : Text}
    (defined : script.filter (·.Defines name) ≠ []) : name ≠ [] := by
  obtain ⟨line, member⟩ := List.exists_mem_of_ne_nil _ defined
  exact (of_decide_eq_true (List.mem_filter.mp member).2).2

/-! ## What a diagnostic shows -/

/-- The diagnostic has the words of the finding and is as serious. -/
def Diagnostic.Tells (finding : Finding) (d : Diagnostic) : Prop :=
  d.message = finding.message ∧ d.severity = finding.severity

instance (finding : Finding) (d : Diagnostic) : Decidable (d.Tells finding) :=
  inferInstanceAs (Decidable (_ ∧ _))

/-- The words that a message begins with. -/
def DiagnosticCode.heading : DiagnosticCode → Text
  | .unknownCommand => (Finding.unknownCommand []).message
  | .missingParameter => (Finding.missingParameter []).message
  | .resourceNotFound => (Finding.resourceNotFound []).message
  | .undefinedLabel => (Finding.undefinedLabel []).message
  | .undefinedVariable => (Finding.undefinedVariables []).message
  | .unusedLabel => (Finding.unusedLabel []).message

namespace Finding

theorem heading_isPrefix (finding : Finding) : finding.code.heading <+: finding.message := by
  cases finding <;> exact ⟨_, rfl⟩

/-- Findings with one message have one code: no heading begins another. -/
theorem code_eq_of_message_eq {first second : Finding} (same : first.message = second.message) :
    first.code = second.code := by
  have apart (a b : DiagnosticCode) (inside : a.heading <+: b.heading) : a = b := by
    cases a <;> cases b <;> first | rfl | exact absurd inside (by decide)
  -- both headings begin the one message, so one of them begins the other
  have headings := second.heading_isPrefix
  rw [← same] at headings
  rcases List.prefix_or_prefix_of_prefix first.heading_isPrefix headings with inside | inside
  · exact apart _ _ inside
  · exact (apart _ _ inside).symm

variable {name target file : Text} {line : Line} {span : Nat × Nat}

theorem tells_undefinedLabel :
    ((undefinedLabel target).on file line span).Tells (undefinedLabel name) ↔ target = name :=
  ⟨fun tells => List.append_cancel_left tells.1, fun same => same ▸ ⟨rfl, rfl⟩⟩

theorem tells_unusedLabel :
    ((unusedLabel target).on file line span).Tells (unusedLabel name) ↔ target = name :=
  ⟨fun tells => List.append_cancel_left tells.1, fun same => same ▸ ⟨rfl, rfl⟩⟩

end Finding

namespace Checker

variable (checker : Checker) (validateResources : Bool) (labels : List Text) (file : Text)

/-- Whatever a report tells of, it says by a diagnostic with the code of that. -/
theorem filter_tells (script : Script) (finding : Finding) :
    (checker.diagnoseScript validateResources file script).filter (·.Tells finding) =
      ((checker.diagnoseScript validateResources file script).filter
        (·.code = finding.code)).filter (·.Tells finding) := by
  rw [List.filter_filter]
  refine List.filter_congr fun d member => ?_
  have coded (tells : d.Tells finding) : d.code = finding.code := by
    obtain ⟨other, line, -, span, rfl⟩ :=
      checker.exists_of_mem_diagnoseScript _ _ member
    exact Finding.code_eq_of_message_eq tells.1
  by_cases tells : d.Tells finding
  · simp [tells, coded tells]
  · simp [tells]

/-! ## The two checks -/

theorem undefinedTargets_choose (content : Text) :
    undefinedTargets labels Command.choose content =
      (((Text.pieces '|' content).filterMap ChooseOption.destination?).filter
        (· ∉ labels)).map .undefinedLabel := by
  unfold undefinedTargets ChooseOption.ofContent
  rw [if_pos rfl, List.filterMap_map, List.filter_filterMap, List.map_filterMap]
  congr 1
  funext option
  rw [Function.comp, ChooseOption.target_ofText]
  cases ChooseOption.destination? option with
  | none => rfl
  | some target => by_cases defined : target ∈ labels <;> simp [Option.filter, defined]

variable {checker} in
/-- A line is told of every time that it leads to a label which is not there. -/
theorem exists_foundOn_undefinedLabel (knowsJump : checker.commands.contains Command.jumpLabel)
    (knowsChoose : checker.commands.contains Command.choose) (line : Line) :
    ∃ span, checker.foundOn validateResources labels file line .undefinedLabel =
      (line.targets.filter (· ∉ labels)).map
        fun target => (Finding.undefinedLabel target).on file line span := by
  have apart : Command.jumpLabel ≠ Command.choose := by decide
  unfold foundOn Line.targets
  cases line.statement with
  | command command content arguments =>
    -- a jump is shown at its content, and the options of a choice are all shown at the whole line
    by_cases jump : command = Command.jumpLabel
    · refine ⟨line.contentSpan content.length, ?_⟩
      simp only [jump, knowsJump, undefinedJump?, undefinedTargets, apart, if_true, if_false]
      by_cases empty : content = []
      · simp [empty]
      · by_cases defined : content ∈ labels <;> simp [empty, defined]
    · by_cases choose : command = Command.choose
      · refine ⟨line.wholeSpan, ?_⟩
        simp only [choose, knowsChoose, undefinedJump?, undefinedTargets_choose, apart.symm,
          if_true, if_false]
        simp
      · refine ⟨line.wholeSpan, ?_⟩
        simp only [jump, choose, if_false]
        cases checker.commands.contains command <;>
          simp [jump, choose, undefinedJump?, undefinedTargets]
  | _ => exact ⟨line.wholeSpan, rfl⟩

theorem numbers_undefinedLabel (name : Text) (line : Line) (targets : List Text)
    (span : Nat × Nat) :
    ((targets.map fun target => (Finding.undefinedLabel target).on file line span).filter
        (·.Tells (.undefinedLabel name))).map (·.number) =
      List.replicate (targets.count name) line.number := by
  have told : targets.filter ((fun d : Diagnostic => d.Tells (.undefinedLabel name)) ∘
      fun target => (Finding.undefinedLabel target).on file line span) =
        targets.filter (· == name) :=
    List.filter_congr fun target _ => by
      rw [Bool.eq_iff_iff]
      simp [Finding.tells_undefinedLabel]
  rw [List.filter_map, told, List.filter_beq, List.map_map, List.map_replicate]
  rfl

/-- Every line that defines the label is told of it once, or none is. -/
theorem numbers_unusedLabels (name : Text) (script : Script) :
    ((unusedLabels file script).filter (·.Tells (.unusedLabel name))).map (·.number) =
      if script.any (Line.refersToLabel name) then []
      else (script.filter (·.Defines name)).map (·.number) := by
  -- for one line it does not matter what makes a label used
  have told (used : Text → Bool) (line : Line) :
      ((unusedLabel? used file line).filter (·.Tells (.unusedLabel name))).map (·.number) =
        if line.Defines name ∧ used name = false then some line.number else none := by
    unfold unusedLabel?
    simp only [← Line.label?_eq_some]
    cases line.label? with
    | none => rfl
    | some other =>
      by_cases same : other = name
      · obtain rfl := same
        cases found : used other <;> simp [found, Option.filter, Finding.tells_unusedLabel]
      · cases found : used other <;> simp [found, same, Option.filter, Finding.tells_unusedLabel]
  rw [unusedLabels_eq, List.filter_filterMap, List.map_filterMap]
  simp only [told]
  cases script.any (Line.refersToLabel name) with
  | true => simp
  | false =>
    simp only [and_true, Bool.false_eq_true, if_false]
    rw [← List.filterMap_eq_map, List.filterMap_filter]
    simp

/-! ## Reports -/

variable {checker validateResources file} in
theorem numbers_tells_undefinedLabel
    (knowsJump : checker.commands.contains Command.jumpLabel)
    (knowsChoose : checker.commands.contains Command.choose) (script : Script) (name : Text) :
    ((checker.diagnoseScript validateResources file script).filter
        (·.Tells (.undefinedLabel name))).map (·.number) =
      if script.filter (·.Defines name) = [] then
        script.flatMap fun line => List.replicate (line.targets.count name) line.number
      else [] := by
  let labels := (script.labels file).map (·.name)
  have onLine (line : Line) :
      ((checker.foundOn validateResources labels file line .undefinedLabel).filter
          (·.Tells (.undefinedLabel name))).map (·.number) =
        List.replicate ((line.targets.filter (· ∉ labels)).count name) line.number := by
    obtain ⟨span, found⟩ := exists_foundOn_undefinedLabel validateResources labels file
      knowsJump knowsChoose line
    rw [found, numbers_undefinedLabel]
  have checked : (Finding.undefinedLabel name).code ≠ .unusedLabel := DiagnosticCode.noConfusion
  rw [filter_tells, filter_code_diagnoseScript checker validateResources file checked,
    List.filter_flatMap, List.map_flatMap]
  refine (congrArg script.flatMap (funext onLine)).trans ?_
  split
  next undefined =>
    have absent : name ∉ labels := fun defined => Script.mem_labels.mp defined undefined
    refine congrArg script.flatMap (funext fun line => ?_)
    rw [List.count_filter]
    exact decide_eq_true absent
  next defined =>
    have present : name ∈ labels := Script.mem_labels.mpr defined
    refine List.flatMap_eq_nil_iff.mpr fun line _ => ?_
    rw [List.count_eq_zero_of_not_mem, List.replicate_zero]
    exact fun kept => of_decide_eq_true (List.mem_filter.mp kept).2 present

variable {checker validateResources file} in
theorem numbers_tells_unusedLabel (script : Script) (name : Text) :
    ((checker.diagnoseScript validateResources file script).filter
        (·.Tells (.unusedLabel name))).map (·.number) =
      if script.filter (name ∈ ·.targets) = [] then
        (script.filter (·.Defines name)).map (·.number)
      else [] := by
  have hints : (Finding.unusedLabel name).code = .unusedLabel := rfl
  rw [filter_tells, hints, filter_unusedLabel_diagnoseScript, numbers_unusedLabels]
  by_cases undefined : script.filter (·.Defines name) = []
  · simp [undefined]
  · have users : script.any (Line.refersToLabel name) = true ↔
        script.filter (name ∈ ·.targets) ≠ [] := by
      simp [List.filter_eq_nil_iff, Line.refersToLabel_iff (Script.named_of_defines undefined)]
    by_cases used : script.filter (name ∈ ·.targets) = []
    · rw [if_neg fun referred => users.mp referred used, if_pos used]
    · rw [if_pos (users.mpr used), if_neg used]

variable {checker} in
/-- Every time that a line leads to the label is an error, unless some line defines it; every line
that defines it has one hint, unless some line leads to it. -/
theorem label_checks_exact (knowsJump : checker.commands.contains Command.jumpLabel)
    (knowsChoose : checker.commands.contains Command.choose) (text file : Text)
    (validateResources : Bool) (name : Text) :
    let script := Script.parse checker.vocabulary text
    let report := checker.diagnose text file validateResources
    let definitions := script.filter (·.Defines name)
    let users := script.filter (name ∈ ·.targets)
    let errors := report.filter (·.Tells (.undefinedLabel name))
    let hints := report.filter (·.Tells (.unusedLabel name))
    (script.map (·.number)).Nodup ∧
      errors.map (·.number) =
        (if definitions = [] then
          script.flatMap fun line => List.replicate (line.targets.count name) line.number
        else []) ∧
      hints.map (·.number) = (if users = [] then definitions.map (·.number) else []) ∧
      (errors = [] ∨ hints = []) ∧
      (definitions ≠ [] → script.labelReferences name = users) := by
  intro script report definitions users errors hints
  have errorNumbers : errors.map (·.number) =
      if definitions = [] then
        script.flatMap fun line => List.replicate (line.targets.count name) line.number
      else [] := numbers_tells_undefinedLabel knowsJump knowsChoose script name
  have hintNumbers : hints.map (·.number) =
      if users = [] then definitions.map (·.number) else [] :=
    numbers_tells_unusedLabel script name
  refine ⟨Script.nodup_numbers _ _, errorNumbers, hintNumbers, ?_, ?_⟩
  · by_cases undefined : definitions = []
    · rw [undefined, List.map_nil, ite_self, List.map_eq_nil_iff] at hintNumbers
      exact .inr hintNumbers
    · rw [if_neg undefined, List.map_eq_nil_iff] at errorNumbers
      exact .inl errorNumbers
  · intro defined
    exact List.filter_congr fun line _ => by
      rw [Bool.eq_iff_iff, Line.refersToLabel_iff (Script.named_of_defines defined),
        decide_eq_true_iff]

/-- A jump and two options of one choice lead to a missing label, and two lines define another. -/
theorem label_checks_exact_repeated :
    let checker : Checker := {}
    let text : Text := "label:a;\njumpLabel:b;\nchoose:Yes: b |No:b:x|Stay;\n  label:a -once;"
    (checker.commands.contains Command.jumpLabel ∧ checker.commands.contains Command.choose) ∧
      ((checker.diagnose text []).filter (·.Tells (.undefinedLabel "b"))).map (·.number) =
        [1, 2, 2] ∧
      ((checker.diagnose text []).filter (·.Tells (.unusedLabel "a"))).map (·.number) = [0, 3] := by
  intro checker text
  have knowsJump : checker.commands.contains Command.jumpLabel := by decide +kernel
  have knowsChoose : checker.commands.contains Command.choose := by decide +kernel
  obtain ⟨-, errors, -⟩ := label_checks_exact knowsJump knowsChoose text [] true "b"
  obtain ⟨-, -, hints, -⟩ := label_checks_exact knowsJump knowsChoose text [] true "a"
  refine ⟨⟨knowsJump, knowsChoose⟩, errors.trans ?_, hints.trans ?_⟩
  · decide +kernel
  · decide +kernel

end Checker

end SceneScript
