import SceneScript.Proofs.Diagnostic.Shape

/-! # Which commands are valid

The catalog of a checker is built from names and from documentation, and the commands that it lists
are valid. If there are none, the checker goes by the built-in commands.

* `Catalog.Lists`, `Catalog.mem_names_ofNames` — what a catalog lists;
* `Catalog.IsValid`, `Catalog.contains_orBuiltin_ofNames` — what a checker goes by;
* `Checker.Flags` — a report tells of the commands that are not valid, and of nothing else there;
* `Checker.flags_ofNames` — which commands those are, for every catalog and vocabulary.
-/

namespace SceneScript

/-! ## The keys of a map that grows -/

namespace OrderedMap

variable {κ α β : Type} {other : κ}

theorem mem_keys_insert [DecidableEq κ] {m : OrderedMap κ α} {key : κ} {value : α} :
    other ∈ (m.insert key value).keys ↔ other ∈ m.keys ∨ other = key := by
  rw [keys_insert]
  split
  next present =>
    exact ⟨.inl, fun either => either.elim id fun same => same ▸ present⟩
  next => simp

theorem mem_keys_foldl {step : OrderedMap κ α → β → OrderedMap κ α} {key : β → κ}
    (adds : ∀ m x, other ∈ (step m x).keys ↔ other ∈ m.keys ∨ other = key x)
    (xs : List β) (m : OrderedMap κ α) :
    other ∈ (xs.foldl step m).keys ↔ other ∈ m.keys ∨ other ∈ xs.map key := by
  induction xs generalizing m with
  | nil => simp
  | cons x rest ih =>
    rw [List.foldl_cons, ih, adds]
    simp [or_assoc]

end OrderedMap

/-! ## Catalogs -/

namespace Catalog

variable {names : List Text} {documentation : Documentation} {name : Text}

/-- The name is given, or it is documented. -/
def Lists (names : List Text) (documentation : Documentation) (name : Text) : Prop :=
  name ∈ names ∨ name ∈ documentation.keys

instance (names : List Text) (documentation : Documentation) (name : Text) :
    Decidable (Lists names documentation name) :=
  inferInstanceAs (Decidable (_ ∨ _))

/-- The commands that a checker goes by if its catalog is built from these. -/
def IsValid (names : List Text) (documentation : Documentation) (name : Text) : Prop :=
  Lists names documentation name ∨
    (∀ other, ¬ Lists names documentation other) ∧ name ∈ commandNames

theorem contains_iff {catalog : Catalog} : catalog.contains name = true ↔ name ∈ catalog.names :=
  OrderedMap.isSome_get?_iff

theorem mem_names_ofNames :
    name ∈ (ofNames names documentation).names ↔ Lists names documentation name := by
  let entry (given : Text) : CommandInfo := (documentation.get? given).getD { name := given }
  have addsGiven (m : OrderedMap Text CommandInfo) (given : Text) :
      name ∈ (m.insert given (entry given)).keys ↔ name ∈ m.keys ∨ name = id given :=
    OrderedMap.mem_keys_insert
  have addsDocumented (m : OrderedMap Text CommandInfo) (documented : Text × CommandInfo) :
      name ∈ (if m.contains documented.1 then m else m.insert documented.1 documented.2).keys ↔
        name ∈ m.keys ∨ name = documented.1 := by
    -- a documented command that is given too keeps the entry it has
    split
    next present =>
      have listed : documented.1 ∈ m.keys := OrderedMap.isSome_get?_iff.mp present
      exact ⟨.inl, fun either => either.elim id fun same => same ▸ listed⟩
    next => exact OrderedMap.mem_keys_insert
  -- the documented commands come last, so their fold is the outer one
  refine (OrderedMap.mem_keys_foldl addsDocumented documentation.entries _).trans
    (or_congr ?_ Iff.rfl)
  refine (OrderedMap.mem_keys_foldl addsGiven names ∅).trans ?_
  simp

theorem size_ofNames_eq_zero_iff :
    (ofNames names documentation).size = 0 ↔ ∀ other, ¬ Lists names documentation other := by
  rw [size, OrderedMap.size_eq_length_keys, List.length_eq_zero_iff,
    List.eq_nil_iff_forall_not_mem]
  exact forall_congr' fun other => not_congr mem_names_ofNames

theorem contains_orBuiltin_ofNames :
    (ofNames names documentation).orBuiltin.contains name = true ↔
      IsValid names documentation name := by
  rw [contains_iff, orBuiltin, IsValid]
  by_cases empty : ∀ other, ¬ Lists names documentation other
  · rw [if_pos (size_ofNames_eq_zero_iff.mpr empty), names_builtin]
    simp [empty]
  · rw [if_neg (empty ∘ size_ofNames_eq_zero_iff.mp), mem_names_ofNames]
    simp [empty]

end Catalog

/-! ## Reports -/

namespace Checker

/-- The command lines that have an unknown command in the report, as an error, are those whose
command is not valid; and the lines are checked for nothing else. -/
def Flags (valid : Text → Prop) (file : Text) (script : Script) (report : List Diagnostic) : Prop :=
  ∀ line ∈ script, ∀ command content arguments,
    line.statement = .command command content arguments →
    let checks := report.filter fun d => d.number = line.number ∧ d.code ≠ .unusedLabel
    ((∃ d ∈ checks, d.code = .unknownCommand ∧ d.severity = .error) ↔ ¬ valid command) ∧
      (¬ valid command →
        checks = [(Finding.unknownCommand command).on file line (0, command.length)])

variable {checker : Checker} {validateResources : Bool} {labels : List Text} {file : Text}

/-- The checks behind that for unknown commands find none. -/
theorem exists_unknownCommand_iff {line : Line} {command content : Text} {arguments : Arguments}
    (statement : line.statement = .command command content arguments) :
    (∃ d ∈ checker.checkLine validateResources labels file line,
        d.code = .unknownCommand ∧ d.severity = .error) ↔
      checker.commands.contains command = false := by
  constructor
  · rintro ⟨d, member, code, -⟩
    have found := mem_foundOn_of_mem_checkLine member
    rw [code] at found
    cases known : checker.commands.contains command with
    | false => rfl
    | true => simp [foundOn, statement, known] at found
  · intro unknown
    rw [checkLine_of_unknown statement unknown]
    exact ⟨_, List.mem_singleton_self _, rfl, rfl⟩

theorem flags_of_contains_iff {valid : Text → Prop}
    (known : ∀ command, checker.commands.contains command = true ↔ valid command) (text : Text) :
    Flags valid file (Script.parse checker.vocabulary text)
      (checker.diagnose text file validateResources) := by
  intro line inScript command content arguments statement
  have unknown : checker.commands.contains command = false ↔ ¬ valid command := by
    rw [← known command, Bool.not_eq_true]
  rw [filter_checks_diagnose text inScript, ← unknown]
  exact ⟨exists_unknownCommand_iff statement, checkLine_of_unknown statement⟩

/-- The commands that are not valid are told of, whatever the lines are read with. -/
theorem flags_ofNames (checker : Checker) (names : List Text) (documentation : Documentation)
    (text file : Text) (validateResources : Bool) :
    let built := { checker with catalog := .ofNames names documentation }
    let script := Script.parse checker.vocabulary text
    (script.map (·.number)).Nodup ∧
      Flags (Catalog.IsValid names documentation) file script
        (built.diagnose text file validateResources) := by
  intro built script
  have known (command : Text) : built.commands.contains command = true ↔
      Catalog.IsValid names documentation command := Catalog.contains_orBuiltin_ofNames
  exact ⟨Script.nodup_numbers _ text, flags_of_contains_iff known text⟩

/-- A command that the parser knows and the catalog does not, with a condition about a variable that
is not defined. -/
theorem flags_ofNames_wait :
    let checker : Checker :=
      { vocabulary := ["label", "wait"], isDefined := some fun _ => false }
    let built := { checker with catalog := .ofNames ["label"] ∅ }
    let line : Line := .parse checker.vocabulary "wait:500 -when=nobody;" 0
    (line ∈ Script.parse checker.vocabulary line.raw ∧ ¬ Catalog.IsValid ["label"] ∅ "wait") ∧
      (built.diagnose line.raw).filter
          (fun d => d.number = line.number ∧ d.code ≠ .unusedLabel) =
        [(Finding.unknownCommand "wait").on [] line (0, 4)] := by
  intro checker built line
  have inScript : line ∈ Script.parse checker.vocabulary line.raw := by decide +kernel
  have statement : line.statement = .command "wait" "500" line.arguments := by decide +kernel
  have invalid : ¬ Catalog.IsValid ["label"] ∅ "wait" := by
    rintro (listed | ⟨none, -⟩)
    · exact absurd listed (by decide)
    · exact none "label" (.inl (List.mem_singleton_self _))
  obtain ⟨-, flags⟩ := flags_ofNames checker ["label"] ∅ line.raw [] true
  exact ⟨⟨inScript, invalid⟩, (flags line inScript _ _ _ statement).2 invalid⟩

/-- If the catalog is empty, a built-in command is not told of. -/
theorem not_forall_flags_lists :
    ¬ ∀ (checker : Checker) (names : List Text) (documentation : Documentation) (text file : Text)
        (validateResources : Bool),
      Flags (Catalog.Lists names documentation) file (Script.parse checker.vocabulary text)
        ({ checker with catalog := .ofNames names documentation }.diagnose text file
          validateResources) := by
  intro always
  let line : Line := ⟨0, "wait:5", .command "wait" "5" ∅⟩
  have script : Script.parse .builtin line.raw = [line] := by decide +kernel
  have silent : ({ catalog := .ofNames [] ∅ } : Checker).diagnose line.raw = [] := by
    decide +kernel
  have inScript : line ∈ Script.parse .builtin line.raw := script ▸ List.mem_singleton_self line
  have flags := always {} [] ∅ line.raw [] true line inScript "wait" "5" ∅ rfl
  obtain ⟨d, member, -⟩ := flags.1.mpr (by simp [Catalog.Lists])
  rw [silent] at member
  cases member

end Checker

end SceneScript
