import SceneScript.Proofs.Path.Collapse
import SceneScript.Proofs.Path.Spelling
import SceneScript.Proofs.Text.Trimmed
import SceneScript.Settings.Validation

/-! # Values that are validated again

What a field makes of a value it accepts once more. All fields leave such a value as it is but the
game path, which loses what has come to its end.

* `Settings.normal` — what a field makes of a value;
* `Settings.renewed` — what it makes of that when it is given again;
* `Settings.normal_of_normal` — a value that was accepted is accepted again;
* `Settings.build_of_accepts` — values that are accepted one by one are accepted together.
-/

namespace SceneScript

/-! ## Texts that can be written -/

/-- A character that a path can hold. -/
def isWritable (c : Char) : Bool := !(isHalf c && !isStrayByte c) && c ≠ '\x00'

theorem isWritable_iff {c : Char} :
    isWritable c = true ↔ (isHalf c && !isStrayByte c) = false ∧ c ≠ '\x00' := by
  rw [isWritable, Bool.and_eq_true, Bool.not_eq_true', decide_eq_true_iff]

theorem pathTextFault?_eq_none_iff {t : Text} :
    pathTextFault? t = none ↔ ∀ c ∈ t, isWritable c = true := by
  have whole : brokenSpan? t = none ↔ ∀ c ∈ t, (isHalf c && !isStrayByte c) = false := by
    rw [brokenSpan?, Option.map_eq_none_iff, List.findIdx?_eq_none_iff]
  constructor
  · intro fine c member
    have unbroken : brokenSpan? t = none := by
      cases span : brokenSpan? t with
      | none => rfl
      | some _ => simp [pathTextFault?, span] at fine
    have absent : '\x00' ∉ t := fun null => by simp [pathTextFault?, unbroken, null] at fine
    exact isWritable_iff.mpr ⟨whole.mp unbroken c member, fun same => absent (same ▸ member)⟩
  · intro writable
    have unbroken := whole.mpr fun c member => (isWritable_iff.mp (writable c member)).1
    have absent : '\x00' ∉ t := fun null => absurd (writable _ null) (by decide)
    simp [pathTextFault?, unbroken, absent]

namespace Path

theorem mem_join {separator : Text} {names : List Text} {c : Char}
    (member : c ∈ Text.join separator names) : c ∈ separator ∨ ∃ name ∈ names, c ∈ name := by
  induction names with
  | nil => cases member
  | cons first rest ih =>
    cases rest with
    | nil =>
      rw [Text.join, List.intercalate_singleton] at member
      exact .inr ⟨first, List.mem_cons_self, member⟩
    | cons second more =>
      rw [Text.join, List.intercalate_cons_cons, List.mem_append, List.mem_append] at member
      rcases member with (inFirst | between) | later
      · exact .inr ⟨first, List.mem_cons_self, inFirst⟩
      · exact .inl between
      · rcases ih later with between | ⟨name, inNames, inName⟩
        · exact .inl between
        · exact .inr ⟨name, List.mem_cons_of_mem _ inNames, inName⟩

/-- What a path is written with, besides its names. -/
theorem mem_toText {p : Path} {c : Char} (member : c ∈ p.toText) :
    c ∈ ['.', '/'] ∨ ∃ name ∈ p.names, c ∈ name := by
  unfold toText at member
  dsimp only at member
  split at member
  · exact .inl (List.mem_cons.mpr (.inl (List.mem_singleton.mp member)))
  · rcases List.mem_append.mp member with inAnchor | joined
    · have marks (anchor : Anchor) : anchor.toText.all (['.', '/'].contains ·) = true := by
        cases anchor <;> decide
      exact .inl (List.contains_iff_mem.mp (List.all_eq_true.mp (marks _) c inAnchor))
    · rcases mem_join joined with slash | inNames
      · exact .inl (List.mem_cons_of_mem _ slash)
      · exact .inr inNames

theorem mem_names_collapse {p : Path} {name : Text} (member : name ∈ p.collapse.names) :
    name ∈ p.names :=
  (mem_of_mem_foldl_collapseStep (List.mem_reverse.mp member)).resolve_left List.not_mem_nil

theorem mem_names_absolute {workingDirectory : List Text} {p : Path} {name : Text}
    (member : name ∈ (p.absolute workingDirectory).names) :
    name ∈ workingDirectory ∨ name ∈ p.names := by
  have joined : name ∈ (join ⟨.root, workingDirectory⟩ p).names := mem_names_collapse member
  unfold join at joined
  split at joined
  · exact .inr joined
  · exact List.mem_append.mp joined

/-- A path that is absolute already stands for itself. -/
theorem absolute_absolute (workingDirectory : List Text) (p : Path) :
    (p.absolute workingDirectory).absolute workingDirectory = p.absolute workingDirectory := by
  have again (names : List Text) :
      absolute workingDirectory ⟨.root, (names.foldl (collapseStep .root) []).reverse⟩ =
        ⟨.root, (names.foldl (collapseStep .root) []).reverse⟩ := by
    rw [absolute_of_isAbsolute rfl, foldl_collapseStep_again]
  cases kind : p.isAbsolute with
  | true => rw [absolute_of_isAbsolute kind, again]
  | false => rw [absolute_of_relative kind, ← List.foldl_append, again]

/-- A path has no fault if its names have none: each of them is written at some point. -/
theorem pathFault?_eq_none_iff {p : Path} :
    pathFault? p = none ↔ ∀ name ∈ p.names, pathTextFault? name = none := by
  unfold pathFault?
  simp only [List.findSome?_eq_none_iff, pathTextFault?_eq_none_iff]
  constructor
  · intro fine name member c inName
    by_cases up : name = parentName
    · subst up
      have dots : parentName.all isWritable = true := by decide
      exact List.all_eq_true.mp dots c inName
    · obtain ⟨before, after, split⟩ := List.append_of_mem member
      have here : before.length + 1 ∈ List.range (p.names.length + 1) := by
        simp [split]
      have own := fine _ here
      have taken : p.names.take (before.length + 1) = before ++ [name] := by
        simp [split, List.take_append, List.take_of_length_le]
      rw [taken] at own
      let anchor : Anchor := if p.isAbsolute then .root else .relative
      have last : (collapse ⟨anchor, before ++ [name]⟩).names =
          (before.foldl (collapseStep anchor) []).reverse ++ [name] := by
        simp [collapse, List.foldl_append, collapseStep_of_ne up]
      exact own c ((suffix_toText last).mem inName)
  · intro writable n _ c member
    have marks : ['.', '/'].all isWritable = true := by decide
    rcases mem_toText member with mark | ⟨name, collapsed, inName⟩
    · exact List.all_eq_true.mp marks c mark
    · exact writable name (List.mem_of_mem_take (mem_names_collapse collapsed)) c inName

end Path

/-- The working directory has a name without detours that can be written. -/
structure Environment.IsWritten (environment : Environment) : Prop where
  collapsed : Path.parentName ∉ environment.workingDirectory
  written : ∀ name ∈ environment.workingDirectory, pathTextFault? name = none

section Paths

variable {environment : Environment} (written : environment.IsWritten) {path : Path}

include written

theorem resolve_directory : environment.resolve environment.directory = environment.directory := by
  rw [Environment.resolve, Path.absolute_of_isAbsolute rfl, Environment.directory,
    Path.foldl_collapseStep_of_notMem written.collapsed, List.append_nil, List.reverse_reverse]

theorem placeOf_directory :
    placeOf environment environment.directory = .ok environment.directory := by
  have fine : pathFault? environment.directory = none :=
    Path.pathFault?_eq_none_iff.mpr written.written
  rw [placeOf, fine, resolve_directory written]

/-- A place that was found for a path is found again. -/
theorem placeOf_placeOf {place : Path} (found : placeOf environment path = .ok place) :
    placeOf environment place = .ok place := by
  unfold placeOf at found
  split at found
  · cases found
  next fine =>
    cases found
    have again : pathFault? (environment.resolve path) = none := by
      rw [Path.pathFault?_eq_none_iff] at fine ⊢
      intro name member
      rcases Path.mem_names_absolute member with working | own
      · exact written.written name working
      · exact fine name own
    rw [placeOf, again]
    exact congrArg Except.ok (Path.absolute_absolute _ _)

theorem placeOf_of_pathOf {value : SettingValue} {place : Path}
    (found : pathOf environment value = .ok (some place)) :
    placeOf environment place = .ok place := by
  have of_map {other : Path} (mapped : some <$> placeOf environment other = .ok (some place)) :
      placeOf environment place = .ok place := by
    cases looked : placeOf environment other with
    | error _ => simp [looked, Functor.map, Except.map] at mapped
    | ok result =>
      rw [looked] at mapped
      cases mapped
      exact placeOf_placeOf written looked
  unfold pathOf at found
  split at found
  · exact of_map found
  · unfold pathOfDatum at found
    split at found
    · cases found
    · dsimp only at found
      split at found
      · cases found
      · cases found
      · exact of_map found
    · split at found
      · cases found
      · split at found
        · exact of_map found
        · cases found

end Paths

/-! ## Texts -/

theorem whole_eq_ok {t written : Text} (found : whole t = .ok written) :
    written = t ∧ Text.isWhole t = true := by
  unfold whole at found
  split at found
  next isWhole =>
    cases found
    exact ⟨rfl, isWhole⟩
  next => cases found

theorem isWhole_iff {t : Text} : Text.isWhole t = true ↔ ∀ c ∈ t, isHalf c = false := by
  simp [Text.isWhole]

theorem mem_trimGamePath {t : Text} {c : Char} (member : c ∈ trimGamePath t) :
    c ∈ t ∨ c ∈ ("game" : Text) := by
  unfold trimGamePath at member
  split at member
  · exact .inr member
  next trimmed =>
    have dropped : c ∈ (Text.strip t).reverse :=
      (List.dropWhile_sublist _).mem (List.mem_reverse.mp member)
    exact .inl ((Text.strip_isInfix t).mem (List.mem_reverse.mp dropped))

theorem isWhole_trimGamePath {t : Text} (isWhole : Text.isWhole t = true) :
    Text.isWhole (trimGamePath t) = true := by
  have own : Text.isWhole "game" = true := by decide
  rw [isWhole_iff] at isWhole own ⊢
  intro c member
  rcases mem_trimGamePath member with inText | inDefault
  · exact isWhole c inText
  · exact own c inDefault

theorem isWhole_of_gamePathOf {value : SettingValue} {t : Text}
    (found : gamePathOf value = .ok t) : Text.isWhole t = true := by
  unfold gamePathOf at found
  split at found
  · obtain ⟨rfl, isWhole⟩ := whole_eq_ok found
    exact isWhole
  · obtain ⟨rfl, isWhole⟩ := whole_eq_ok found
    exact isWhole
  · cases found

theorem gamePathOf_text {t : Text} (isWhole : Text.isWhole t = true) :
    gamePathOf (.text t) = .ok (trimGamePath t) := by
  rw [gamePathOf, whole, if_pos (isWhole_trimGamePath isWhole)]

theorem logLevelOf_logLevelOf {value : SettingValue} {level : Text}
    (found : logLevelOf value = .ok level) : logLevelOf (.text level) = .ok level := by
  have levels : ∀ level ∈ logLevels, Text.upper level = level ∧ Text.isWhole level = true := by
    decide +kernel
  have known : logLevels.contains level = true := by
    unfold logLevelOf at found
    split at found
    next t =>
      cases upper : whole (Text.upper t) with
      | error _ => simp [upper, bind, Except.bind] at found
      | ok written =>
        simp only [upper, bind, Except.bind] at found
        split at found
        next known =>
          cases found
          exact known
        next => cases found
    next => cases found
  obtain ⟨same, isWhole⟩ := levels level (List.contains_iff_mem.mp known)
  rw [logLevelOf, whole, same, if_pos isWhole]
  simp only [bind, Except.bind, known, if_true]
  rfl

theorem lowerAfter_eq_self {t : Text}
    (stays : ∀ c ∈ t, c ≠ Text.sigma ∧ Text.lowerChar c = [c]) (cased : Bool) :
    Text.lowerAfter cased t = t := by
  induction t generalizing cased with
  | nil => rfl
  | cons c rest ih =>
    obtain ⟨⟨ne, same⟩, others⟩ := List.forall_mem_cons.mp stays
    rw [Text.lowerAfter, Text.lowerBetween, if_neg (fun both => ne both.1), same, ih others]
    rfl

/-- The letters of the formats, and the long s that counts as one of them. -/
theorem mem_of_foldLongS {t format : Text} (folds : t.map foldLongS = format) {c : Char}
    (member : c ∈ t) : c ∈ '\u017f' :: format := by
  by_cases long : c = '\u017f'
  · exact List.mem_cons.mpr (.inl long)
  · have folded : foldLongS c ∈ format := folds ▸ List.mem_map_of_mem member
    rw [foldLongS, if_neg long] at folded
    exact List.mem_cons_of_mem _ folded

theorem logFormatOf_logFormatOf {value : SettingValue} {format : Text}
    (found : logFormatOf value = .ok format) : logFormatOf (.text format) = .ok format := by
  have letters : logFormats.all (fun name => ('\u017f' :: name).all fun c =>
      c ≠ Text.sigma ∧ Text.lowerChar c = [c] ∧ isHalf c = false) = true := by
    decide +kernel
  simp only [List.all_eq_true, decide_eq_true_eq] at letters
  have known : logFormats.contains (format.map foldLongS) = true := by
    unfold logFormatOf at found
    split at found
    next t =>
      cases lower : whole (Text.lower t) with
      | error _ => simp [lower, bind, Except.bind] at found
      | ok written =>
        simp only [lower, bind, Except.bind] at found
        split at found
        next known =>
          cases found
          exact known
        next => cases found
    next => cases found
  have stays : ∀ c ∈ format, c ≠ Text.sigma ∧ Text.lowerChar c = [c] ∧ isHalf c = false :=
    fun c member => letters _ (List.contains_iff_mem.mp known) c (mem_of_foldLongS rfl member)
  have same : Text.lower format = format :=
    lowerAfter_eq_self (fun c member => ⟨(stays c member).1, (stays c member).2.1⟩) false
  have isWhole := isWhole_iff.mpr fun c member => (stays c member).2.2
  rw [logFormatOf, whole, same, if_pos isWhole]
  simp only [bind, Except.bind, known, if_true]
  rfl

/-! ## Numbers -/

theorem delayOf_delayOf {value : SettingValue} {seconds : Float}
    (found : delayOf value = .ok seconds) : delayOf (.datum (.float seconds)) = .ok seconds := by
  have enough : 0.0 ≤ seconds := by
    unfold delayOf at found
    cases number : numberOf value with
    | error _ => simp [number, bind, Except.bind] at found
    | ok x =>
      simp only [number, bind, Except.bind] at found
      split at found
      next enough =>
        cases found
        exact enough
      next => cases found
  have read : numberOf (.datum (.float seconds)) = .ok seconds := rfl
  rw [delayOf, read]
  simp only [bind, Except.bind, enough, if_true]
  rfl

theorem Field.mem_all (field : Field) : field ∈ all := by cases field <;> decide

namespace Settings

variable {environment : Environment} {field : Field} {value found : SettingValue}

/-! ## Fields -/

/-- What a field makes of a value. -/
def normal (environment : Environment) (field : Field) (value : SettingValue) :
    Checked SettingValue :=
  ((default environment).assign environment value field).map (·.value field)

/-- What a field makes of a value does not depend on the other fields, and they stay. -/
theorem assign_of_normal (valid : normal environment field value = .ok found)
    (settings : Settings) :
    ∃ changed, settings.assign environment value field = .ok changed ∧
      changed.value field = found ∧
      ∀ other, other ≠ field → changed.value other = settings.value other := by
  unfold normal assign at valid
  unfold assign
  simp only [bind, Except.bind] at valid ⊢
  cases field
  case projectRoot =>
    cases rule : pathOf environment value with
    | error _ =>
      rw [rule] at valid
      cases valid
    | ok path? =>
      rw [rule] at valid
      cases path? with
      | none => cases valid
      | some path =>
        cases valid
        refine ⟨_, rfl, rfl, fun other ne => ?_⟩
        cases other <;> first | rfl | exact absurd rfl ne
  all_goals
    dsimp only at valid ⊢
    split at valid
    · cases valid
    · cases valid
      refine ⟨_, rfl, rfl, fun other ne => ?_⟩
      cases other <;> first | rfl | exact absurd rfl ne

/-- What a field makes of a value that it has accepted before. -/
def renewed : Field → SettingValue → SettingValue
  | .gamePath, .text t => .text (trimGamePath t)
  | _, value => value

/-- What a field makes of a value, by the rule of its kind. -/
theorem normal_eq_ok (valid : normal environment field value = .ok found) :
    match field with
    | .projectRoot => ∃ path, pathOf environment value = .ok (some path) ∧ found = .path path
    | .gamePath => ∃ t, gamePathOf value = .ok t ∧ found = .text t
    | .watchDebounceSeconds => ∃ x, delayOf value = .ok x ∧ found = .datum (.float x)
    | .logLevel => ∃ t, logLevelOf value = .ok t ∧ found = .text t
    | .logFormat => ∃ t, logFormatOf value = .ok t ∧ found = .text t
    | .logFile => ∃ path?, pathOf environment value = .ok path? ∧
        found = path?.elim (.datum .null) .path
    | _ => ∃ b, flagOf value = .ok b ∧ found = .bool b := by
  unfold normal assign at valid
  simp only [bind, Except.bind] at valid
  cases field
  case projectRoot =>
    dsimp only at valid ⊢
    cases rule : pathOf environment value with
    | error _ =>
      rw [rule] at valid
      cases valid
    | ok path? =>
      rw [rule] at valid
      cases path? with
      | none => cases valid
      | some path =>
        cases valid
        exact ⟨path, rfl, rfl⟩
  all_goals
    dsimp only at valid ⊢
    split at valid
    · cases valid
    next made rule =>
      cases valid
      exact ⟨made, rule, rfl⟩

/-- A value that a field has accepted is accepted again. -/
theorem normal_of_normal (written : environment.IsWritten)
    (valid : normal environment field value = .ok found) :
    normal environment field found = .ok (renewed field found) := by
  have rule := normal_eq_ok valid
  cases field
  case projectRoot =>
    obtain ⟨path, located, rfl⟩ := rule
    simp only [normal, assign, pathOf, placeOf_of_pathOf written located]
    rfl
  case gamePath =>
    obtain ⟨t, trimmed, rfl⟩ := rule
    simp only [normal, assign, gamePathOf_text (isWhole_of_gamePathOf trimmed)]
    rfl
  case watchDebounceSeconds =>
    obtain ⟨x, waits, rfl⟩ := rule
    simp only [normal, assign, delayOf_delayOf waits]
    rfl
  case logLevel =>
    obtain ⟨level, known, rfl⟩ := rule
    simp only [normal, assign, logLevelOf_logLevelOf known]
    rfl
  case logFormat =>
    obtain ⟨format, known, rfl⟩ := rule
    simp only [normal, assign, logFormatOf_logFormatOf known]
    rfl
  case logFile =>
    obtain ⟨path?, located, rfl⟩ := rule
    cases path? with
    | none => rfl
    | some path =>
      simp only [normal, assign, Option.elim, pathOf, placeOf_of_pathOf written located]
      rfl
  all_goals
    obtain ⟨b, -, rfl⟩ := rule
    rfl

/-- So are the defaults, which stay as they are. -/
theorem normal_default (written : environment.IsWritten) (field : Field) :
    normal environment field ((default environment).value field) =
      .ok ((default environment).value field) := by
  cases field
  case projectRoot =>
    simp only [normal, assign, default, value, pathOf, placeOf_directory written]
    rfl
  case watchDebounceSeconds =>
    have enough : (0.0 : Float) ≤ 0.5 := by decide +kernel
    have waits : delayOf (.datum (.float 0.5)) = .ok 0.5 := by
      rw [delayOf, show numberOf (.datum (.float 0.5)) = .ok 0.5 from rfl]
      simp only [bind, Except.bind, enough, if_true]
      rfl
    simp only [normal, assign, default, value, waits]
    rfl
  case logLevel =>
    have upper : Text.upper "WARNING" = "WARNING" := by decide +kernel
    have known : logLevelOf (.text "WARNING") = .ok "WARNING" := by
      rw [logLevelOf, upper]
      rfl
    simp only [normal, assign, default, value, known]
    rfl
  case logFormat =>
    have lower : Text.lower "console" = "console" := by decide +kernel
    have known : logFormatOf (.text "console") = .ok "console" := by
      rw [logFormatOf, lower]
      rfl
    simp only [normal, assign, default, value, known]
    rfl
  all_goals rfl

theorem renewed_default (field : Field) :
    renewed field ((default environment).value field) = (default environment).value field := by
  cases field <;> rfl

/-! ## All fields together -/

/-- Every value of the source is accepted. -/
def Accepts (environment : Environment) (source : Source) : Prop :=
  ∀ field value, source field = some value → ∃ found, normal environment field value = .ok found

theorem accepts_iff {source : Source} : Accepts environment source ↔
    ∀ field ∈ Field.all, (source field).all fun value => (normal environment field value).isOk := by
  have isOk_iff {checked : Checked SettingValue} :
      checked.isOk = true ↔ ∃ found, checked = .ok found := by
    cases checked <;> simp [Except.isOk, Except.toBool]
  simp only [Accepts, Field.mem_all, true_implies, Option.all_eq_true, isOk_iff]

instance {source : Source} : Decidable (Accepts environment source) :=
  decidable_of_iff' _ accepts_iff

theorem Accepts.orElse {first second : Source} (accepts : Accepts environment first)
    (others : Accepts environment second) : Accepts environment (first.orElse second) := by
  intro field value found
  rcases Option.or_eq_some_iff.mp found with here | ⟨-, there⟩
  · exact accepts field value here
  · exact others field value there

/-- What a field holds: what it makes of the value that the source gives, and else its default. -/
def Stands (environment : Environment) (source : Source) (field : Field) (found : SettingValue) :
    Prop :=
  match source field with
  | some value => normal environment field value = .ok found
  | none => found = (default environment).value field

/-- Settings that can be given again as a whole. -/
def IsStable (environment : Environment) (settings : Settings) : Prop :=
  ∀ field, normal environment field (settings.value field) =
    .ok (renewed field (settings.value field))

variable {source : Source}

theorem stands_congr {other : Source} (same : source field = other field) :
    Stands environment source field found ↔ Stands environment other field found := by
  rw [Stands, Stands, same]

theorem normal_of_stands (written : environment.IsWritten)
    (stands : Stands environment source field found) :
    normal environment field found = .ok (renewed field found) := by
  unfold Stands at stands
  split at stands
  next => exact normal_of_normal written stands
  next =>
    subst stands
    rw [normal_default written, renewed_default]

theorem IsStable.accepts {settings : Settings} (stable : settings.IsStable environment) :
    Accepts environment (.ofSettings settings) := by
  intro field value found
  cases found
  exact ⟨_, stable field⟩

theorem foldl_buildStep (accepts : Accepts environment source) {fields : List Field}
    (distinct : fields.Nodup) (settings : Settings) :
    ∃ built, fields.foldl (buildStep environment source) (settings, []) = (built, []) ∧
      (∀ field ∈ fields, ∀ value, source field = some value →
        normal environment field value = .ok (built.value field)) ∧
      ∀ field, field ∉ fields ∨ source field = none →
        built.value field = settings.value field := by
  induction fields generalizing settings with
  | nil => exact ⟨settings, rfl, by simp, fun _ _ => rfl⟩
  | cons first rest ih =>
    obtain ⟨once, distinct⟩ := List.nodup_cons.mp distinct
    rw [List.foldl_cons]
    cases there : source first with
    | none =>
      obtain ⟨built, folds, given, left⟩ := ih distinct settings
      have step : buildStep environment source (settings, []) first = (settings, []) := by
        simp [buildStep, there]
      refine ⟨built, by rw [step, folds], ?_, fun field silent => left field ?_⟩
      · intro field member value found
        rcases List.mem_cons.mp member with rfl | later
        · rw [there] at found
          cases found
        · exact given field later value found
      · exact silent.imp_left fun absent => mt (List.mem_cons_of_mem _) absent
    | some value =>
      obtain ⟨found, valid⟩ := accepts first value there
      obtain ⟨changed, assigned, own, others⟩ := assign_of_normal valid settings
      obtain ⟨built, folds, given, left⟩ := ih distinct changed
      have step : buildStep environment source (settings, []) first = (changed, []) := by
        simp [buildStep, there, assigned]
      refine ⟨built, by rw [step, folds], ?_, ?_⟩
      · intro field member other foundToo
        rcases List.mem_cons.mp member with rfl | later
        · rw [there] at foundToo
          cases foundToo
          rw [left field (.inl once), own, valid]
        · exact given field later other foundToo
      · intro field silent
        have ne : field ≠ first := by
          rintro rfl
          rcases silent with absent | nothing
          · exact absent List.mem_cons_self
          · rw [there] at nothing
            cases nothing
        rw [left field (silent.imp_left fun absent => mt (List.mem_cons_of_mem _) absent),
          others field ne]

/-- Values that are accepted one by one are accepted together. -/
theorem build_of_accepts (accepts : Accepts environment source) :
    ∃ settings, build environment source = .ok settings ∧
      ∀ field, Stands environment source field (settings.value field) := by
  have distinct : Field.all.Nodup := by decide
  obtain ⟨built, folds, given, left⟩ := foldl_buildStep accepts distinct (default environment)
  refine ⟨built, by simp [build, folds], fun field => ?_⟩
  unfold Stands
  split
  next value there => exact given field field.mem_all value there
  next nothing => exact left field (.inr nothing)

end Settings

end SceneScript
