import Mathlib.Data.List.DropRight
import SceneScript.Proofs.Settings.Precedence

/-! # What overrides leave alone

Overrides are applied to settings as a whole, and so every field is validated once more. All fields
but one keep a value that they accepted before. The game path loses its separators after its blanks,
so that it may end in a blank, which it loses when it is validated again.

* `trimGamePath_trimGamePath_iff` — when a game path is trimmed for good;
* `Settings.accepts_of_build` — settings that were built have refused no value;
* `Surroundings.override_eq_ok` — what becomes of the fields that no override replaces;
* `Surroundings.forCommand_frame` — which fields keep their values, for all overrides.
-/

namespace SceneScript

/-! ## Game paths -/

theorem trimmedStart_trimGamePath (t : Text) : (trimGamePath t).TrimmedStart := by
  unfold trimGamePath
  split
  · decide
  next trimmed kept =>
    have front : ((Text.strip t).reverse.dropWhile isSeparator).reverse <+: Text.strip t := by
      rw [← List.reverse_suffix, List.reverse_reverse]
      exact List.dropWhile_suffix _
    have start := (Text.trimmed_strip t).start
    obtain ⟨rest, same⟩ := front
    rw [← same] at start
    cases first : ((Text.strip t).reverse.dropWhile isSeparator).reverse with
    | nil => exact absurd first kept
    | cons c others =>
      rw [first] at start
      exact start

/-- No separator is left at the end. -/
theorem dropWhile_reverse_trimGamePath (t : Text) :
    (trimGamePath t).reverse.dropWhile isSeparator = (trimGamePath t).reverse := by
  unfold trimGamePath
  split
  · decide
  · rw [List.reverse_reverse, List.dropWhile_idempotent]

theorem trimGamePath_ne_nil (t : Text) : trimGamePath t ≠ [] := by
  unfold trimGamePath
  split
  · decide
  next kept => exact kept

/-- A game path that was trimmed is trimmed once more just when it ends in a blank. -/
theorem trimGamePath_trimGamePath_iff {t : Text} :
    trimGamePath (trimGamePath t) = trimGamePath t ↔ (trimGamePath t).TrimmedEnd := by
  have start := trimmedStart_trimGamePath t
  have noSeparator := dropWhile_reverse_trimGamePath t
  have nonempty := trimGamePath_ne_nil t
  generalize trimGamePath t = path at start noSeparator nonempty
  constructor
  · intro same
    unfold trimGamePath at same
    split at same
    · rw [← same]
      exact (Text.trimmed_of_no_blank (by decide)).finish
    · -- What is left of the path is the path, so that nothing was stripped.
      have front : path <+: Text.strip path := by
        rw [← same, ← List.reverse_suffix, List.reverse_reverse, same]
        exact List.dropWhile_suffix _
      have whole : Text.strip path = path :=
        (Text.strip_isInfix path).eq_of_length_le front.length_le
      rw [← whole]
      exact (Text.trimmed_strip path).finish
  · intro finish
    have stripped : Text.strip path = path := Text.strip_eq_self ⟨start, finish⟩
    unfold trimGamePath
    rw [stripped, noSeparator, List.reverse_reverse]
    split
    · exact absurd rfl nonempty
    · rfl

/-! ## Settings that were built -/

namespace Settings

variable {environment : Environment} {field : Field} {value found : SettingValue}
  {source : Source} {settings : Settings}

/-- Whether a field accepts a value, and what it makes of it, does not depend on the settings. -/
theorem map_assign (settings : Settings) (value : SettingValue) (field : Field) :
    (settings.assign environment value field).map (·.value field) =
      normal environment field value := by
  unfold normal assign
  cases field
  case projectRoot =>
    cases located : pathOf environment value with
    | error _ => rfl
    | ok path? => cases path? <;> rfl
  all_goals
    simp only [bind, Except.bind]
    split <;> rfl

theorem of_foldl_buildStep {fields : List Field}
    {found : Settings × List (Field × FieldFault)}
    (fine : (fields.foldl (buildStep environment source) found).2 = []) :
    found.2 = [] ∧ ∀ field ∈ fields, ∀ value, source field = some value →
      ∃ made, normal environment field value = .ok made := by
  induction fields generalizing found with
  | nil => exact ⟨fine, by simp⟩
  | cons first rest ih =>
    obtain ⟨clean, others⟩ := ih fine
    unfold buildStep at clean
    split at clean
    next silent =>
      refine ⟨clean, List.forall_mem_cons.mpr ⟨fun value there => ?_, others⟩⟩
      rw [silent] at there
      cases there
    next value there =>
      split at clean
      next settings assigned =>
        refine ⟨clean, List.forall_mem_cons.mpr ⟨fun other thereToo => ?_, others⟩⟩
        rw [there] at thereToo
        cases thereToo
        exact ⟨settings.value first, by rw [← map_assign found.1, assigned]; rfl⟩
      next fault refused => simp at clean

/-- Settings that were built have refused no value. -/
theorem accepts_of_build (built : build environment source = .ok settings) :
    Accepts environment source := by
  unfold build at built
  dsimp only at built
  split at built
  · cases built
  · split at built
    · cases built
    next fine =>
      have noFault := not_not.mp fine
      exact fun field value there => (of_foldl_buildStep noFault).2 field field.mem_all value there

theorem stands_of_build (built : build environment source = .ok settings) (field : Field) :
    Stands environment source field (settings.value field) := by
  obtain ⟨again, builtToo, stands⟩ := build_of_accepts (accepts_of_build built)
  cases built.symm.trans builtToo
  exact stands field

/-! ## Values that stay -/

/-- The value is not a game path that ends in a blank. -/
def Lasts (field : Field) (value : SettingValue) : Prop :=
  ∀ path, field = .gamePath → value = .text path → path.TrimmedEnd

theorem exists_eq_trimGamePath (valid : normal environment .gamePath value = .ok found) :
    ∃ t, found = .text (trimGamePath t) := by
  obtain ⟨path, trimmed, rfl⟩ := normal_eq_ok valid
  unfold gamePathOf at trimmed
  split at trimmed
  · exact ⟨_, congrArg _ (whole_eq_ok trimmed).1⟩
  · exact ⟨_, congrArg _ (whole_eq_ok trimmed).1⟩
  · cases trimmed

/-- Of the values that fields have accepted, just those that last are accepted as they are. -/
theorem renewed_eq_self_iff (valid : normal environment field value = .ok found) :
    renewed field found = found ↔ Lasts field found := by
  by_cases isPath : field = .gamePath
  · subst isPath
    obtain ⟨t, rfl⟩ := exists_eq_trimGamePath valid
    have lasts : Lasts .gamePath (.text (trimGamePath t)) ↔ (trimGamePath t).TrimmedEnd :=
      ⟨fun lasts => lasts _ rfl rfl, fun trimmed path _ same => by cases same; exact trimmed⟩
    rw [lasts, ← trimGamePath_trimGamePath_iff]
    exact ⟨BetweenFiles.text_inj, congrArg SettingValue.text⟩
  · have stays : renewed field found = found := by
      cases field <;> first | rfl | exact absurd rfl isPath
    exact iff_of_true stays fun path same => absurd same isPath

theorem renewed_eq_self_of_stands (stands : Stands environment source field found) :
    renewed field found = found ↔ Lasts field found := by
  unfold Stands at stands
  split at stands
  next value _ => exact renewed_eq_self_iff stands
  next =>
    subst stands
    have usual : Text.TrimmedEnd "game" := (Text.trimmed_of_no_blank (by decide)).finish
    refine iff_of_true (renewed_default field) fun path same itsText => ?_
    subst same
    cases itsText
    exact usual

end Settings

namespace Surroundings

variable {surroundings : Surroundings} {given overrides : Given} {settings changed : Settings}
  {configFile : Option Path}

/-! ## Settings that were loaded -/

/-- What is given comes first, whatever the given values say on where else to look. -/
theorem sources_eq_ok {source : Source} (found : surroundings.sources given = .ok source)
    {field : Field} {value : SettingValue} (there : Source.ofGiven given field = some value) :
    source field = some value := by
  unfold sources at found
  simp only [bind, Except.bind] at found
  split at found
  · cases found
  split at found
  · cases found
  split at found
  · cases found
  cases found
  simp only [Source.orElse, there, Option.some_or]

theorem load_eq_ok (loaded : surroundings.load given = .ok settings) :
    ∃ source, surroundings.sources given = .ok source ∧
      ∀ field, Settings.Stands surroundings.environment source field (settings.value field) := by
  unfold load loadSet at loaded
  cases found : surroundings.sources given with
  | error fault =>
    rw [found] at loaded
    cases loaded
  | ok source =>
    simp only [found, bind, Except.bind] at loaded
    cases built : Settings.build surroundings.environment source with
    | error fault =>
      rw [built] at loaded
      cases loaded
    | ok result =>
      rw [built] at loaded
      cases loaded
      exact ⟨source, rfl, Settings.stands_of_build built⟩

theorem isStable_of_load (written : surroundings.environment.IsWritten)
    (loaded : surroundings.load given = .ok settings) :
    settings.IsStable surroundings.environment := by
  obtain ⟨_, -, stands⟩ := load_eq_ok loaded
  exact fun field => Settings.normal_of_stands written (stands field)

/-- Values that are given without a word on where to look have loaded the usual file. -/
theorem exists_environmentFiles (plain : given.IsPlain)
    (loaded : surroundings.load given = .ok settings) :
    ∃ inFile, surroundings.environmentFiles {} = .ok inFile := by
  obtain ⟨source, found, -⟩ := load_eq_ok loaded
  cases inFiles : surroundings.environmentFiles {} with
  | ok inFile => exact ⟨inFile, rfl⟩
  | error fault =>
    rw [sources, Lookup.ofGiven_of_isPlain _ plain] at found
    simp only [Except.mapError, bind, Except.bind, inFiles] at found
    cases found

/-! ## Settings for a command -/

/-- The overrides come after everything else. -/
theorem forCommand_eq (configFile : Option Path) (overrides : Given) :
    surroundings.forCommand configFile overrides =
      surroundings.forCommand configFile ∅ >>= surroundings.override overrides := by
  unfold forCommand
  cases configFile with
  | none =>
    simp only [bind, Except.bind]
    cases surroundings.standard <;> rfl
  | some path =>
    simp only [bind, Except.bind]
    cases surroundings.isPresent path with
    | error _ => rfl
    | ok present =>
      cases present with
      | false => rfl
      | true =>
        dsimp only
        unfold loadFiles
        simp only [bind, Except.bind]
        cases surroundings.fileSource [path] with
        | error _ => rfl
        | ok set =>
          dsimp only
          cases surroundings.load set.toGiven <;> rfl

theorem exists_load_of_loadFiles {paths : List Path}
    (loaded : surroundings.loadFiles paths ∅ = .ok settings) :
    ∃ given : Given, given.IsPlain ∧ surroundings.load given = .ok settings := by
  unfold loadFiles at loaded
  simp only [bind, Except.bind] at loaded
  split at loaded
  · cases loaded
  next set _ =>
    split at loaded
    · cases loaded
    next result here =>
      cases loaded
      exact ⟨set.toGiven, set.isPlain_toGiven, here⟩

/-- In the end settings are loaded from values that say nothing on where to look. -/
theorem exists_load_of_forCommand (base : surroundings.forCommand configFile ∅ = .ok settings) :
    ∃ given : Given, given.IsPlain ∧ surroundings.load given = .ok settings := by
  unfold forCommand at base
  cases configFile with
  | none =>
    unfold standard at base
    simp only [bind, Except.bind] at base
    cases usual : surroundings.usualFiles with
    | error _ =>
      rw [usual] at base
      cases base
    | ok paths =>
      rw [usual] at base
      cases paths with
      | nil =>
        dsimp only at base
        cases loaded : surroundings.load ∅ with
        | error _ =>
          rw [loaded] at base
          cases base
        | ok result =>
          rw [loaded] at base
          cases base
          exact ⟨∅, fun _ _ => rfl, loaded⟩
      | cons path rest =>
        dsimp only at base
        cases loaded : surroundings.loadFiles (path :: rest) ∅ with
        | error _ =>
          rw [loaded] at base
          cases base
        | ok result =>
          rw [loaded] at base
          cases base
          exact exists_load_of_loadFiles loaded
  | some path =>
    simp only [bind, Except.bind] at base
    split at base
    · cases base
    · split at base
      · cases base
      · exact exists_load_of_loadFiles base

theorem forCommand_eq_ok (base : surroundings.forCommand configFile ∅ = .ok settings) :
    surroundings.forCommand configFile overrides = .ok changed ↔
      surroundings.override overrides settings = .ok changed := by
  rw [forCommand_eq, base]
  rfl

/-! ## Fields without an override -/

/-- What becomes of the fields that no override replaces, whatever else the overrides say. -/
theorem override_eq_ok (stable : settings.IsStable surroundings.environment)
    (distinct : overrides.keys.Nodup)
    (overridden : surroundings.override overrides settings = .ok changed) {field : Field}
    (left : overrides.chosen field = none) :
    changed.value field =
      if overrides.overrides.isEmpty then settings.value field
      else Settings.renewed field (settings.value field) := by
  unfold override at overridden
  cases empty : overrides.overrides.isEmpty with
  | true =>
    rw [if_pos empty] at overridden
    cases overridden
    rfl
  | false =>
    rw [empty] at overridden
    obtain ⟨source, found, stands⟩ := load_eq_ok overridden
    have given : Source.ofGiven
        ((Source.ofSettings settings).toGiven.merge overrides.overrides) field =
          some (settings.value field) := by
      rw [Source.ofGiven_merge _ (Given.nodup_keys_overrides distinct),
        Given.ofGiven_overrides distinct, Source.ofGiven_toGiven, Source.orElse, left]
      rfl
    -- The value that the field had is the one that is validated now.
    have again := stands field
    rw [Settings.Stands, sources_eq_ok found given] at again
    exact Except.ok.inj (again.symm.trans (stable field))

/-- The fields that no override replaces keep the values of the settings without overrides, but a
game path that ends in a blank does not: it loses the blank when it is validated again. Overrides
that are valid are always applied. Of the values that a field has accepted, just the others are
accepted as they are. -/
theorem forCommand_frame (written : surroundings.environment.IsWritten)
    (base : surroundings.forCommand configFile ∅ = .ok settings)
    (distinct : overrides.keys.Nodup) :
    (∀ changed, surroundings.forCommand configFile overrides = .ok changed →
      ∀ field, overrides.chosen field = none →
        (changed.value field =
          if overrides.overrides.isEmpty then settings.value field
          else Settings.renewed field (settings.value field)) ∧
        (changed.value field = settings.value field ↔
          overrides.overrides.isEmpty ∨ Settings.Lasts field (settings.value field))) ∧
    (overrides.overrides.IsPlain →
      Settings.Accepts surroundings.environment overrides.chosen →
      ∃ changed, surroundings.forCommand configFile overrides = .ok changed ∧
        ∀ field value, overrides.chosen field = some value →
          Settings.normal surroundings.environment field value = .ok (changed.value field)) ∧
    (∀ field value found, Settings.normal surroundings.environment field value = .ok found →
      (Settings.normal surroundings.environment field found = .ok found ↔
        Settings.Lasts field found)) := by
  obtain ⟨given, plainGiven, loaded⟩ := exists_load_of_forCommand base
  have stable := isStable_of_load written loaded
  refine ⟨fun changed overridden field left => ?_, fun plain accepts => ?_, ?_⟩
  · have own := override_eq_ok stable distinct ((forCommand_eq_ok base).mp overridden) left
    refine ⟨own, ?_⟩
    rw [own]
    cases overrides.overrides.isEmpty with
    | true => simp
    | false =>
      simp only [Bool.false_eq_true, if_false, false_or]
      obtain ⟨source, -, stands⟩ := load_eq_ok loaded
      exact Settings.renewed_eq_self_of_stands (stands field)
  · obtain ⟨inFile, dotEnv⟩ := exists_environmentFiles plainGiven loaded
    obtain ⟨changed, overridden, own⟩ :=
      override_of_isStable stable dotEnv distinct plain accepts
    exact ⟨changed, (forCommand_eq_ok base).mpr overridden, fun field => (own field).1⟩
  · intro field value found valid
    rw [Settings.normal_of_normal written valid, ← Settings.renewed_eq_self_iff valid]
    exact ⟨Except.ok.inj, congrArg Except.ok⟩

end Surroundings

/-! ## A blank before a separator -/

namespace BlankEnd

/-- A variable sets a game path that has a blank before the separator at its end. -/
def surroundings : Surroundings where
  environment :=
    { bindings := .ofList [("HOME", "/h"), ("GALSCRIPT_GAME_PATH", "a /")]
      workingDirectory := ["w"] }
  disk := ⟨.ofList [(["w"], .directory)], ["w"]⟩

def settings : Settings := { projectRoot := ⟨.root, ["w"]⟩, gamePath := "a " }

def overrides : Given := .ofList [("debug", .bool true), ("log_level", .datum .null)]

theorem isWritten : surroundings.environment.IsWritten := ⟨by decide, by decide⟩

theorem forCommand_empty : surroundings.forCommand none ∅ = .ok settings := rfl

/-- An override of another field takes the blank away and leaves the log level alone. -/
theorem forCommand_debug :
    ∃ changed, surroundings.forCommand none overrides = .ok changed ∧
      changed.value .debug = .bool true ∧ changed.value .gamePath = .text "a" ∧
      changed.value .logLevel = settings.value .logLevel := by
  obtain ⟨frame, applied, -⟩ :=
    Surroundings.forCommand_frame isWritten forCommand_empty
      (show overrides.keys.Nodup by decide)
  obtain ⟨changed, overridden, own⟩ := applied (by decide) (by decide +kernel)
  refine ⟨changed, overridden, ?_, ?_, ?_⟩
  · exact (Except.ok.inj (own .debug (.bool true) rfl)).symm
  · exact (frame changed overridden .gamePath rfl).1
  · exact (frame changed overridden .logLevel rfl).2.mpr (.inr nofun)

/-- It is not the case that every field without an override keeps its value. -/
theorem not_forall_field_stays :
    ¬ ∀ (surroundings : Surroundings) (configFile : Option Path) (overrides : Given)
      (settings changed : Settings), surroundings.environment.IsWritten →
      surroundings.forCommand configFile ∅ = .ok settings → overrides.keys.Nodup →
      surroundings.forCommand configFile overrides = .ok changed →
      ∀ field, overrides.chosen field = none → changed.value field = settings.value field := by
  intro law
  have withoutBlank : (surroundings.forCommand none overrides).toOption.map (·.gamePath) =
      some ("a" : Text) := by
    decide +kernel
  cases overridden : surroundings.forCommand none overrides with
  | error fault =>
    rw [overridden] at withoutBlank
    cases withoutBlank
  | ok changed =>
    have same := law surroundings none overrides settings changed isWritten forCommand_empty
      (by decide) overridden .gamePath rfl
    have path : changed.gamePath = "a " := BetweenFiles.text_inj same
    rw [overridden, Except.toOption, Option.map_some, path] at withoutBlank
    exact absurd withoutBlank (by decide)

end BlankEnd

end SceneScript
