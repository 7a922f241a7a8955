import Mathlib.Data.List.Induction
import Mathlib.Logic.Function.Iterate
import SceneScript.Proofs.Settings.Renewal
import SceneScript.Settings.Sources

/-! # Which value counts

Every file is loaded together with the variables, and what that gives as a whole comes before the
files so far. So the last file that sets a field counts, and then the variables, but for fields that
the last file leaves out.

* `Surroundings.ambient` — the variables of the process and of the usual file;
* `Surroundings.Reads` — what the files hold that exist;
* `Source.lastOf` — the values of the last files that set them;
* `Source.Shadowed` — a variable comes between the last file and an earlier one;
* `Surroundings.loadFiles_precedence` — which value counts for each field.
-/

namespace SceneScript

/-! ## Given values -/

/-- The names by which given values ask for another lookup. -/
def Lookup.names : List Text :=
  [selfName, "_env_nested_max_split", "_env_prefix", "_env_file", "_env_file_encoding",
   "_secrets_dir", "_env_parse_none_str", "_case_sensitive", "_env_ignore_empty"]

/-- No other lookup is asked for. -/
def Given.IsPlain (given : Given) : Prop := ∀ name ∈ Lookup.names, given.get? name = none

theorem Given.isPlain_iff {given : Given} :
    given.IsPlain ↔ ∀ name ∈ Lookup.names, (given.get? name).isNone = true := by
  simp only [IsPlain, Option.isNone_iff_eq_none]

instance {given : Given} : Decidable given.IsPlain := decidable_of_iff' _ Given.isPlain_iff

theorem Lookup.ofGiven_of_isPlain (environment : Environment) {given : Given}
    (plain : given.IsPlain) : ofGiven environment given = .ok {} := by
  simp only [Given.IsPlain, names, List.forall_mem_cons] at plain
  obtain ⟨self, split, start, files, encoding, secrets, nullWord, caseMatters, empty, -⟩ := plain
  have unasked {name : Text} (absent : given.get? name = none) : value? given name = none := by
    rw [value?, absent]
    rfl
  simp only [ofGiven, checkSelf, checkSplit, startOf, filesOf, encodingOf, holds,
    OrderedMap.contains, self, files, unasked split, unasked start, unasked encoding,
    unasked secrets, unasked nullWord, unasked caseMatters, unasked empty]
  rfl

theorem Field.name_inj {field other : Field} (same : field.name = other.name) : field = other := by
  revert same
  cases field <;> cases other <;> decide

theorem Field.name_notMem (field : Field) : field.name ∉ Lookup.names := by
  cases field <;> decide

section ToGiven

variable (source : Source)

theorem Source.mem_entries {fields : List Field} {key : Text} {value : SettingValue} :
    (key, value) ∈ fields.filterMap (fun field => (source field).map (field.name, ·)) ↔
      ∃ field ∈ fields, source field = some value ∧ field.name = key := by
  rw [List.mem_filterMap]
  constructor
  · rintro ⟨field, member, found⟩
    obtain ⟨_, there, same⟩ := Option.map_eq_some_iff.mp found
    cases same
    exact ⟨field, member, there, rfl⟩
  · rintro ⟨field, member, there, rfl⟩
    exact ⟨field, member, by rw [there, Option.map_some]⟩

theorem Source.keys_sublist (fields : List Field) :
    (OrderedMap.keys ⟨fields.filterMap fun field => (source field).map (field.name, ·)⟩).Sublist
      (fields.map Field.name) := by
  induction fields with
  | nil => exact List.Sublist.slnil
  | cons field rest ih =>
    cases value : source field with
    | none => simpa [OrderedMap.keys, value] using ih.cons field.name
    | some _ => simpa [OrderedMap.keys, value] using ih

theorem Source.distinct :
    (OrderedMap.keys ⟨Field.all.filterMap fun field =>
      (source field).map (field.name, ·)⟩).Nodup := by
  have names : (Field.all.map Field.name).Nodup := by decide
  exact names.sublist (source.keys_sublist _)

theorem Source.mem_toGiven {key : Text} {value : SettingValue} :
    source.toGiven.get? key = some value ↔
      ∃ field, source field = some value ∧ field.name = key := by
  have entries : source.toGiven = ⟨Field.all.filterMap fun field =>
      (source field).map (field.name, ·)⟩ := OrderedMap.ofList_entries source.distinct
  rw [entries, OrderedMap.get?_eq_some_iff source.distinct, mem_entries]
  simp only [Field.mem_all, true_and]

theorem Source.get?_toGiven (field : Field) : source.toGiven.get? field.name = source field := by
  refine Option.ext fun value => ?_
  rw [mem_toGiven]
  constructor
  · rintro ⟨other, there, same⟩
    rwa [← Field.name_inj same]
  · exact fun there => ⟨field, there, rfl⟩

theorem Source.ofGiven_toGiven : Source.ofGiven source.toGiven = source :=
  funext source.get?_toGiven

theorem Source.isPlain_toGiven : source.toGiven.IsPlain := by
  intro name special
  refine Option.eq_none_iff_forall_ne_some.mpr fun value found => ?_
  obtain ⟨field, -, rfl⟩ := source.mem_toGiven.mp found
  exact field.name_notMem special

end ToGiven

namespace Surroundings

variable {surroundings : Surroundings}

/-! ## Variables -/

/-- The variables of the process, and then those of the usual file. -/
def ambient (surroundings : Surroundings) (inFile : Source) : Source :=
  (({} : Lookup).source (surroundings.environment.bindings.mapValues some)).orElse inFile

/-- Where nobody asks for secrets there are none. -/
theorem secrets_standard : surroundings.secrets {} = .ok Source.empty := by
  refine congrArg Except.ok (funext fun field => ?_)
  cases field <;> rfl

theorem sources_of_isPlain {inFile : Source}
    (dotEnv : surroundings.environmentFiles {} = .ok inFile) {given : Given}
    (plain : given.IsPlain) :
    surroundings.sources given =
      .ok ((Source.ofGiven given).orElse (surroundings.ambient inFile)) := by
  rw [sources, Lookup.ofGiven_of_isPlain _ plain]
  simp only [Except.mapError, bind, Except.bind, dotEnv, secrets_standard]
  refine congrArg Except.ok (funext fun field => ?_)
  simp only [Source.orElse, Source.empty, ambient, Option.or_none, Option.or_assoc]

/-! ## Loading -/

variable {inFile : Source} {given : Given}

/-- Values that are accepted are loaded. -/
theorem loadSet_of_accepts (dotEnv : surroundings.environmentFiles {} = .ok inFile)
    (plain : given.IsPlain)
    (accepts : Settings.Accepts surroundings.environment
      ((Source.ofGiven given).orElse (surroundings.ambient inFile))) :
    ∃ settings,
      surroundings.loadSet given =
        .ok (settings, ((Source.ofGiven given).orElse (surroundings.ambient inFile)).validated
          settings) ∧
      ∀ field, Settings.Stands surroundings.environment
        ((Source.ofGiven given).orElse (surroundings.ambient inFile)) field
        (settings.value field) := by
  obtain ⟨settings, built, stands⟩ := Settings.build_of_accepts accepts
  refine ⟨settings, ?_, stands⟩
  rw [loadSet, sources_of_isPlain dotEnv plain]
  simp only [bind, Except.bind, built]
  rfl

theorem load_of_accepts (dotEnv : surroundings.environmentFiles {} = .ok inFile)
    (plain : given.IsPlain)
    (accepts : Settings.Accepts surroundings.environment
      ((Source.ofGiven given).orElse (surroundings.ambient inFile))) :
    ∃ settings, surroundings.load given = .ok settings ∧
      ∀ field, Settings.Stands surroundings.environment
        ((Source.ofGiven given).orElse (surroundings.ambient inFile)) field
        (settings.value field) := by
  obtain ⟨settings, loaded, stands⟩ := loadSet_of_accepts dotEnv plain accepts
  exact ⟨settings, by rw [load, loaded]; rfl, stands⟩

/-! ## Files -/

/-- The values that a file gives. -/
def readGiven (surroundings : Surroundings) (path : Path) : Except ConfigFault Given := do
  if !(← surroundings.isPresent path) then
    throw (.missing ("Configuration file not found: " ++ path.toText))
  let suffix := Text.lower path.suffix
  match ConfigFormat.suffixes.lookup suffix with
  | none => throw (.advice (unsupportedFormat path suffix))
  | some format => Given.ofContent (← format.read (← surroundings.readFile path))

theorem loadFile_eq (surroundings : Surroundings) (path : Path) :
    surroundings.loadFile path = surroundings.readGiven path >>= surroundings.loadSet := by
  unfold loadFile readGiven
  cases surroundings.isPresent path with
  | error _ => rfl
  | ok present =>
    cases present with
    | false => rfl
    | true =>
      dsimp only [bind, Except.bind]
      cases ConfigFormat.suffixes.lookup (Text.lower path.suffix) with
      | none => rfl
      | some format =>
        dsimp only
        cases surroundings.readFile path with
        | error _ => rfl
        | ok content =>
          dsimp only
          cases format.read content <;> rfl

theorem readGiven_json {path : Path} {content : Text} {data : Datum} {given : Given}
    (present : surroundings.isPresent path = .ok true)
    (suffix : ConfigFormat.suffixes.lookup (Text.lower path.suffix) = some .json)
    (read : surroundings.readFile path = .ok content)
    (parsed : Json.parse (Text.unifyNewlines content) = .ok data)
    (gives : Given.ofContent data = .ok given) : surroundings.readGiven path = .ok given := by
  simp only [readGiven, present, suffix, read, ConfigFormat.read, parsed, Except.mapError, bind,
    Except.bind]
  exact gives

/-- What the files hold that exist, in their order. Each of them asks for no other lookup, and its
values are accepted together with the variables. -/
inductive Reads (surroundings : Surroundings) (ambient : Source) :
    List Path → List Given → Prop where
  | nil : Reads surroundings ambient [] []
  | missing {path : Path} {message : Text} {paths : List Path} {contents : List Given}
      (absent : surroundings.readGiven path = .error (.missing message))
      (rest : Reads surroundings ambient paths contents) :
      Reads surroundings ambient (path :: paths) contents
  | file {path : Path} {given : Given} {paths : List Path} {contents : List Given}
      (read : surroundings.readGiven path = .ok given) (plain : given.IsPlain)
      (accepts : Settings.Accepts surroundings.environment
        ((Source.ofGiven given).orElse ambient))
      (rest : Reads surroundings ambient paths contents) :
      Reads surroundings ambient (path :: paths) (given :: contents)

end Surroundings

/-! ## What files come to -/

namespace Source

/-- The values of the last files that set them. -/
def lastOf (contents : List Given) : Source := fun field =>
  contents.reverse.findSome? (ofGiven · field)

/-- One more file: its values count before those of the files so far, and so do the variables that
it brings along. -/
def after (ambient : Source) (source : Source) (given : Given) : Source :=
  ((ofGiven given).orElse ambient).orElse source

/-- The values of files, each of which brings the variables along. -/
def ofFiles (ambient : Source) (contents : List Given) : Source :=
  contents.foldl ambient.after empty

/-- The last file leaves the field out and a variable gives it, although an earlier file sets it. -/
def Shadowed (ambient : Source) (contents : List Given) (field : Field) : Prop :=
  ∃ last ∈ contents.getLast?, ofGiven last field = none ∧ ambient field ≠ none ∧
    lastOf contents field ≠ none

instance {ambient : Source} {contents : List Given} {field : Field} :
    Decidable (ambient.Shadowed contents field) :=
  inferInstanceAs (Decidable (∃ last ∈ contents.getLast?, ofGiven last field = none ∧
    ambient field ≠ none ∧ lastOf contents field ≠ none))

variable {ambient : Source} {contents front : List Given} {last : Given} {field : Field}

theorem lastOf_concat :
    lastOf (front ++ [last]) field = (ofGiven last field).or (lastOf front field) := by
  rw [lastOf, List.reverse_concat, List.findSome?_cons]
  cases ofGiven last field <;> rfl

theorem ofFiles_concat :
    ofFiles ambient (front ++ [last]) = ambient.after (ofFiles ambient front) last := by
  rw [ofFiles, List.foldl_append]
  rfl

/-- A variable is brought along by the last file. -/
theorem eq_none_of_ofFiles (nonempty : contents ≠ [])
    (nothing : ofFiles ambient contents field = none) : ambient field = none := by
  rw [← List.dropLast_concat_getLast nonempty, ofFiles_concat] at nothing
  simp only [after, orElse, Option.or_eq_none_iff] at nothing
  exact nothing.1.2

theorem ofFiles_of_eq_none (absent : ambient field = none) :
    ofFiles ambient contents field = lastOf contents field := by
  induction contents using List.reverseRecOn with
  | nil => rfl
  | append_singleton front last ih =>
    rw [ofFiles_concat, lastOf_concat, ← ih]
    simp only [after, orElse, absent, Option.or_none]

theorem orElse_of_not_shadowed (clear : ¬ ambient.Shadowed contents field) :
    ((ofFiles ambient contents).orElse ambient) field =
      ((lastOf contents).orElse ambient) field := by
  by_cases absent : ambient field = none
  · simp only [orElse, ofFiles_of_eq_none absent]
  · cases contents using List.reverseRecOn with
    | nil => rfl
    | append_singleton front last =>
      simp only [orElse, ofFiles_concat, lastOf_concat, after]
      cases own : ofGiven last field with
      | some value => rfl
      | none =>
        have unset : lastOf front field = none := by
          by_contra set
          refine clear ⟨last, List.getLast?_concat, own, absent, ?_⟩
          rwa [lastOf_concat, own]
        obtain ⟨value, there⟩ := Option.ne_none_iff_exists'.mp absent
        rw [unset, there]
        rfl

theorem orElse_of_shadowed (shadowed : ambient.Shadowed contents field) :
    ((ofFiles ambient contents).orElse ambient) field = ambient field := by
  obtain ⟨last, isLast, own, given, -⟩ := shadowed
  obtain ⟨front, rfl⟩ := List.getLast?_eq_some_iff.mp isLast
  obtain ⟨value, there⟩ := Option.ne_none_iff_exists'.mp given
  simp only [orElse, ofFiles_concat, after, own, there]
  rfl

/-- A source has what the fields make of the values of another one. -/
def Normalizes (environment : Environment) (set source : Source) : Prop :=
  ∀ field, (source field = none → set field = none) ∧
    ∀ value, source field = some value →
      ∃ found, set field = some found ∧ Settings.normal environment field value = .ok found

theorem normalizes_empty (environment : Environment) : Normalizes environment empty empty := by
  intro field
  refine ⟨fun _ => rfl, fun value found => ?_⟩
  cases found

theorem Normalizes.after {environment : Environment} {set source : Source}
    {given : Given} {settings : Settings} (normalizes : Normalizes environment set source)
    (stands : ∀ field, Settings.Stands environment ((ofGiven given).orElse ambient) field
      (settings.value field)) :
    Normalizes environment
      ((((ofGiven given).orElse ambient).validated settings).orElse set)
      (ambient.after source given) := by
  intro field
  have own := stands field
  unfold Settings.Stands at own
  simp only [Source.after, orElse, validated] at own ⊢
  cases here : (ofGiven given field).or (ambient field) with
  | none => simpa [here] using normalizes field
  | some value => simpa [here] using own

/-- What has been accepted is accepted again. -/
theorem Normalizes.accepts {environment : Environment} {set source : Source}
    (normalizes : Normalizes environment set source) (written : environment.IsWritten) :
    Settings.Accepts environment set := by
  intro field value there
  cases raw : source field with
  | none =>
    rw [(normalizes field).1 raw] at there
    cases there
  | some _ =>
    obtain ⟨found, same, valid⟩ := (normalizes field).2 _ raw
    rw [same] at there
    cases there
    exact ⟨_, Settings.normal_of_normal written valid⟩

end Source

namespace Surroundings

variable {surroundings : Surroundings} {inFile : Source} {paths : List Path}
  {contents : List Given} {overrides : Given}

theorem addFile_of_missing {path : Path} {message : Text}
    (absent : surroundings.readGiven path = .error (.missing message)) (source : Source) :
    surroundings.addFile source path = .ok source := by
  rw [addFile, loadFile_eq, absent]
  rfl

theorem addFile_of_accepts (dotEnv : surroundings.environmentFiles {} = .ok inFile) {path : Path}
    {given : Given} (read : surroundings.readGiven path = .ok given) (plain : given.IsPlain)
    (accepts : Settings.Accepts surroundings.environment
      ((Source.ofGiven given).orElse (surroundings.ambient inFile)))
    {set source : Source} (normalizes : set.Normalizes surroundings.environment source) :
    ∃ result, surroundings.addFile set path = .ok result ∧
      result.Normalizes surroundings.environment
        ((surroundings.ambient inFile).after source given) := by
  obtain ⟨settings, loaded, stands⟩ := loadSet_of_accepts dotEnv plain accepts
  refine ⟨_, ?_, normalizes.after stands⟩
  rw [addFile, loadFile_eq, read]
  simp only [bind, Except.bind, loaded]

theorem foldlM_addFile (dotEnv : surroundings.environmentFiles {} = .ok inFile)
    (reads : surroundings.Reads (surroundings.ambient inFile) paths contents) {set source : Source}
    (normalizes : set.Normalizes surroundings.environment source) :
    ∃ result, paths.foldlM surroundings.addFile set = .ok result ∧
      result.Normalizes surroundings.environment
        (contents.foldl (surroundings.ambient inFile).after source) := by
  induction reads generalizing set source with
  | nil => exact ⟨set, rfl, normalizes⟩
  | missing absent rest ih =>
    obtain ⟨result, folds, normalizesToo⟩ := ih normalizes
    refine ⟨result, ?_, normalizesToo⟩
    rw [List.foldlM_cons, addFile_of_missing absent]
    exact folds
  | file read plain accepts rest ih =>
    obtain ⟨_, added, normalizesOne⟩ := addFile_of_accepts dotEnv read plain accepts normalizes
    obtain ⟨result, folds, normalizesToo⟩ := ih normalizesOne
    refine ⟨result, ?_, normalizesToo⟩
    rw [List.foldlM_cons, added]
    exact folds

theorem fileSource_of_reads (dotEnv : surroundings.environmentFiles {} = .ok inFile)
    (reads : surroundings.Reads (surroundings.ambient inFile) paths contents) :
    ∃ set, surroundings.fileSource paths = .ok set ∧
      set.Normalizes surroundings.environment
        (.ofFiles (surroundings.ambient inFile) contents) :=
  foldlM_addFile dotEnv reads (Source.normalizes_empty _)

/-- The settings after the files. Values of files and what they brought along have been validated
once more. -/
theorem load_fileSource (written : surroundings.environment.IsWritten)
    (dotEnv : surroundings.environmentFiles {} = .ok inFile)
    (accepts : Settings.Accepts surroundings.environment (surroundings.ambient inFile))
    (reads : surroundings.Reads (surroundings.ambient inFile) paths contents) :
    ∃ set settings, surroundings.fileSource paths = .ok set ∧
      surroundings.load set.toGiven = .ok settings ∧
      settings.IsStable surroundings.environment ∧
      ∀ field, ∃ found,
        Settings.Stands surroundings.environment
          ((Source.ofFiles (surroundings.ambient inFile) contents).orElse
            (surroundings.ambient inFile)) field found ∧
        settings.value field =
          (Settings.renewed field)^[if contents = [] then 0 else 1] found := by
  obtain ⟨set, filed, normalizes⟩ := fileSource_of_reads dotEnv reads
  have acceptsToo : Settings.Accepts surroundings.environment
      ((Source.ofGiven set.toGiven).orElse (surroundings.ambient inFile)) := by
    rw [set.ofGiven_toGiven]
    exact (normalizes.accepts written).orElse accepts
  obtain ⟨settings, loaded, stands⟩ := load_of_accepts dotEnv set.isPlain_toGiven acceptsToo
  rw [set.ofGiven_toGiven] at stands
  have stable : settings.IsStable surroundings.environment :=
    fun field => Settings.normal_of_stands written (stands field)
  refine ⟨set, settings, filed, loaded, stable, fun field => ?_⟩
  have own := stands field
  unfold Settings.Stands at own ⊢
  simp only [Source.orElse] at own ⊢
  cases raw : Source.ofFiles (surroundings.ambient inFile) contents field with
  | some value =>
    obtain ⟨found, same, valid⟩ := (normalizes field).2 value raw
    have nonempty : contents ≠ [] := by
      rintro rfl
      cases raw
    rw [same] at own
    refine ⟨found, valid, ?_⟩
    rw [if_neg nonempty]
    exact Except.ok.inj (own.symm.trans (Settings.normal_of_normal written valid))
  | none =>
    rw [(normalizes field).1 raw] at own
    by_cases empty : contents = []
    · exact ⟨settings.value field, own, by rw [if_pos empty]; rfl⟩
    · rw [Source.eq_none_of_ofFiles empty raw] at own ⊢
      refine ⟨settings.value field, own, ?_⟩
      rw [if_neg empty, own]
      exact (Settings.renewed_default field).symm

end Surroundings

/-! ## Overrides -/

/-- The overrides that count: null gives no value. -/
def Given.chosen (overrides : Given) : Source := fun field =>
  (overrides.get? field.name).filter (!·.isNull)

theorem Given.ofGiven_overrides {overrides : Given} (distinct : overrides.keys.Nodup) :
    Source.ofGiven overrides.overrides = overrides.chosen := by
  funext field
  rw [Source.ofGiven, Given.overrides, OrderedMap.get?_filterMap distinct, chosen]
  cases overrides.get? field.name with
  | none => rfl
  | some value => cases null : value.isNull <;> simp [Option.filter, null]

theorem Given.nodup_keys_overrides {overrides : Given} (distinct : overrides.keys.Nodup) :
    overrides.overrides.keys.Nodup :=
  distinct.sublist (OrderedMap.keys_filterMap_sublist _ _)

theorem Given.IsPlain.merge {given other : Given} (plain : given.IsPlain)
    (plainToo : other.IsPlain) (distinct : other.keys.Nodup) :
    Given.IsPlain (given.merge other) := by
  intro name special
  rw [OrderedMap.get?_merge_of_nodup _ distinct, plainToo name special, plain name special]
  rfl

theorem Source.ofGiven_merge (given : Given) {other : Given} (distinct : other.keys.Nodup) :
    ofGiven (given.merge other) = (ofGiven other).orElse (ofGiven given) :=
  funext fun _ => OrderedMap.get?_merge_of_nodup _ distinct _

namespace Surroundings

variable {surroundings : Surroundings} {inFile : Source} {paths : List Path}
  {contents : List Given} {overrides : Given}

/-- Settings with some values replaced. The other values have been validated once more. -/
theorem override_of_isStable {settings : Settings}
    (stable : settings.IsStable surroundings.environment)
    (dotEnv : surroundings.environmentFiles {} = .ok inFile) (distinct : overrides.keys.Nodup)
    (plain : overrides.overrides.IsPlain)
    (accepts : Settings.Accepts surroundings.environment overrides.chosen) :
    ∃ changed, surroundings.override overrides settings = .ok changed ∧
      ∀ field,
        (∀ value, overrides.chosen field = some value →
          Settings.normal surroundings.environment field value = .ok (changed.value field)) ∧
        (overrides.chosen field = none →
          changed.value field =
            (Settings.renewed field)^[if overrides.overrides.isEmpty then 0 else 1]
              (settings.value field)) := by
  have distinctToo := Given.nodup_keys_overrides distinct
  have chosen_eq := Given.ofGiven_overrides distinct
  cases empty : overrides.overrides.isEmpty with
  | true =>
    have nothing (field : Field) : overrides.chosen field = none := by
      rw [← chosen_eq, Source.ofGiven, OrderedMap.get?, List.isEmpty_iff.mp empty]
      rfl
    refine ⟨settings, by rw [override, if_pos empty], fun field => ⟨?_, fun _ => rfl⟩⟩
    intro value found
    rw [nothing field] at found
    cases found
  | false =>
    have source_eq : (Source.ofGiven
        ((Source.ofSettings settings).toGiven.merge overrides.overrides)).orElse
          (surroundings.ambient inFile) =
        overrides.chosen.orElse (Source.ofSettings settings) := by
      rw [Source.ofGiven_merge _ distinctToo, chosen_eq, Source.ofGiven_toGiven]
      funext field
      simp only [Source.orElse, Source.ofSettings]
      cases overrides.chosen field <;> rfl
    obtain ⟨changed, loaded, stands⟩ := load_of_accepts dotEnv
      (Given.IsPlain.merge (Source.isPlain_toGiven _) plain distinctToo) (by
        rw [source_eq]
        exact accepts.orElse stable.accepts)
    rw [source_eq] at stands
    refine ⟨changed, by rw [override, empty]; exact loaded, fun field => ?_⟩
    have own := stands field
    unfold Settings.Stands at own
    simp only [Source.orElse, Source.ofSettings] at own
    constructor
    · intro value found
      rw [found] at own
      exact own
    · intro left
      rw [left] at own
      exact Except.ok.inj (own.symm.trans (stable field))

/-- How often a value that no override replaces is given again. -/
def renewals (contents : List Given) (overrides : Given) : Nat :=
  (if overrides.overrides.isEmpty then 0 else 1) + if contents = [] then 0 else 1

/-- Which value counts. An override comes first, and else the last file that sets a field, the
variables of the process, those of the usual file and the default count in this order, unless the
last file leaves the field out and a variable gives it: then the variable also comes before earlier
files. A value of a file or a variable that no override replaces may be validated again. -/
theorem loadFiles_precedence (written : surroundings.environment.IsWritten)
    (dotEnv : surroundings.environmentFiles {} = .ok inFile)
    (accepts : Settings.Accepts surroundings.environment (surroundings.ambient inFile))
    (reads : surroundings.Reads (surroundings.ambient inFile) paths contents)
    (distinct : overrides.keys.Nodup) (plain : overrides.overrides.IsPlain)
    (acceptsChosen : Settings.Accepts surroundings.environment overrides.chosen) :
    ∃ settings, surroundings.loadFiles paths overrides = .ok settings ∧
      ∀ field,
        (∀ value, overrides.chosen field = some value →
          Settings.normal surroundings.environment field value = .ok (settings.value field)) ∧
        (overrides.chosen field = none → ∃ found,
          settings.value field =
            (Settings.renewed field)^[renewals contents overrides] found ∧
          (¬ (surroundings.ambient inFile).Shadowed contents field →
            Settings.Stands surroundings.environment
              ((Source.lastOf contents).orElse (surroundings.ambient inFile)) field found) ∧
          ((surroundings.ambient inFile).Shadowed contents field →
            Settings.Stands surroundings.environment (surroundings.ambient inFile) field
              found)) := by
  obtain ⟨set, settings, filed, loaded, stable, before⟩ :=
    load_fileSource written dotEnv accepts reads
  obtain ⟨changed, overridden, after⟩ :=
    override_of_isStable stable dotEnv distinct plain acceptsChosen
  refine ⟨changed, ?_, fun field => ⟨(after field).1, fun left => ?_⟩⟩
  · rw [loadFiles, filed]
    simp only [bind, Except.bind, loaded, overridden]
  · obtain ⟨found, stands, own⟩ := before field
    refine ⟨found, ?_, fun clear => ?_, fun shadowed => ?_⟩
    · rw [(after field).2 left, own, renewals, Function.iterate_add_apply]
    · exact (Settings.stands_congr (Source.orElse_of_not_shadowed clear)).mp stands
    · exact (Settings.stands_congr (Source.orElse_of_shadowed shadowed)).mp stands

end Surroundings

/-! ## A variable between two files -/

namespace BetweenFiles

/-- A variable sets the game path, and so does the first of two files. -/
def surroundings : Surroundings where
  environment := { bindings := .ofList [("GALSCRIPT_GAME_PATH", "c")], workingDirectory := ["w"] }
  disk := ⟨.ofList
    [(["w"], .directory), (["w", ".env"], .file (.text "GALSCRIPT_LOG_LEVEL=info")),
     (["w", "a.json"], .file (.text "\x7b\"game_path\":\"a\"\x7d")),
     (["w", "b.json"], .file (.text "\x7b\"debug\":true\x7d"))], ["w"]⟩

def inFile : Source := ({} : Lookup).source (.ofList [("GALSCRIPT_LOG_LEVEL", some "info")])

def paths : List Path := [.ofText "a.json", .ofText "b.json", .ofText "gone.json"]

def contents : List Given :=
  [.ofList [("game_path", .datum (.text "a"))], .ofList [("debug", .datum (.bool true))]]

def overrides : Given :=
  .ofList [("validate_resources", .bool false), ("debug", .datum .null)]

theorem isWritten : surroundings.environment.IsWritten := ⟨by decide, by decide⟩

theorem environmentFiles_eq : surroundings.environmentFiles {} = .ok inFile := by
  have decoded : Encoding.utf8.decode? (FileContent.text "GALSCRIPT_LOG_LEVEL=info").bytes =
      some "GALSCRIPT_LOG_LEVEL=info" := by
    decide +kernel
  have there : surroundings.disk.ask (.ofText environmentFileName) =
      .ok (some (.file (.text "GALSCRIPT_LOG_LEVEL=info"))) := rfl
  have bound : surroundings.fileBindings {} (.ofText environmentFileName) =
      .ok (.ofList [("GALSCRIPT_LOG_LEVEL", some "info")]) := by
    simp only [Surroundings.fileBindings, there, Except.mapError, bind, Except.bind, decoded]
    rfl
  simp only [Surroundings.environmentFiles, List.mapM_cons, bound]
  rfl

theorem accepts : Settings.Accepts surroundings.environment (surroundings.ambient inFile) := by
  decide +kernel

theorem reads : surroundings.Reads (surroundings.ambient inFile) paths contents := by
  have first : Json.parse "\x7b\"game_path\":\"a\"\x7d" =
      .ok (.mapping [(.text "game_path", .text "a")]) := by
    cbv
  have second : Json.parse "\x7b\"debug\":true\x7d" =
      .ok (.mapping [(.text "debug", .bool true)]) := by
    cbv
  refine .file (Surroundings.readGiven_json rfl (by decide +kernel) rfl first rfl) (by decide)
    (by decide +kernel) ?_
  refine .file (Surroundings.readGiven_json rfl (by decide +kernel) rfl second rfl) (by decide)
    (by decide +kernel) ?_
  exact .missing rfl .nil

theorem acceptsChosen :
    Settings.Accepts surroundings.environment overrides.chosen := by
  decide +kernel

theorem text_inj {t other : Text} (same : SettingValue.text t = .text other) : t = other := by
  cases same
  rfl

theorem bool_inj {b other : Bool} (same : SettingValue.bool b = .bool other) : b = other := by
  cases same
  rfl

/-- The game path is the one of the variable although the first file sets another one. What else the
files, the file of variables and the overrides set is there. -/
theorem loadFiles_shadowed :
    ∃ settings, surroundings.loadFiles paths overrides = .ok settings ∧
      settings.gamePath = "c" ∧ settings.debug = true ∧ settings.logLevel = "INFO" ∧
      settings.validateResources = false := by
  obtain ⟨settings, loaded, counts⟩ :=
    Surroundings.loadFiles_precedence isWritten environmentFiles_eq accepts reads
      (by decide) (by decide) acceptsChosen
  refine ⟨settings, loaded, ?_, ?_, ?_, ?_⟩
  · obtain ⟨found, renewed, -, shadowed⟩ := (counts .gamePath).2 rfl
    have stands : Except.ok (.text "c") = Except.ok found := shadowed (by decide)
    cases stands
    exact text_inj renewed
  · obtain ⟨found, renewed, clear, -⟩ := (counts .debug).2 rfl
    have stands : Except.ok (.bool true) = Except.ok found := clear (by decide)
    cases stands
    exact bool_inj renewed
  · obtain ⟨found, renewed, clear, -⟩ := (counts .logLevel).2 rfl
    have stands : Except.ok (.text "INFO") = Except.ok found := clear (by decide)
    cases stands
    exact text_inj renewed
  · exact bool_inj (Except.ok.inj ((counts .validateResources).1 (.bool false) rfl)).symm

/-- It is not the case that the last file that sets a field always comes before the variables. -/
theorem not_forall_file_counts :
    ¬ ∀ (surroundings : Surroundings) (inFile : Source) (paths : List Path)
      (contents : List Given) (overrides : Given), surroundings.environment.IsWritten →
      surroundings.environmentFiles {} = .ok inFile →
      Settings.Accepts surroundings.environment (surroundings.ambient inFile) →
      surroundings.Reads (surroundings.ambient inFile) paths contents →
      overrides.keys.Nodup → overrides.overrides.IsPlain →
      Settings.Accepts surroundings.environment overrides.chosen →
      ∃ settings, surroundings.loadFiles paths overrides = .ok settings ∧
        ∀ field, Settings.Stands surroundings.environment
          (overrides.chosen.orElse
            ((Source.lastOf contents).orElse (surroundings.ambient inFile)))
          field (settings.value field) := by
  intro law
  obtain ⟨settings, loaded, stands⟩ := law surroundings inFile paths contents overrides isWritten
    environmentFiles_eq accepts reads (by decide) (by decide) acceptsChosen
  have ofVariable : (surroundings.loadFiles paths overrides).toOption.map (·.gamePath) =
      some ("c" : Text) := by
    decide +kernel
  have ofFile : Settings.normal surroundings.environment .gamePath (.datum (.text "a")) =
      .ok (settings.value .gamePath) := stands .gamePath
  have same : "a" = settings.gamePath := text_inj (Except.ok.inj ofFile)
  rw [loaded, Except.toOption, Option.map_some, ← same] at ofVariable
  exact absurd ofVariable (by decide)

end BetweenFiles

end SceneScript
