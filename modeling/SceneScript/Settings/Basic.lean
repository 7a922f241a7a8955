import SceneScript.Error
import SceneScript.Path

/-! # Settings

* `Field` — the fields, in the order in which they are declared;
* `Settings` — a value for each field;
* `SettingValue`, `Settings.value` — what a field holds, apart from its type;
* `Given` — values that are given by name;
* `Source` — where the value of a field may come from.
-/

namespace SceneScript

inductive Field where
  | projectRoot
  | gamePath
  | autoScanResources
  | validateResources
  | enablePreview
  | watchDebounceSeconds
  | debug
  | logLevel
  | logFormat
  | logFile
  deriving Repr, DecidableEq

namespace Field

def all : List Field :=
  [projectRoot, gamePath, autoScanResources, validateResources, enablePreview,
   watchDebounceSeconds, debug, logLevel, logFormat, logFile]

def name : Field → Text
  | projectRoot => "project_root"
  | gamePath => "game_path"
  | autoScanResources => "auto_scan_resources"
  | validateResources => "validate_resources"
  | enablePreview => "enable_preview"
  | watchDebounceSeconds => "watch_debounce_seconds"
  | debug => "debug"
  | logLevel => "log_level"
  | logFormat => "log_format"
  | logFile => "log_file"

end Field

structure Settings where
  projectRoot : Path
  gamePath : Text := "game"
  autoScanResources : Bool := true
  validateResources : Bool := true
  enablePreview : Bool := true
  watchDebounceSeconds : Float := 0.5
  debug : Bool := false
  logLevel : Text := "WARNING"
  logFormat : Text := "console"
  logFile : Option Path := none

/-- A path is no datum: a text that becomes a path is expanded, a path is taken as it is. -/
inductive SettingValue where
  | datum (value : Datum)
  | path (value : Path)

namespace SettingValue

@[match_pattern] abbrev text (value : Text) : SettingValue := .datum (.text value)

def bool (value : Bool) : SettingValue := .datum (.bool value)

def isNull : SettingValue → Bool
  | .datum .null => true
  | _ => false

def toDatum : SettingValue → Datum
  | .datum value => value
  | .path value => .text value.toText

end SettingValue

namespace Settings

def value (settings : Settings) : Field → SettingValue
  | .projectRoot => .path settings.projectRoot
  | .gamePath => .text settings.gamePath
  | .autoScanResources => .bool settings.autoScanResources
  | .validateResources => .bool settings.validateResources
  | .enablePreview => .bool settings.enablePreview
  | .watchDebounceSeconds => .datum (.float settings.watchDebounceSeconds)
  | .debug => .bool settings.debug
  | .logLevel => .text settings.logLevel
  | .logFormat => .text settings.logFormat
  | .logFile => settings.logFile.elim (.datum .null) .path

def toDatum (settings : Settings) : Datum :=
  .object (Field.all.map fun field => (field.name, (settings.value field).toDatum))

def gameDirectory (settings : Settings) : Path :=
  settings.projectRoot.join (.ofText settings.gamePath)

end Settings

/-! ## Sources -/

/-- Values by name; a name that belongs to no field may say where to look for other values. -/
abbrev Given := OrderedMap Text SettingValue

/-- The values that are given for some of the fields. -/
abbrev Source := Field → Option SettingValue

namespace Source

def empty : Source := fun _ => none

/-- The first source counts where both give a value. -/
def orElse (first second : Source) : Source := fun field => (first field).or (second field)

def ofGiven (given : Given) : Source := fun field => given.get? field.name

/-- The values of a source by name. -/
def toGiven (source : Source) : Given :=
  .ofList (Field.all.filterMap fun field => (source field).map (field.name, ·))

def ofSettings (settings : Settings) : Source := fun field => some (settings.value field)

/-- What became of the values of a source. -/
def validated (source : Source) (settings : Settings) : Source := fun field =>
  (source field).map fun _ => settings.value field

end Source

end SceneScript
