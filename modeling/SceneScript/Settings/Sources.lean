import SceneScript.Json.Reader
import SceneScript.Settings.Lookup
import SceneScript.Toml.Document
import SceneScript.Yaml.Document

/-! # Where settings come from

Values that are given by name come before environment variables, those before files of variables,
those before secrets, and those before the defaults.

* `Surroundings.load` — settings with the fields that some source gives;
* `ConfigFormat`, `Surroundings.loadFile` — one configuration file;
* `Surroundings.loadFiles` — several files, of which later ones come before earlier ones, and
  overrides, which come before all files;
* `Surroundings.standard` — the files at the usual places.
-/

namespace SceneScript

/-- The environment of a process and the disk that it sees. -/
structure Surroundings where
  environment : Environment
  disk : Disk

inductive ConfigFault where
  | missing (message : Text)
  | disk (error : DiskError)
  | undecodable
  | badYaml (fault : Yaml.Fault)
  | badToml (fault : Toml.Fault)
  | badJson (fault : Json.Fault)
  | notMapping (content : Datum)
  /-- The content is no mapping, but names a known misspelling of a key. -/
  | misspelledOutsideMapping (content : Datum)
  /-- The content is a mapping with a key that is no text. -/
  | badKey
  | lookup (fault : LookupFault)
  | advice (error : ScriptError)
  | invalid (fault : SettingsFault)

namespace Surroundings

/-- Whether something stands at a path. -/
def isPresent (surroundings : Surroundings) (path : Path) : Except ConfigFault Bool :=
  ((surroundings.disk.ask path).map (·.isSome)).mapError .disk

def readFile (surroundings : Surroundings) (path : Path) : Except ConfigFault Text :=
  match surroundings.disk.content? path with
  | .error fault => .error (.disk ⟨fault, path⟩)
  | .ok (.undecodable _) => .error .undecodable
  | .ok (.text content) => .ok content

/-! ## Variables and secrets -/

/-- The variables of a file; one that does not exist has none. -/
def fileBindings (surroundings : Surroundings) (lookup : Lookup) (path : Path) :
    Except ConfigFault (OrderedMap Text (Option Text)) := do
  match ← (surroundings.disk.ask path).mapError .disk with
  | some (.file content) =>
    let encoding ← lookup.encoding.mapError .lookup
    let some text := encoding.decode? content.bytes | throw .undecodable
    return EnvironmentFile.expandedBindings surroundings.environment (Text.unifyNewlines text)
  | _ => return ∅

/-- The variables of all files together. -/
def environmentFiles (surroundings : Surroundings) (lookup : Lookup) :
    Except ConfigFault Source := do
  let files ← lookup.files.mapM (surroundings.fileBindings lookup)
  return lookup.source (files.foldl OrderedMap.merge ∅)

/-- The directories of secrets that exist; nothing else may stand in their places. -/
def secretDirectories (surroundings : Surroundings) (lookup : Lookup) :
    Except ConfigFault (List Path) := do
  let present ← lookup.secrets.filterM surroundings.isPresent
  if present.any (!surroundings.disk.isDirectory ·) then
    throw (.lookup (.refused "secrets_dir must reference a directory, not a file"))
  return present

/-- The file of a directory that has the name of the variable of a field. -/
def secretFile? (surroundings : Surroundings) (lookup : Lookup) (field : Field)
    (directory : Path) : Option FileContent := do
  let entry ← (surroundings.disk.entries directory).find? fun entry =>
    lookup.spell entry.name = lookup.nameOf field
  (surroundings.disk.content? entry.path).toOption

/-- The text of a secret without the blanks around it. -/
def secret? (surroundings : Surroundings) (lookup : Lookup) (directories : List Path)
    (field : Field) : Except ConfigFault (Option SettingValue) :=
  match directories.reverse.findSome? (surroundings.secretFile? lookup field) with
  | none => .ok none
  | some (.text content) => .ok (some (.text (Text.strip content)))
  | some (.undecodable _) =>
    .error (.lookup (.refused
      ("error getting value for field \"" ++ field.name ++
        "\" from source \"SecretsSettingsSource\"")))

def secrets (surroundings : Surroundings) (lookup : Lookup) : Except ConfigFault Source := do
  let directories ← surroundings.secretDirectories lookup
  let found ← Field.all.mapM fun field => do
    return (field, ← surroundings.secret? lookup directories field)
  return fun field => (found.lookup field).join

/-! ## Loading -/

/-- Every value that is given or found, by what comes first. -/
def sources (surroundings : Surroundings) (given : Given) : Except ConfigFault Source := do
  let lookup ← (Lookup.ofGiven surroundings.environment given).mapError .lookup
  let inProcess := lookup.source (surroundings.environment.bindings.mapValues some)
  let inFiles ← surroundings.environmentFiles lookup
  let secrets ← surroundings.secrets lookup
  return (((Source.ofGiven given).orElse inProcess).orElse inFiles).orElse secrets

/-- The settings, and for the fields that some source gives their values. -/
def loadSet (surroundings : Surroundings) (given : Given) :
    Except ConfigFault (Settings × Source) := do
  let source ← surroundings.sources given
  match Settings.build surroundings.environment source with
  | .ok settings => return (settings, source.validated settings)
  | .error fault => throw (.invalid fault)

def load (surroundings : Surroundings) (given : Given) : Except ConfigFault Settings :=
  (surroundings.loadSet given).map (·.1)

end Surroundings

/-! ## Configuration files -/

inductive ConfigFormat where
  | yaml
  | toml
  | json
  deriving Repr, DecidableEq

namespace ConfigFormat

def suffixes : List (Text × ConfigFormat) :=
  [(".yml", yaml), (".yaml", yaml), (".toml", toml), (".json", json)]

/-- What a file holds; a YAML file whose content is empty or zero holds an empty mapping. -/
def read (format : ConfigFormat) (content : Text) : Except ConfigFault Datum :=
  match format with
  | yaml =>
    match Yaml.parse (Text.unifyNewlines content) with
    | .ok data => .ok (if data.isEmpty then .mapping [] else data)
    | .error fault => .error (.badYaml fault)
  | toml => (Toml.parse content).mapError .badToml
  | json => (Json.parse (Text.unifyNewlines content)).mapError .badJson

end ConfigFormat

def unsupportedFormat (path : Path) (suffix : Text) : ScriptError :=
  { kind := .configuration
    message := "Unsupported configuration file format: " ++ suffix
    hint := some "Use one of the supported formats: .yml, .yaml, .toml, or .json"
    details := .ofList
      [("file", .text path.toText), ("detected_format", .text suffix),
       ("supported_formats", .texts (ConfigFormat.suffixes.map (·.1)))] }

def textKey? : Scalar → Option Text
  | .text t => some t
  | _ => none

def containsText (part : Text) : Text → Bool
  | [] => part = []
  | c :: rest => Text.startsWith part (c :: rest) || containsText part rest

/-- Whether a misspelled key occurs in something that is no mapping. -/
def namesMisspelling : Datum → Bool
  | .text t => misspelledKeys.any fun (wrong, _) => containsText wrong t
  | .list items => misspelledKeys.any fun (wrong, _) => items.contains (.text wrong)
  | .set members => misspelledKeys.any fun (wrong, _) => members.contains (.text wrong)
  | _ => false

/-- The values that the content of a file gives, unless a key is misspelled. -/
def Given.ofContent (content : Datum) : Except ConfigFault Given :=
  match content with
  | .mapping entries =>
    match misspelledKey? (entries.map (·.1)) with
    | some error => .error (.advice error)
    | none =>
      match entries.mapM fun (key, value) => (textKey? key).map (·, SettingValue.datum value) with
      | some given => .ok (.ofList given)
      | none => .error .badKey
  | other =>
    .error (if namesMisspelling other then .misspelledOutsideMapping other else .notMapping other)

/-- Values for keys that come before everything else; null gives no value. -/
def Given.overrides (given : Given) : Given :=
  given.filterMap fun _ value => if value.isNull then none else some value

namespace Surroundings

def loadFile (surroundings : Surroundings) (path : Path) :
    Except ConfigFault (Settings × Source) := do
  if !(← surroundings.isPresent path) then
    throw (.missing ("Configuration file not found: " ++ path.toText))
  let suffix := Text.lower path.suffix
  match ConfigFormat.suffixes.lookup suffix with
  | none => throw (.advice (unsupportedFormat path suffix))
  | some format =>
    let content ← surroundings.readFile path
    surroundings.loadSet (← Given.ofContent (← format.read content))

/-- The values that one more file sets before others; a missing file sets none. -/
def addFile (surroundings : Surroundings) (source : Source) (path : Path) :
    Except ConfigFault Source :=
  match surroundings.loadFile path with
  | .ok (_, set) => .ok (set.orElse source)
  | .error (.missing _) => .ok source
  | .error fault => .error fault

def fileSource (surroundings : Surroundings) (paths : List Path) : Except ConfigFault Source :=
  paths.foldlM surroundings.addFile .empty

/-- Settings with some values replaced; all fields are validated once more. -/
def override (surroundings : Surroundings) (overrides : Given) (settings : Settings) :
    Except ConfigFault Settings :=
  if overrides.overrides.isEmpty then .ok settings
  else surroundings.load ((Source.ofSettings settings).toGiven.merge overrides.overrides)

def loadFiles (surroundings : Surroundings) (paths : List Path) (overrides : Given) :
    Except ConfigFault Settings := do
  let settings ← surroundings.load (← surroundings.fileSource paths).toGiven
  surroundings.override overrides settings

/-! ## The usual places -/

def homeFiles : List Text := [".config/galscript/config.yaml", ".config/galscript/config.toml"]

def localFiles : List Text := ["galscript.yaml", "galscript.json", "galscript.toml"]

/-- The configuration files that exist, the least important one first. -/
def usualFiles (surroundings : Surroundings) : Except ConfigFault (List Path) := do
  let environment := surroundings.environment
  let some home := environment.home? | throw (.invalid .unknownHome)
  let inDirectory (directory : Path) (names : List Text) : List Path :=
    names.map fun name => directory.join (.ofText name)
  let all := inDirectory home homeFiles ++ inDirectory environment.directory localFiles
  return all.filter surroundings.disk.isFile

def standard (surroundings : Surroundings) : Except ConfigFault Settings := do
  match ← surroundings.usualFiles with
  | [] => surroundings.load ∅
  | paths => surroundings.loadFiles paths ∅

/-- The settings for a command: from one file, which has to exist, or from the usual places. -/
def forCommand (surroundings : Surroundings) (configFile : Option Path) (overrides : Given) :
    Except ConfigFault Settings := do
  match configFile with
  | some path =>
    if !(← surroundings.isPresent path) then
      throw (.missing ("Config file not found: " ++ path.toText))
    surroundings.loadFiles [path] overrides
  | none => surroundings.override overrides (← surroundings.standard)

end Surroundings

end SceneScript
