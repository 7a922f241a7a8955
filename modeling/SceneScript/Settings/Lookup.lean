import SceneScript.Settings.EnvironmentFile
import SceneScript.Settings.Validation
import SceneScript.Text.Encoding

/-! # Where settings are looked for

What is not given is looked for in variables, in files of variables and in directories of secrets.
Some names among the given values say where and how.

* `Lookup` — where to look, and what variables are called;
* `Lookup.ofGiven` — the lookup that given values ask for;
* `Lookup.source` — the values of variables.
-/

namespace SceneScript

inductive LookupFault where
  /-- A value is of a kind that cannot say where to look. -/
  | unusable (message : Text)
  /-- Nothing can be looked for in the place that is named. -/
  | refused (message : Text)
  | unknownEncoding (name : Text)
  | unknownHome
  deriving Repr, DecidableEq

def LookupFault.message : LookupFault → Text
  | .unusable message | .refused message => message
  | .unknownEncoding name => "unknown encoding: " ++ name
  | .unknownHome => unknownHomeMessage

def variablePrefix : Text := "GALSCRIPT_"

def environmentFileName : Text := ".env"

structure Lookup where
  /-- What stands before the name of a field in the name of a variable. -/
  start : Text := variablePrefix
  caseMatters : Bool := false
  ignoresEmpty : Bool := false
  /-- The text that stands for null. -/
  nullWord : Option Text := none
  /-- Later files come before earlier ones. -/
  files : List Path := [.ofText environmentFileName]
  /-- How files are encoded, which counts only where there is one. -/
  encoding : Except LookupFault Encoding := .ok .utf8
  /-- Later directories come before earlier ones. -/
  secrets : List Path := []

namespace Lookup

abbrev Looked (α : Type) := Except LookupFault α

/-! ## What given values ask for -/

/-- A value that is given and not null. -/
def value? (given : Given) (name : Text) : Option Datum :=
  ((given.get? name).map (·.toDatum)).filter fun
    | .null => false
    | _ => true

/-- Whether something is asked for. -/
def holds (given : Given) (name : Text) : Bool := (value? given name).any (!·.isEmpty)

/-- The name under which settings know themselves, which nothing else can be called. -/
def selfName : Text := "__pydantic_self__"

def checkSelf (given : Given) : Looked Unit :=
  if given.contains selfName then
    .error (.unusable
      ("BaseSettings.__init__() got multiple values for argument " ++ Text.quoted selfName))
  else .ok ()

/-- The number of parts that names split into has to be a number, although no name is split. -/
def checkSplit (given : Given) : Looked Unit :=
  match value? given "_env_nested_max_split" with
  | none | some (.int _) | some (.bool _) | some (.float _) => .ok ()
  | some other =>
    if other.isEmpty then .ok ()
    else
      .error (.unusable ("unsupported operand type(s) for -: " ++ Text.quoted other.qualifiedKind ++
        " and 'int'"))

/-- A start that is no text is refused, at once if it has no length either. -/
def startOf (given : Given) : Looked (Looked Text) :=
  match value? given "_env_prefix" with
  | none => .ok (.ok variablePrefix)
  | some (.text t) => .ok (.ok t)
  | some (.scalar (.bytes _)) | some (.list _) | some (.mapping _) | some (.tuple _)
  | some (.set _) | some (.again _) =>
    .ok (.error (.refused
      "error getting value for field \"project_root\" from source \"EnvSettingsSource\""))
  | some other =>
    .error (.unusable ("object of type " ++ Text.quoted other.qualifiedKind ++ " has no len()"))

def pathOf (environment : Environment) : Datum → Looked Path
  | .text t => (environment.expandHome? (.ofText t)).elim (.error .unknownHome) .ok
  | other =>
    .error (.unusable ("expected str, bytes or os.PathLike object, not " ++ other.qualifiedKind))

/-- One path, or several of them; of a mapping the keys count. -/
def pathsOf (environment : Environment) (value : Datum) : Looked (List Path) :=
  let all (items : List Datum) := items.mapM (pathOf environment)
  match value with
  | .text _ => all [value]
  | .list items | .tuple items => all items
  | .set members => all (members.map .scalar)
  | .mapping entries => all (entries.map fun (key, _) => .scalar key)
  | .scalar (.bytes bytes) => all (bytes.map fun b => .int b.toNat)
  | _ =>
    .error (.unusable (Text.quoted value.qualifiedKind ++ " object is not iterable"))

def filesOf (environment : Environment) (given : Given) : Looked (List Path) :=
  match given.get? "_env_file" with
  | none => .ok [.ofText environmentFileName]
  | some (.datum .null) => .ok []
  | some value => pathsOf environment value.toDatum

def encodingOf (given : Given) : Looked Encoding :=
  match (value? given "_env_file_encoding").filter (!·.isEmpty) with
  | none => .ok .utf8
  | some (.text name) => (Encoding.named? name).elim (.error (.unknownEncoding name)) .ok
  | some other =>
    .error (.unusable ("open() argument 'encoding' must be str or None, not " ++
      other.qualifiedKind))

def ofGiven (environment : Environment) (given : Given) : Looked Lookup := do
  checkSelf given
  checkSplit given
  let start ← startOf given
  let files ← filesOf environment given
  let start ← start
  let secrets ← ((value? given "_secrets_dir").map (pathsOf environment)).getD (.ok [])
  let nullWord :=
    match value? given "_env_parse_none_str" with
    | some (.text t) => some t
    | _ => none
  return {
    start, files, secrets, nullWord
    encoding := encodingOf given
    caseMatters := holds given "_case_sensitive"
    ignoresEmpty := holds given "_env_ignore_empty" }

/-! ## Variables -/

def spell (lookup : Lookup) (name : Text) : Text :=
  if lookup.caseMatters then name else Text.lower name

/-- The name of the variable of a field. -/
def nameOf (lookup : Lookup) (field : Field) : Text := lookup.spell (lookup.start ++ field.name)

/-- Of several variables with one name the last one counts. -/
def source (lookup : Lookup) (bindings : OrderedMap Text (Option Text)) : Source := fun field =>
  let counts (binding : Text × Option Text) : Bool :=
    lookup.spell binding.1 = lookup.nameOf field &&
      !(lookup.ignoresEmpty && binding.2 = some [])
  ((bindings.entries.reverse.find? counts).bind (·.2)).map fun t =>
    if lookup.nullWord = some t then .datum .null else .text t

end Lookup

end SceneScript
