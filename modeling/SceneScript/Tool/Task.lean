import SceneScript.Tool.Options
import SceneScript.Scheduler
import SceneScript.Settings.Validation

/-! # Tasks

* `Task` — what can be asked for;
* `GlobalOptions` — what holds for every task;
* `Invocation.read` — the name of the task and what stands around it;
* `Task.read` — the task itself.
-/

namespace SceneScript

inductive TaskName where
  | version
  | check
  | listVariables
  | resolve
  | scenes
  | newScene
  | watch
  deriving Repr, DecidableEq

inductive Task where
  | version (json : Bool)
  | check (paths : List Path) (noResources json : Bool)
  | listVariables (undefinedOnly json : Bool)
  | resolve (scene : Text) (referrer : Option Path) (json : Bool)
  | scenes (json : Bool)
  | newScene (directory fileName : Option Text) (json : Bool)
  | watch (timeout : Time)
  deriving Repr, DecidableEq

structure GlobalOptions where
  config : Option Path := none
  project : Option Path := none
  verbose : Bool := false
  debug : Bool := false
  deriving Repr, DecidableEq

/-- Why a command line names nothing to do. -/
inductive Refusal where
  | usage
  | help
  deriving Repr, DecidableEq

namespace TaskName

def spellings : List (Text × TaskName) :=
  [("version", version), ("check", check), ("vars", listVariables), ("resolve", resolve),
   ("scenes", scenes), ("new-scene", newScene), ("watch", watch)]

end TaskName

/-! ## Options -/

def helpOption : OptionSpec := { spellings := ["--help"] }

def jsonOption : OptionSpec := { spellings := ["--json"] }

def configOption : OptionSpec := { spellings := ["--config", "-c"], takesValue := true }

def projectOption : OptionSpec := { spellings := ["--project", "-p"], takesValue := true }

def verboseOption : OptionSpec := { spellings := ["--verbose", "-v"] }

def debugOption : OptionSpec := { spellings := ["--debug"] }

def globalSpecs : List OptionSpec :=
  [configOption, projectOption, verboseOption, debugOption, helpOption]

def noResourcesOption : OptionSpec := { spellings := ["--no-resources"] }

def undefinedOption : OptionSpec := { spellings := ["--undefined", "-u"] }

def fromOption : OptionSpec := { spellings := ["--from"], takesValue := true }

def directoryOption : OptionSpec := { spellings := ["--dir", "-d"], takesValue := true }

def fileOption : OptionSpec := { spellings := ["--file", "-f"], takesValue := true }

def timeoutOption : OptionSpec := { spellings := ["--timeout", "-t"], takesValue := true }

def TaskName.specs : TaskName → List OptionSpec
  | version | scenes => [jsonOption]
  | check => [noResourcesOption, jsonOption]
  | listVariables => [undefinedOption, jsonOption]
  | resolve => [fromOption, jsonOption]
  | newScene => [directoryOption, fileOption, jsonOption]
  | watch => [timeoutOption]

/-! ## Reading -/

abbrev Read (α : Type) := Except Refusal α

/-- A path holds no null character. -/
def readPath (t : Text) : Read Path :=
  let path : Path := .ofText t
  if path.hasNull then .error .usage else .ok path

def readPath? (t : Option Text) : Read (Option Path) := t.mapM readPath

def readFlag (t : Text) : Read Bool :=
  let word := Text.lower (Text.strip t)
  if trueWords.contains word then .ok true
  else if falseWords.contains word then .ok false
  else .error .usage

def readGiven (specs : List OptionSpec) (between : Bool) (arguments : List Text) :
    Read GivenArguments :=
  match readArguments? specs between arguments with
  | none => .error .usage
  | some given => if given.has helpOption.name then .error .help else .ok given

def configVariable : Text := "GALSCRIPT_CONFIG"

def debugVariable : Text := "GALSCRIPT_DEBUG"

/-- A variable that is empty counts as missing. -/
def Environment.nonempty? (environment : Environment) (name : Text) : Option Text :=
  (environment.bindings.get? name).filter (· ≠ [])

/-- Two of the options may also be given by variables. -/
def GlobalOptions.read (environment : Environment) (given : GivenArguments) :
    Read GlobalOptions := do
  let config := (given.value? configOption.name).or (environment.nonempty? configVariable)
  let debug ←
    if given.has debugOption.name then .ok true
    else (environment.nonempty? debugVariable).elim (.ok false) readFlag
  return {
    config := ← readPath? config
    project := ← readPath? (given.value? projectOption.name)
    verbose := given.has verboseOption.name
    debug }

/-- A task by its name, with the arguments after it. -/
structure Invocation where
  options : GlobalOptions
  name : TaskName
  arguments : List Text

def Invocation.read (environment : Environment) (arguments : List Text) : Read Invocation := do
  let given ← readGiven globalSpecs false arguments
  let options ← GlobalOptions.read environment given
  match given.positional with
  | [] => throw .usage
  | name :: arguments =>
    match TaskName.spellings.lookup name with
    | none => throw .usage
    | some name => return { options, name, arguments }

def Task.read (name : TaskName) (arguments : List Text) : Read Task := do
  let given ← readGiven (helpOption :: name.specs) true arguments
  let json := given.has jsonOption.name
  match name, given.positional with
  | .version, [] => return .version json
  | .check, paths => return .check (← paths.mapM readPath) (given.has noResourcesOption.name) json
  | .listVariables, [] => return .listVariables (given.has undefinedOption.name) json
  | .resolve, [scene] =>
    return .resolve scene (← readPath? (given.value? fromOption.name)) json
  | .scenes, [] => return .scenes json
  | .newScene, [] =>
    return .newScene (given.value? directoryOption.name) (given.value? fileOption.name) json
  | .watch, [] =>
    match given.value? timeoutOption.name with
    | none => return .watch 0
    | some t =>
      (readLooseNumber? t).elim (.error .usage) fun seconds => return .watch (.ofSeconds seconds)
  | _, _ => throw .usage

end SceneScript
