import SceneScript.Tool.Task
import SceneScript.Tool.Check
import SceneScript.Output.Data
import SceneScript.Output.Table
import SceneScript.Scene.Creation
import SceneScript.Settings.Logging
import SceneScript.Settings.Sources
import SceneScript.Watch.Watcher

/-! # Running tasks

* `Reply` — what a task prints, its exit status, and the disk after it;
* `Failure` — why a task fails, and how that is shown;
* `Task.run` — one task with given settings;
* `runArguments` — a whole command line.

Everything but data for programs is marked-up text. Text whose tags do not match is not shown: the
task fails instead, and if the report of that failure has the same flaw nothing is printed.
-/

namespace SceneScript

structure Reply where
  output : Text := []
  status : Nat := 0
  disk : Disk

inductive Failure where
  | advice (error : ScriptError)
  | plain (message : Text)

namespace Failure

def markup : Failure → Text
  | advice error => "[red]" ++ error.display ++ "[/red]"
  | plain message => "[red]Error: " ++ message ++ "[/red]"

def json : Failure → Text
  | advice error => Json.errorResponse error
  | plain message => Json.failure message

end Failure

/-- What a program prints as one document. -/
def documentOutput (document : Text) : Text := document ++ ['\n']

def Failure.output (failure : Failure) (json : Bool) : Text :=
  if json then documentOutput failure.json else (Console.show? failure.markup).toOption.getD []

def Failure.reply (failure : Failure) (json : Bool) (disk : Disk) : Reply :=
  { output := failure.output json, status := 1, disk }

/-! ## Faults of the configuration -/

/-- Texts and lists could hold keys, and everything else is refused before keys are looked for. -/
def notMappingMessage (content : Datum) : Text :=
  match content with
  | .text _ | .list _ | .set _ =>
    "galscript.config.settings.GalScriptSettings() argument after ** must be a mapping, not " ++
      content.kind
  | .scalar (.bytes _) => "a bytes-like object is required, not 'str'"
  | _ => "argument of type " ++ Text.quoted content.qualifiedKind ++ " is not iterable"

/-- A file that has no readable content is named by its format alone. -/
def ConfigFault.failure : ConfigFault → Failure
  | .missing message => .plain message
  | .disk error => .plain error.message
  | .undecodable => .plain "The configuration is not valid text"
  | .badYaml fault => .plain fault.message
  | .badToml fault => .plain fault.message
  | .badJson fault => .plain fault.message
  | .lookup fault => .plain fault.message
  | .notMapping content => .plain (notMappingMessage content)
  | .misspelledOutsideMapping content =>
    .plain (Text.quoted content.kind ++ " object has no attribute 'keys'")
  | .badKey => .plain "keywords must be strings"
  | .advice error => .advice error
  | .invalid .unknownHome => .plain unknownHomeMessage
  | .invalid (.fields faults) =>
    .plain ("Invalid settings: " ++ Text.join ", " (faults.map fun (field, _) => field.name))

def CheckFault.failure (project : Project) : CheckFault → Failure
  | .missing path => .advice (project.missingFile path)
  | .disk error => .plain error.message

/-! ## Projects -/

def Settings.project (settings : Settings) : Project :=
  { paths := ⟨settings.gameDirectory⟩, validateResources := settings.validateResources }

/-- A project after its first scan, if that does not fail. Where assets are not scanned, resources
are not validated. -/
def Settings.scannedProject (settings : Settings) (disk : Disk) : Except DiskError Project :=
  if settings.autoScanResources then
    let scanned := settings.project.scan disk
    scanned.result.map fun _ => scanned.project
  else
    let scanned := settings.project.scanVariables disk
    scanned.result.map fun _ => { scanned.project with validateResources := false }

/-! ## Tasks -/

def productName : Text := "galscript"

def productVersion : Text := "0.1.0"

def productDescription : Text := "Static analysis for visual-novel scene scripts"

abbrev Shown := Except Failure Text

def shown (output : Except Markup.Fault Text) : Shown :=
  output.mapError fun fault => .plain fault.message

def onDisk {α : Type} (asked : Except DiskError α) : Except Failure α :=
  asked.mapError fun error => .plain error.message

def printed (markup : Text) : Shown := shown (Console.show? markup)

def versionOutput (json : Bool) : Shown :=
  if json then
    .ok <| documentOutput <| Json.document <| .object
      [("name", .text productName), ("version", .text productVersion),
       ("description", .text productDescription)]
  else printed (productName ++ " v" ++ productVersion)

def variableRow (entry : VariableRecord) : Row :=
  .ofList
    [("name", .text entry.name), ("defined", .text (if entry.isDefined then "yes" else "no")),
     ("definitions", .int entry.definitions.length), ("usages", .int entry.usages.length)]

def undefinedOutput (project : Project) (json : Bool) : Shown :=
  let names := project.index.undefinedNames
  if json then .ok (documentOutput (Json.document (.object [("undefined", .texts names)])))
  else if names = [] then printed "[green]All used variables are defined.[/green]"
  else (names.mapM fun name => printed ("[yellow]" ++ name ++ "[/yellow]")).map List.flatten

def variablesOutput (project : Project) (json : Bool) : Shown :=
  let entries := (Text.sort project.index.records.keys).filterMap project.index.records.get?
  if json then .ok (documentOutput (Json.document (.list (entries.map (·.toDatum)))))
  else if entries = [] then printed "[yellow]No variables found.[/yellow]"
  else shown (Table.draw { rows := entries.map variableRow, title := some "Variables" })

def candidatesData (candidates : List SceneCandidate) : Text :=
  documentOutput (Json.document (.list (candidates.map (·.toDatum))))

def candidateRow (candidate : SceneCandidate) : Row :=
  .ofList
    [("scene", .text candidate.sceneName), ("relative_path", .text candidate.relativePath),
     ("exists", .text (if candidate.isPresent then "yes" else "no"))]

def resolveOutput (search : SceneSearch) (disk : Disk) (scene : Text) (referrer : Option Path)
    (json : Bool) : Shown := do
  let referrer := referrer.map (·.absolute disk.workingDirectory)
  let candidates ← onDisk (search.resolve disk.askFile scene referrer)
  if json then .ok (candidatesData candidates)
  else if candidates = [] then printed ("[yellow]No candidates for '" ++ scene ++ "'.[/yellow]")
  else
    shown (Table.draw
      { rows := candidates.map candidateRow, title := some ("Candidates for " ++ scene) })

def sceneRow (candidate : SceneCandidate) : Row :=
  .ofList
    [("scene", .text candidate.sceneName), ("relative_path", .text candidate.relativePath)]

def scenesOutput (search : SceneSearch) (disk : Disk) (json : Bool) : Shown := do
  let scenes ← onDisk (search.files disk)
  if json then .ok (candidatesData scenes)
  else if scenes = [] then
    printed ("[yellow]No scene files in " ++ search.paths.sceneRoot.toText ++ ".[/yellow]")
  else shown (Table.draw { rows := scenes.map sceneRow, title := some "Scenes" })

/-- With only a directory a directory is made, and a file otherwise. -/
def creationOptions (directory fileName : Option Text) : SceneCreation :=
  { createFile := directory = none || fileName ≠ none
    createDirectory := directory.isSome
    directory, fileName }

def createdOutput (search : SceneSearch) (json : Bool)
    (result : Except CreationFault (Option Path)) : Shown :=
  match result with
  | .error fault =>
    match fault.toError? search with
    | some error => .error (.advice error)
    | none => .error (.plain DiskFault.nullCharacter.describe)
  | .ok path =>
    let created := (path.map (·.toText)).getD []
    let message := "Scene ready: " ++ created
    if json then
      .ok (documentOutput (Json.success message (.object [("path", .text created)])))
    else printed ("[green]" ++ message ++ "[/green]")

/-! ## Watching -/

def announcementMarkup : Announcement → Text
  | .index update =>
    let scope : Text := if update.fullScan then "full scan" else update.file.getD []
    "[cyan]Variables updated[/cyan] (" ++ scope ++ "): " ++ Text.ofNat update.variableCount ++
      " variable(s)"
  | .assets library => "[cyan]Assets updated[/cyan]: " ++ Text.ofNat library.size ++ " file(s)"

/-- A frame around lines, with a title in its upper edge. -/
def frame (title : Text) (lines : List Text) : Text :=
  let width := (lines.map Text.width).foldl max (Text.width title + 2)
  let edge := width - Text.width title
  let upper := "╭" ++ List.replicate (edge / 2) '─' ++ " " ++ title ++ " " ++
    List.replicate (edge - edge / 2) '─' ++ "╮"
  let lower := "╰" ++ List.replicate (width + 2) '─' ++ "╯"
  let inner := lines.map fun line => "│ " ++ Text.padRight width line ++ " │"
  (upper :: inner ++ [lower]).flatMap (· ++ ['\n'])

def watchHeading (project : Project) : Shown :=
  let lines := Console.lines
    ("Watching [bold]" ++ project.paths.gameDirectory.toText ++ "[/bold]\n" ++
      Text.ofNat project.index.records.size ++ " variable(s), " ++
      Text.ofNat project.assets.size ++ " asset file(s)")
  shown (lines.map (frame (productName ++ " watch")))

/-- What is printed while a game directory is watched; an announcement that cannot be shown is
left out. -/
def watchOutput (project : Project) (debounce : Time) (disk : Disk) (span : Time)
    (deliveries : Watcher.Deliveries) : Shown := do
  let heading ← watchHeading project
  let (news, _) := (Watcher.ofProject project debounce).run disk span deliveries
  let lines := news.filterMap fun announcement =>
    (Console.show? (announcementMarkup announcement)).toOption
  return heading ++ lines.flatten ++ (← printed "[yellow]Stopped watching.[/yellow]")

/-! ## Running -/

/-- What a task needs to know besides its arguments. -/
structure Occasion where
  today : CalendarDate
  /-- The changes that are reported while a task watches. -/
  deliveries : Watcher.Deliveries := []

def reply (disk : Disk) (json : Bool) : Shown → Reply
  | .ok output => { output, disk }
  | .error failure => failure.reply json disk

/-- Where the first scan fails there is no report. -/
def checkReply (settings : Settings) (disk : Disk) (paths : List Path) (noResources json : Bool) :
    Reply :=
  match settings.scannedProject disk with
  | .error error => (Failure.plain error.message).reply json disk
  | .ok project =>
    match project.check disk paths (project.validateResources && !noResources) with
    | .error fault => (fault.failure project).reply json disk
    | .ok report =>
      match if json then .ok (documentOutput report.json) else printed report.markup with
      | .error failure => failure.reply json disk
      | .ok output => { output, status := if report.errorCount = 0 then 0 else 1, disk }

def Task.run (occasion : Occasion) (settings : Settings) (disk : Disk) : Task → Reply
  | .version json => reply disk json (versionOutput json)
  | .check paths noResources json => checkReply settings disk paths noResources json
  | .listVariables undefinedOnly json =>
    reply disk json do
      let project ← onDisk (settings.scannedProject disk)
      if undefinedOnly then undefinedOutput project json else variablesOutput project json
  | .resolve scene referrer json =>
    reply disk json (resolveOutput (settings.project.search disk) disk scene referrer json)
  | .scenes json => reply disk json (scenesOutput (settings.project.search disk) disk json)
  | .newScene directory fileName json =>
    let search := settings.project.search disk
    let outcome := search.createScene occasion.today (creationOptions directory fileName) disk
    reply outcome.disk json (createdOutput search json outcome.result)
  | .watch timeout =>
    reply disk false do
      let project ← onDisk (settings.scannedProject disk)
      watchOutput project (Time.ofSeconds settings.watchDebounceSeconds) disk timeout
        occasion.deliveries

/-- What the options say about fields. -/
def GlobalOptions.overrides (options : GlobalOptions) : Given :=
  .ofList <|
    (options.project.toList.map fun path => (Field.projectRoot.name, .path path)) ++
      if options.debug then
        [(Field.debug.name, .bool true), (Field.logLevel.name, .text "DEBUG")]
      else if options.verbose then [(Field.logLevel.name, .text "INFO")]
      else []

/-- Lines that say what can be asked for. -/
def usageLines : Text :=
  "Usage: " ++ productName ++ " [--config FILE] [--project DIR] [--verbose] [--debug] COMMAND\n" ++
    "Commands: " ++ Text.join ", " (TaskName.spellings.map (·.1)) ++ "\n"

def Refusal.reply (disk : Disk) : Refusal → Reply
  | .usage => { output := usageLines, status := 2, disk }
  | .help => { output := usageLines, disk }

/-- A whole command line. The settings are loaded and logging is set up before the arguments of the
task are read. -/
def runArguments (occasion : Occasion) (surroundings : Surroundings) (arguments : List Text) :
    Reply :=
  let disk := surroundings.disk
  match Invocation.read surroundings.environment arguments with
  | .error refusal => refusal.reply disk
  | .ok invocation =>
    let options := invocation.options
    match surroundings.forCommand options.config options.overrides with
    | .error fault => fault.failure.reply false disk
    | .ok settings =>
      match Logging.configure settings disk with
      | .error _ => { status := 1, disk }
      | .ok (_, disk) =>
        match Task.read invocation.name invocation.arguments with
        | .error refusal => refusal.reply disk
        | .ok task => task.run occasion settings disk

end SceneScript
