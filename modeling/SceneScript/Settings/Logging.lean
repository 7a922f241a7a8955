import SceneScript.Disk
import SceneScript.Json.Writer
import SceneScript.Settings.Basic
import SceneScript.Text.Case

/-! # Logging

* `logLevelNumbers`, `logThreshold` — the levels, and the one that settings ask for;
* `LogRecord`, `LogLayout` — a record, and how it is written;
* `Logging`, `Logging.configure` — where records go, with the file they are written to;
* `Logging.accepts`, `Logging.write` — which records are written, and the file after them.
-/

namespace SceneScript

/-- The names of levels in alphabetical order. -/
def logLevelNumbers : List (Text × Nat) :=
  [("CRITICAL", 50), ("DEBUG", 10), ("ERROR", 40), ("FATAL", 50), ("INFO", 20), ("NOTSET", 0),
   ("WARN", 30), ("WARNING", 30)]

/-- A name that looks like one of a level but belongs to the layout of records. -/
def recordLayoutName : Text := "BASIC_FORMAT"

def recordLayout : Text := "%(levelname)s:%(name)s:%(message)s"

/-- A name that looks like one of a level but belongs to the styles of that layout. -/
def layoutStylesName : Text := "_STYLES"

inductive LoggingFault where
  | unknownLevel (name : Text)
  /-- What the name stands for is neither a number nor a name. -/
  | notALevel (name : Text)
  | disk (error : DiskError)
  deriving Repr, DecidableEq

def unknownLevelMessage (name : Text) : Text :=
  if Text.upper name = recordLayoutName then "Unknown level: " ++ Text.quoted recordLayout
  else
    "Invalid log level '" ++ name ++ "'. Valid levels are: " ++
      Text.join ", " (logLevelNumbers.map (·.1))

/-- The least level of the records that are written; names count in any letter case. -/
def logThreshold (name : Text) : Except LoggingFault Nat :=
  match logLevelNumbers.lookup (Text.upper name) with
  | some level => .ok level
  | none =>
    if Text.upper name = layoutStylesName then .error (.notALevel name)
    else .error (.unknownLevel name)

structure LogRecord where
  level : Int
  text : Text
  deriving Repr, DecidableEq

def levelWords : List (Int × Text) :=
  [(10, "debug"), (20, "info"), (30, "warning"), (40, "error"), (50, "critical")]

/-- The name of a level in records; a level between the known ones has a number. -/
def levelWord (level : Int) : Text :=
  (levelWords.lookup level).getD ("level " ++ Text.ofInt level)

/-- How a record is written. -/
inductive LogLayout where
  /-- Columns, and the text as it is. -/
  | console
  /-- An object on one line. -/
  | json
  /-- Names with quoted texts on one line. -/
  | structured
  deriving Repr, DecidableEq

namespace LogLayout

def ofName (name : Text) : LogLayout :=
  if name = "json".toList then json
  else if name = "structured".toList then structured
  else console

def levelWidth : Nat := 9

def textWidth : Nat := 30

/-- A record of a logger, at some time, with the line feed after it. -/
def line (layout : LogLayout) (logger time : Text) (record : LogRecord) : Text :=
  let level := levelWord record.level
  let written :=
    match layout with
    | console =>
      time ++ " [" ++ level ++ List.replicate (levelWidth - level.length) ' ' ++ "] " ++
        record.text ++ List.replicate (textWidth - record.text.length) ' ' ++ " [" ++ logger ++ "]"
    | json =>
      Json.compact (.object
        [("event", .text record.text), ("timestamp", .text time), ("level", .text level),
         ("logger", .text logger)])
    | structured =>
      "timestamp=" ++ Text.quoted time ++ " level=" ++ Text.quoted level ++ " logger=" ++
        Text.quoted logger ++ " event=" ++ Text.quoted record.text
  written ++ ['\n']

end LogLayout

structure Logging where
  threshold : Nat
  file : Option Path := none
  layout : LogLayout := .console
  deriving Repr, DecidableEq

namespace Logging

/-- Sets logging up as settings say; the file and the directories above it are made. -/
def configure (settings : Settings) (disk : Disk) : Except LoggingFault (Logging × Disk) := do
  let threshold ← logThreshold settings.logLevel
  let logging : Logging :=
    { threshold, file := settings.logFile, layout := .ofName settings.logFormat }
  match settings.logFile with
  | none => return (logging, disk)
  | some file =>
    let written := do
      let disk ← disk.makeDirectories file.parent
      if disk.isFile file then return disk else disk.writeText file []
    match written with
    | .ok disk => return (logging, disk)
    | .error error => throw (.disk error)

/-- Records below every level are never written. -/
def accepts (logging : Logging) (record : LogRecord) : Bool :=
  decide (0 < record.level) && decide ((logging.threshold : Int) ≤ record.level)

def accepted (logging : Logging) (records : List LogRecord) : List LogRecord :=
  records.filter logging.accepts

/-- What records that are written add to the file. -/
def linesOf (logging : Logging) (logger time : Text) (records : List LogRecord) : Text :=
  (logging.accepted records).flatMap (logging.layout.line logger time)

/-- The disk after some records, which come after what the file held before. -/
def write (logging : Logging) (logger time : Text) (records : List LogRecord) (disk : Disk) :
    Except DiskError Disk :=
  match logging.file with
  | none => .ok disk
  | some file =>
    match disk.content? file with
    | .error fault => .error ⟨fault, file⟩
    | .ok content =>
      disk.write file (content.append (logging.linesOf logger time records))

end Logging

end SceneScript
