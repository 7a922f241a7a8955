import SceneScript.Diagnostic.Basic
import SceneScript.Json.Response
import SceneScript.OrderedMap
import SceneScript.Output.Markup

/-! # Reports of diagnostics

The diagnostics of several files, by the path of each file.

* `Report.summary`, `Report.errorCount` — how many there are;
* `Report.markup` — one line for each, where lines and columns count from one, and a summary;
* `Report.json` — the same for programs;
* `Report.ofEntries` — a report from the data of its diagnostics.
-/

namespace SceneScript

abbrev Report := OrderedMap Text (List Diagnostic)

def Severity.style : Severity → Text
  | .error => "red"
  | .warning => "yellow"
  | .hint => "cyan"

namespace Diagnostic

def markup (path : Text) (d : Diagnostic) : Text :=
  Markup.escape path ++ ":" ++ Text.ofInt (d.number + 1) ++ ":" ++ Text.ofInt (d.startColumn + 1) ++
    " [" ++ d.severity.style ++ "]" ++ d.severity.name ++ "[/" ++ d.severity.style ++ "] " ++
    Markup.escape d.message ++ " [dim](" ++ d.code.name ++ ")[/dim]"

def toDatum (d : Diagnostic) : Datum :=
  .object
    [("line_number", .int d.number), ("start_col", .int d.startColumn),
     ("end_col", .int d.endColumn), ("message", .text d.message),
     ("severity", .text d.severity.name), ("code", .text d.code.name),
     ("file_path", .text d.file)]

end Diagnostic

/-- A name that no severity or no code has. -/
inductive DiagnosticFault where
  | severity (name : Text)
  | code (name : Text)
  deriving Repr, DecidableEq

/-! ## Reading -/

def textIn (key : String) (data : Datum) : Text :=
  match data.lookup? key.toList with
  | some (.text t) => t
  | _ => []

def intIn (key : String) (data : Datum) : Int :=
  match data.lookup? key.toList with
  | some (.int n) => n
  | _ => 0

def itemsOf : Datum → List Datum
  | .list items => items
  | _ => []

/-- A diagnostic from the data that is written of it. -/
def Diagnostic.ofDatum (data : Datum) : Except DiagnosticFault Diagnostic := do
  let severityName := textIn "severity" data
  let some severity := Severity.ofName? severityName | throw (.severity severityName)
  let codeName := textIn "code" data
  let some code := DiagnosticCode.ofName? codeName | throw (.code codeName)
  return {
    number := intIn "line_number" data
    startColumn := intIn "start_col" data
    endColumn := intIn "end_col" data
    message := textIn "message" data
    severity, code
    file := textIn "file_path" data }

namespace Report

/-- The report of files with the data of their diagnostics. -/
def ofEntries (entries : List (Text × Datum)) : Except DiagnosticFault Report := do
  let entries ← entries.mapM fun (path, data) => do
    return (path, ← (itemsOf data).mapM Diagnostic.ofDatum)
  return .ofList entries

/-! ## Writing -/

def diagnostics (report : Report) : List Diagnostic := report.values.flatten

def errorCount (report : Report) : Nat := report.diagnostics.countP (·.isError)

def summary (report : Report) : List (Text × Nat) :=
  ("files", report.size) ::
    (severityCounts report.diagnostics).map fun (severity, n) => (severity.name ++ ['s'], n)

def summaryMarkup (report : Report) : Text :=
  let count (severity : Severity) : Text :=
    Text.ofNat (report.diagnostics.countP (·.severity = severity))
  "[bold]" ++ Text.ofNat report.size ++ " file(s) checked:[/bold] " ++
    count .error ++ " error(s), " ++ count .warning ++ " warning(s), " ++
    count .hint ++ " hint(s)"

def markup (report : Report) : Text :=
  Text.join "\n" <|
    (report.entries.flatMap fun (path, ds) => ds.map (Diagnostic.markup path)) ++
      [report.summaryMarkup]

def toDatum (report : Report) : Datum :=
  .object
    [("files", .object (report.entries.map fun (path, ds) => (path, .list (ds.map (·.toDatum))))),
     ("summary", .object (report.summary.map fun (name, n) => (name, .int n)))]

def json (report : Report) : Text := Json.document report.toDatum

end Report

end SceneScript
