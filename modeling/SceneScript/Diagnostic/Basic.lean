import SceneScript.Line.Basic

/-! # Diagnostics

A diagnostic reports one finding on one line. Columns count characters from zero, and the last one
is exclusive.

* `Severity`, `DiagnosticCode`, `Diagnostic` — the records;
* `Finding` — what can be found, with its wording, severity and code.
-/

namespace SceneScript

inductive Severity where
  | error
  | warning
  | hint
  deriving Repr, DecidableEq

namespace Severity

def all : List Severity := [error, warning, hint]

def name : Severity → Text
  | error => "error"
  | warning => "warning"
  | hint => "hint"

def ofName? (name : Text) : Option Severity := all.find? (·.name = name)

end Severity

inductive DiagnosticCode where
  | unknownCommand
  | missingParameter
  | resourceNotFound
  | undefinedLabel
  | undefinedVariable
  | unusedLabel
  deriving Repr, DecidableEq

namespace DiagnosticCode

def all : List DiagnosticCode :=
  [unknownCommand, missingParameter, resourceNotFound, undefinedLabel, undefinedVariable,
   unusedLabel]

def name : DiagnosticCode → Text
  | unknownCommand => "unknown-command"
  | missingParameter => "missing-parameter"
  | resourceNotFound => "resource-not-found"
  | undefinedLabel => "undefined-label"
  | undefinedVariable => "undefined-variable"
  | unusedLabel => "unused-label"

def ofName? (name : Text) : Option DiagnosticCode := all.find? (·.name = name)

end DiagnosticCode

structure Diagnostic where
  number : Int
  startColumn : Int
  endColumn : Int
  message : Text
  severity : Severity
  code : DiagnosticCode
  file : Text := []
  deriving Repr, DecidableEq

def Diagnostic.isError (diagnostic : Diagnostic) : Bool := diagnostic.severity = .error

/-- The number of diagnostics of each severity. -/
def severityCounts (diagnostics : List Diagnostic) : List (Severity × Nat) :=
  Severity.all.map fun severity => (severity, diagnostics.countP (·.severity = severity))

/-! ## Findings -/

inductive Finding where
  | unknownCommand (name : Text)
  | missingParameter (name : Text)
  | resourceNotFound (name : Text)
  | undefinedLabel (name : Text)
  | undefinedVariables (names : List Text)
  | unusedLabel (name : Text)
  deriving Repr, DecidableEq

namespace Finding

def code : Finding → DiagnosticCode
  | unknownCommand _ => .unknownCommand
  | missingParameter _ => .missingParameter
  | resourceNotFound _ => .resourceNotFound
  | undefinedLabel _ => .undefinedLabel
  | undefinedVariables _ => .undefinedVariable
  | unusedLabel _ => .unusedLabel

def severity : Finding → Severity
  | unknownCommand _ | missingParameter _ | undefinedLabel _ => .error
  | resourceNotFound _ | undefinedVariables _ => .warning
  | unusedLabel _ => .hint

def message : Finding → Text
  | unknownCommand name => "unknown command: " ++ name
  | missingParameter name => "missing required parameter: " ++ name
  | resourceNotFound name => "resource not found: " ++ name
  | undefinedLabel name => "label not defined: " ++ name
  | undefinedVariables names => "undefined variable in condition: " ++ Text.join ", " names
  | unusedLabel name => "label unused: " ++ name

/-- The finding as a diagnostic on `line`, from the first column of `span` to before the second. -/
def on (finding : Finding) (file : Text) (line : Line) (span : Nat × Nat) : Diagnostic :=
  { number := line.number
    startColumn := span.1
    endColumn := span.2
    message := finding.message
    severity := finding.severity
    code := finding.code
    file }

end Finding

namespace Line

def wholeSpan (line : Line) : Nat × Nat := (0, line.raw.length)

/-- The span of the first `length` characters after the first colon of the raw line. -/
def contentSpan (line : Line) (length : Nat) : Nat × Nat :=
  let start := ((Text.find? ':' line.raw).map (· + 1)).getD 0
  (start, start + length)

end Line

end SceneScript
