import SceneScript.Symbols

/-! # Mentions of variables

A line mentions a variable when it reads it in its condition, assigns it, or reads it in an
assigned value. The records gather the mentions of each variable over many files.

* `Line.mentions` — the mentions of one line, in order;
* `VariableRecord` — the definitions and the usages of one variable;
* `Records.addScript`, `Records.withoutFile` — what a file contributes, put in and taken out.
-/

namespace SceneScript

inductive UsageKind where
  | read
  | write
  deriving Repr, DecidableEq

def UsageKind.name : UsageKind → Text
  | .read => "read"
  | .write => "write"

structure VariableUsage where
  file : Text
  number : Int
  context : Text
  kind : UsageKind
  deriving Repr, DecidableEq

inductive Mention where
  | definition (definition : VariableDefinition)
  | usage (name : Text) (usage : VariableUsage)
  deriving Repr, DecidableEq

def Mention.name : Mention → Text
  | .definition d => d.name
  | .usage name _ => name

namespace Line

def usage (file : Text) (kind : UsageKind) (line : Line) (name : Text) : Mention :=
  .usage name ⟨file, line.number, line.raw, kind⟩

def conditionMentions (file : Text) (line : Line) : List Mention :=
  (identifiers (line.condition?.getD [])).map (line.usage file .read)

def assignmentMentions (file : Text) (line : Line) : List Mention :=
  match line.assignment? with
  | none => []
  | some a =>
    .definition ⟨a.name, a.value, line.number, file⟩ :: line.usage file .write a.name ::
      (identifiers a.value).map (line.usage file .read)

def mentions (file : Text) (line : Line) : List Mention :=
  line.conditionMentions file ++ line.assignmentMentions file

end Line

def Script.mentions (file : Text) (script : Script) : List Mention :=
  script.flatMap (Line.mentions file)

/-! ## Records -/

structure VariableRecord where
  name : Text
  definitions : List VariableDefinition := []
  usages : List VariableUsage := []
  deriving Repr, DecidableEq

namespace VariableRecord

def isDefined (record : VariableRecord) : Bool := !record.definitions.isEmpty

def isEmpty (record : VariableRecord) : Bool :=
  record.definitions.isEmpty && record.usages.isEmpty

def add (record : VariableRecord) : Mention → VariableRecord
  | .definition d => { record with definitions := record.definitions ++ [d] }
  | .usage _ u => { record with usages := record.usages ++ [u] }

def withoutFile (file : Text) (record : VariableRecord) : VariableRecord :=
  { record with
    definitions := record.definitions.filter (·.file ≠ file)
    usages := record.usages.filter (·.file ≠ file) }

end VariableRecord

abbrev Records := OrderedMap Text VariableRecord

namespace Records

def add (records : Records) (mention : Mention) : Records :=
  records.modifyD mention.name { name := mention.name } (·.add mention)

def addScript (file : Text) (script : Script) (records : Records) : Records :=
  (script.mentions file).foldl add records

/-- The records without what `file` contributed; a variable that nothing mentions any more has
no record. -/
def withoutFile (file : Text) (records : Records) : Records :=
  records.filterMap fun _ record =>
    let kept := record.withoutFile file
    if kept.isEmpty then none else some kept

end Records

end SceneScript
