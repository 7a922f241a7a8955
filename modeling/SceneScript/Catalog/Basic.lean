import SceneScript.OrderedMap
import SceneScript.Text.Basic

/-! # Command catalogs

A catalog says which commands are valid and what is documented about them. A command without
documentation is valid all the same and has a bare entry.

* `ParameterInfo`, `CommandInfo` — the documentation of a command;
* `Catalog.ofNames` — a catalog of given names and of every documented command;
* `Catalog.requiredInContent` — the required parameters that the content of a command supplies.
-/

namespace SceneScript

inductive ParameterType where
  | string
  | number
  | boolean
  | file
  deriving Repr, DecidableEq

def ParameterType.name : ParameterType → Text
  | .string => "string"
  | .number => "number"
  | .boolean => "boolean"
  | .file => "file"

structure ParameterInfo where
  name : Text
  description : Text := []
  required : Bool := false
  type : ParameterType := .string
  allowed : Option (List Text) := none
  deriving Repr, DecidableEq

structure CommandInfo where
  name : Text
  description : Text := []
  usage : Text := []
  parameters : List ParameterInfo := []
  examples : List Text := []
  deriving Repr, DecidableEq

abbrev Documentation := OrderedMap Text CommandInfo

structure Catalog where
  entries : OrderedMap Text CommandInfo
  deriving Repr, DecidableEq

namespace Catalog

/-- The given names in order, then the documented ones that are not among them. -/
def ofNames (names : List Text) (documentation : Documentation) : Catalog :=
  let named : OrderedMap Text CommandInfo :=
    names.foldl
      (fun entries name => entries.insert name ((documentation.get? name).getD { name })) ∅
  ⟨documentation.entries.foldl
    (fun entries (name, info) =>
      if entries.contains name then entries else entries.insert name info)
    named⟩

def names (catalog : Catalog) : List Text := catalog.entries.keys

def info? (catalog : Catalog) (name : Text) : Option CommandInfo := catalog.entries.get? name

def contains (catalog : Catalog) (name : Text) : Bool := catalog.entries.contains name

def size (catalog : Catalog) : Nat := catalog.entries.size

/-- Parameters whose value is the content of the command. -/
def contentParameters : List Text := ["filename", "name", "expression"]

def requiredInContent (catalog : Catalog) (name : Text) : List Text :=
  match catalog.info? name with
  | none => []
  | some info =>
    (info.parameters.filter fun p => p.required && contentParameters.contains p.name).map (·.name)

end Catalog

end SceneScript
