import SceneScript.Text.Case

/-! # Paths

A path is an anchor and a list of names; the name `.` and empty names are left out when a path is
read, and `..` is kept until a path is collapsed.

* `Path.ofText`, `Path.toText` — reading and writing;
* `Path.join`, `Path.parent`, `Path.name`, `Path.suffix` — parts of paths;
* `Path.collapse` — `..` cancels the name before it, without a look at any disk;
* `Path.relativeTo` — how to get from one directory to another place;
* `joinText` — joining before reading, which keeps the spelling of both parts.
-/

namespace SceneScript

/-- Where a path starts: at the working directory, at the root, or at the place that exactly two
slashes stand for. -/
inductive Anchor where
  | relative
  | root
  | doubleRoot
  deriving Repr, DecidableEq

def Anchor.toText : Anchor → Text
  | .relative => ""
  | .root => "/"
  | .doubleRoot => "//"

structure Path where
  anchor : Anchor := .relative
  names : List Text := []
  deriving Repr, DecidableEq

namespace Path

def currentName : Text := "."
def parentName : Text := ".."

/-! ## Reading and writing -/

def anchorOf : Text → Anchor
  | '/' :: '/' :: '/' :: _ => .root
  | '/' :: '/' :: _ => .doubleRoot
  | '/' :: _ => .root
  | _ => .relative

def namesOf (t : Text) : List Text :=
  (Text.pieces '/' t).filter fun name => name ≠ [] ∧ name ≠ currentName

def ofText (t : Text) : Path := ⟨anchorOf t, namesOf t⟩

/-- The path that names nothing is written as a dot. -/
def toText (p : Path) : Text :=
  let written := p.anchor.toText ++ Text.join ['/'] p.names
  if written = [] then currentName else written

def isAbsolute (p : Path) : Bool := p.anchor ≠ .relative

/-- No file can have a name that holds the null character. -/
def hasNull (p : Path) : Bool := p.names.any (·.contains '\x00')

/-! ## Parts -/

/-- A second path that starts at the root replaces the first. -/
def join (p q : Path) : Path :=
  if q.isAbsolute then q else ⟨p.anchor, p.names ++ q.names⟩

def child (p : Path) (name : Text) : Path := ⟨p.anchor, p.names ++ [name]⟩

def parent (p : Path) : Path := ⟨p.anchor, p.names.dropLast⟩

def name (p : Path) : Text := p.names.getLast?.getD []

/-- What follows the last dot of a name, with the dot; a dot at either end does not count. -/
def suffixOfName (name : Text) : Text :=
  match Text.breakAt? '.' name.reverse with
  | some (after, before) => if after = [] ∨ before = [] then [] else '.' :: after.reverse
  | none => []

def suffix (p : Path) : Text := suffixOfName p.name

/-! ## Collapsing -/

/-- One more name after the names collapsed so far, which are given last one first. -/
def collapseStep (anchor : Anchor) (collapsed : List Text) (name : Text) : List Text :=
  if name = parentName then
    match collapsed with
    | [] => if anchor = .relative then [parentName] else []
    | last :: rest => if last = parentName then parentName :: collapsed else rest
  else name :: collapsed

def collapse (p : Path) : Path :=
  ⟨p.anchor, (p.names.foldl (collapseStep p.anchor) []).reverse⟩

/-- The collapsed form of a path as text. -/
def normalize (t : Text) : Text := (ofText t).collapse.toText

/-- The place that a path stands for when nothing but names has to be followed. -/
def absolute (workingDirectory : List Text) (p : Path) : Path :=
  { (join ⟨.root, workingDirectory⟩ p).collapse with anchor := .root }

def commonLength : List Text → List Text → Nat
  | a :: as, b :: bs => if a = b then commonLength as bs + 1 else 0
  | _, _ => 0

def relativeTo (workingDirectory : List Text) (start p : Path) : Path :=
  let start := (start.absolute workingDirectory).names
  let target := (p.absolute workingDirectory).names
  let common := commonLength start target
  ⟨.relative, List.replicate (start.length - common) parentName ++ target.drop common⟩

/-- The names that lead from a directory down to a path that starts with it. -/
def below? (directory p : Path) : Option (List Text) :=
  if p.anchor = directory.anchor ∧ directory.names <+: p.names then
    some (p.names.drop directory.names.length)
  else none

/-- The order of paths is that of their lists of names. -/
def ble (p q : Path) : Bool := lexLe Text.blt p.names q.names

def sort (ps : List Path) : List Path := ps.mergeSort ble

end Path

/-- Two spellings in a row; a second one that starts at the root replaces the first. -/
def joinText (a b : Text) : Text :=
  if Text.startsWith ['/'] b ∨ a = [] then b
  else if Text.endsWith ['/'] a then a ++ b
  else a ++ '/' :: b

end SceneScript
