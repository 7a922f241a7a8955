import SceneScript.Settings.Environment
import SceneScript.Text.Blank

/-! # Environment files

A file of variables holds one binding on each line: a name, an equals sign and a value, which may
stand in quotes. A line that is no binding is passed over.

* `EnvironmentFile.bindings` — the names with what is written as their values;
* `EnvironmentFile.expand` — the value of a text with references to other variables;
* `EnvironmentFile.expandedBindings` — the variables that a file sets.
-/

namespace SceneScript.EnvironmentFile

def endsLine (c : Char) : Bool := c = '\n' || c = '\r'

def isInnerBlank (c : Char) : Bool := isBlank c && !endsLine c

def skipBlanks (t : Text) : Text := t.dropWhile isInnerBlank

/-- What a reader finds and what follows; if it fails, the rest from which to look for the end of
the line. -/
abbrev Reader (α : Type) := Text → Except Text (α × Text)

/-! ## Names -/

def exportWord : Text := "export"

/-- A word in front of a name that says who sees the variable. -/
def skipExport (t : Text) : Text :=
  let rest := t.drop exportWord.length
  if Text.startsWith exportWord t && rest.head?.any isInnerBlank then skipBlanks rest else t

def isNameChar (c : Char) : Bool := c ≠ '=' && c ≠ '#' && !isBlank c

/-- A name, which may stand in single quotes; a comment has none. -/
def readName : Reader (Option Text) := fun t =>
  match t with
  | '#' :: _ => .ok (none, t)
  | '\'' :: rest =>
    match Text.breakAt? '\'' rest with
    | some ([], _) | none => .error t
    | some (name, rest) => .ok (some name, rest)
  | _ =>
    match t.takeWhile isNameChar with
    | [] => .error t
    | name => .ok (some name, t.dropWhile isNameChar)

/-! ## Values -/

/-- A text up to a quote; a character after a backslash is none. -/
def readQuoted? (quote : Char) : Text → Option (Text × Text)
  | [] => none
  | '\\' :: c :: rest =>
    (readQuoted? quote rest).map fun (text, after) => ('\\' :: c :: text, after)
  | c :: rest =>
    if c = quote then some ([], rest)
    else (readQuoted? quote rest).map fun (text, after) => (c :: text, after)

def singleEscapes : List (Char × Char) := [('\\', '\\'), ('\'', '\'')]

def doubleEscapes : List (Char × Char) :=
  singleEscapes ++
    [('"', '"'), ('a', '\x07'), ('b', '\x08'), ('f', '\x0c'), ('n', '\n'), ('r', '\r'),
     ('t', '\t'), ('v', '\x0b')]

def unescape (escapes : List (Char × Char)) : Text → Text
  | '\\' :: c :: rest =>
    match escapes.lookup c with
    | some escaped => escaped :: unescape escapes rest
    | none => '\\' :: unescape escapes (c :: rest)
  | c :: rest => c :: unescape escapes rest
  | [] => []

/-- Cuts a comment off, which starts with a blank. -/
def dropComment : Text → Text
  | [] => []
  | c :: rest =>
    if isBlank c && (rest.dropWhile isBlank).head? = some '#' then [] else c :: dropComment rest

/-- The value after an equals sign; a comment takes its place where a blank stands before it. -/
def readValue : Reader Text := fun written =>
  let t := skipBlanks written
  let quoted (quote : Char) (escapes : List (Char × Char)) (rest : Text) :=
    match readQuoted? quote rest with
    | some (text, rest) => .ok (unescape escapes text, rest)
    | none => .error t
  match t with
  | '\'' :: rest => quoted '\'' singleEscapes rest
  | '"' :: rest => quoted '"' doubleEscapes rest
  | _ =>
    let isComment := t.head? = some '#' && t.length < written.length
    let value := dropComment (t.takeWhile (!endsLine ·))
    .ok (if isComment then [] else Text.stripEnd value, t.dropWhile (!endsLine ·))

/-! ## Bindings -/

def skipComment (t : Text) : Text :=
  match skipBlanks t with
  | '#' :: rest => rest.dropWhile (!endsLine ·)
  | _ => t

def skipLineEnd : Text → Option Text
  | [] => some []
  | '\r' :: '\n' :: rest => some rest
  | c :: rest => if endsLine c then some rest else none

/-- One line: a name with its value, if it has one, or nothing. -/
def readBinding : Reader (Option (Text × Option Text)) := fun t => do
  let (name, t) ← readName (skipExport t)
  let t := skipBlanks t
  let (value, t) ←
    match t with
    | '=' :: rest => do
      let (value, rest) ← readValue rest
      pure (some value, rest)
    | _ => pure (none, t)
  let t := skipComment t
  match skipLineEnd (skipBlanks t) with
  | some rest => return (name.map (·, value), rest)
  | none => throw t

def bindingsIn : Nat → Text → List (Text × Option Text)
  | 0, _ => []
  | fuel + 1, t =>
    match t.dropWhile isBlank with
    | [] => []
    | t =>
      match readBinding t with
      | .ok (binding, rest) => binding.toList ++ bindingsIn fuel rest
      | .error rest =>
        let rest := rest.dropWhile (!endsLine ·)
        bindingsIn fuel ((skipLineEnd rest).getD rest)

def byteOrderMark : Char := '\ufeff'

/-- A byte order mark at the start is no part of the first line. -/
def bindings (t : Text) : List (Text × Option Text) :=
  let lines := if t.head? = some byteOrderMark then t.tail else t
  bindingsIn (lines.length + 1) lines

/-! ## References -/

/-- A reference after its opening brace: a name, and what it stands for where it has no value. -/
def readReference? (t : Text) : Option (Text × Text × Text) := do
  let (inside, rest) ← Text.breakAt? '\x7d' t
  match Text.breakAt? ':' inside with
  | none => some (inside, [], rest)
  | some (name, '-' :: default) => some (name, default, rest)
  | some _ => none

/-- Replaces every reference; one to a variable without a value stands for its default, or for
nothing. -/
def expandIn (value? : Text → Option (Option Text)) : Nat → Text → Text
  | 0, t => t
  | fuel + 1, t =>
    match t with
    | [] => []
    | '$' :: '\x7b' :: rest =>
      match readReference? rest with
      | some (name, default, after) =>
        ((value? name).getD (some default)).getD [] ++ expandIn value? fuel after
      | none => '$' :: expandIn value? fuel ('\x7b' :: rest)
    | c :: rest => c :: expandIn value? fuel rest

def expand (value? : Text → Option (Option Text)) (t : Text) : Text :=
  expandIn value? t.length t

/-- The variables that a file sets, of which later ones may refer to earlier ones. -/
def expandedBindings (environment : Environment) (t : Text) : OrderedMap Text (Option Text) :=
  (bindings t).foldl
    (fun found (name, value) =>
      let value? (name : Text) : Option (Option Text) :=
        (found.get? name).or ((environment.bindings.get? name).map some)
      found.insert name (value.map (expand value?)))
    ∅

end SceneScript.EnvironmentFile
