import SceneScript.Line.Basic

/-! # Reading lines

Every text is a line: what is neither a comment nor a command is dialogue.

* `Text.beforeComment` — a line up to the first semicolon that no backslash escapes;
* `Text.unescape` — escaped semicolons become semicolons;
* `Statement.ofBody`, `Statement.ofText` — the statement of a line;
* `Script.parse` — the lines of a document.
-/

namespace SceneScript

/-- The text up to the first semicolon that does not directly follow a backslash; `escaped` says
whether the text itself follows one. -/
def Text.beforeComment (escaped : Bool) : Text → Text
  | [] => []
  | c :: rest =>
    if c = ';' ∧ escaped = false then [] else c :: Text.beforeComment (c = '\\') rest

def Text.unescape : Text → Text
  | [] => []
  | '\\' :: ';' :: rest => ';' :: Text.unescape rest
  | c :: rest => c :: Text.unescape rest

namespace Statement

/-- Nobody speaks a line whose speaker is not named. -/
def speakerOfHead (head : Text) : Option Text := if head = [] then none else some head

/-- The statement of a line without its comment and with its semicolons restored. -/
def ofBody (vocabulary : Vocabulary) (body : Text) : Statement :=
  let (main, arguments) := splitArguments body
  match Text.breakAt? ':' main with
  | some (before, after) =>
    let head := Text.strip before
    let content := Text.strip after
    if head ∈ vocabulary then .command head content arguments
    else .dialogue (speakerOfHead head) content arguments
  | none =>
    if main ∈ vocabulary then .command main [] arguments
    else .dialogue none main arguments

def ofText (vocabulary : Vocabulary) (raw : Text) : Statement :=
  match Text.strip raw with
  | [] => .blank
  | ';' :: rest => .comment (Text.strip rest)
  | trimmed =>
    ofBody vocabulary (Text.unescape (Text.strip (Text.beforeComment false trimmed)))

end Statement

def Line.parse (vocabulary : Vocabulary) (raw : Text) (number : Int) : Line :=
  { number, raw, statement := .ofText vocabulary raw }

def Script.parse (vocabulary : Vocabulary) (document : Text) : Script :=
  (Text.lines document).mapIdx fun number raw => Line.parse vocabulary raw number

end SceneScript
