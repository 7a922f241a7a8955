import SceneScript.Datum.Display
import SceneScript.OrderedMap

/-! # Errors with advice

An error says what went wrong and, where possible, what to do about it.

* `ErrorKind` — the kinds, of which some are special cases of others;
* `ScriptError` — a kind, a message, a hint and details;
* `ScriptError.display` — the whole report;
* `misspelledKey?` — a configuration key that is a known misspelling.
-/

namespace SceneScript

inductive ErrorKind where
  | general
  | configuration
  | validation
  | fileSystem
  | sceneCreation
  | scriptFileNotFound
  deriving Repr, DecidableEq

namespace ErrorKind

def all : List ErrorKind :=
  [general, configuration, validation, fileSystem, sceneCreation, scriptFileNotFound]

/-- Failing to create a scene is a failure of the file system, and every kind is general. -/
def isA (kind other : ErrorKind) : Bool :=
  kind = other || other = general || (kind = sceneCreation && other = fileSystem)

def generalizations (kind : ErrorKind) : List ErrorKind := all.filter kind.isA

end ErrorKind

structure ScriptError where
  kind : ErrorKind
  message : Text
  hint : Option Text := none
  details : OrderedMap Text Datum := ∅

namespace ScriptError

/-- A hint that is not empty. -/
def hint? (error : ScriptError) : Option Text :=
  error.hint.bind fun hint => if hint = [] then none else some hint

def hintLine (error : ScriptError) : Text :=
  match error.hint? with
  | none => []
  | some hint => "\nHint: " ++ hint

def detailLines (error : ScriptError) : Text :=
  if error.details.isEmpty then []
  else
    "\nDetails:\n" ++
      Text.join "\n" (error.details.entries.map fun (key, value) =>
        "  " ++ key ++ ": " ++ value.display)

def display (error : ScriptError) : Text :=
  "Error: " ++ error.message ++ error.hintLine ++ error.detailLines

end ScriptError

/-! ## Configuration keys -/

/-- Keys that are often written, each with the one that was meant. -/
def misspelledKeys : List (Text × Text) :=
  [("gamePath", "game_path"), ("autoScanResources", "auto_scan_resources"),
   ("validateResources", "validate_resources"), ("enablePreview", "enable_preview"),
   ("scene_path", "game_path")]

def misspellingError (keys : List Scalar) (wrong correct : Text) : ScriptError :=
  { kind := .configuration
    message := "Invalid configuration key '" ++ wrong ++ "'"
    hint := some ("Use '" ++ correct ++ "' instead of '" ++ wrong ++ "'")
    details := .ofList
      [("found_keys", .list (keys.map .scalar)), ("invalid_key", .text wrong),
       ("correct_key", .text correct)] }

/-- The first known misspelling among the keys. -/
def misspelledKey? (keys : List Scalar) : Option ScriptError :=
  (misspelledKeys.find? fun (wrong, _) => keys.contains (.text wrong)).map fun (wrong, correct) =>
    misspellingError keys wrong correct

end SceneScript
