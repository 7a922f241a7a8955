import SceneScript.Settings.Basic
import SceneScript.Settings.Environment
import SceneScript.Text.Surrogate

/-! # Valid settings

What a field accepts, and what it makes of a value.

* `FieldFault` — why a field refuses a value;
* `flagOf`, `delayOf`, `pathOf`, `gamePathOf`, `logLevelOf`, `logFormatOf` — the rules;
* `Settings.assign` — one field;
* `Settings.build` — all fields from a source, with the faults of all of them.
-/

namespace SceneScript

inductive FieldFault where
  | badFlag
  | notFlag
  | badNumber
  | notNumber
  | negative
  | notPath
  | badPattern
  /-- A text holds half of a surrogate pair. -/
  | brokenText
  | refused (message : Text)
  | unknownHome
  deriving Repr, DecidableEq

abbrev Checked (α : Type) := Except FieldFault α

/-! ## Rules -/

def trueWords : List Text := ["1", "on", "t", "true", "y", "yes"]

def falseWords : List Text := ["0", "off", "f", "false", "n", "no"]

/-- What a text says, or a sequence of bytes that encodes one; nothing for other values. -/
def writtenOf (undecodable : FieldFault) : SettingValue → Checked (Option Text)
  | .text t => if Text.isWhole t then .ok (some t) else .error .brokenText
  | .datum (.scalar (.bytes bytes)) =>
    match FileContent.ofBytes bytes with
    | .text t => .ok (some t)
    | .undecodable _ => .error undecodable
  | _ => .ok none

def flagOfText (t : Text) : Checked Bool :=
  let word := t.map Char.toLower
  if trueWords.contains word then .ok true
  else if falseWords.contains word then .ok false
  else .error .badFlag

/-- The first whole number that does not fit into 64 bits with a sign. -/
def longLimit : Nat := 0x8000000000000000

/-- Integers of more than sixty-four bits are not even looked at. -/
def flagOfInt (n : Int) : Checked Bool :=
  if n = 1 then .ok true
  else if n = 0 then .ok false
  else if -(longLimit : Int) ≤ n ∧ n < longLimit then .error .badFlag
  else .error .notFlag

def flagOfFloat (x : Float) : Checked Bool :=
  if x == 1.0 then .ok true
  else if x == 0.0 then .ok false
  else if x == x.floor && x.abs < Float.ofNat longLimit then .error .badFlag
  else .error .notFlag

/-- A truth value, one of the words for it in any letter case, or one of the numbers zero and
one. -/
def flagOf (value : SettingValue) : Checked Bool := do
  match ← writtenOf .badFlag value, value with
  | some t, _ => flagOfText t
  | none, .datum (.bool b) => return b
  | none, .datum (.int n) => flagOfInt n
  | none, .datum (.float x) => flagOfFloat x
  | none, _ => throw .notFlag

def isNumeralEdge (c : Char) : Bool := isBlank c && !(0x1c ≤ c.toNat && c.toNat ≤ 0x1f)

def trimNumeral (t : Text) : Text :=
  ((t.dropWhile isNumeralEdge).reverse.dropWhile isNumeralEdge).reverse

/-- Whether every underscore stands alone between two other characters. -/
def hasInnerGaps (t : Text) : Bool :=
  let groups := Text.pieces '_' t
  1 < groups.length && groups.all (· ≠ [])

def numberOfText? (t : Text) : Option Float :=
  (readNumber? (trimNumeral t)).or
    (if hasInnerGaps t then readNumber? (t.filter (· ≠ '_')) else none)

def numberOf (value : SettingValue) : Checked Float := do
  match ← writtenOf .badNumber value, value with
  | some t, _ => (numberOfText? t).elim (throw .badNumber) pure
  | none, .datum (.float x) => return x
  | none, .datum (.int n) =>
    let x := Float.ofInt n
    if x.isInf then throw .notNumber else return x
  | none, .datum (.bool b) => return if b then 1.0 else 0.0
  | none, _ => throw .notNumber

/-- A number of seconds, not below zero. -/
def delayOf (value : SettingValue) : Checked Float := do
  let x ← numberOf value
  if 0.0 ≤ x then return x else throw .negative

/-! ### Paths -/

/-- Half of a pair that stands for a byte which is no part of a character. -/
def isStrayByte (c : Char) : Bool := isHalf c && 0xdc80 ≤ unitOf c && unitOf c ≤ 0xdcff

/-- From the first half that has no meaning in a path to the last of the halves after it. -/
def brokenSpan? (t : Text) : Option (Nat × Nat) :=
  (t.findIdx? fun c => isHalf c && !isStrayByte c).map fun first =>
    (first, first + ((t.drop first).takeWhile isHalf).length - 1)

def brokenPathMessage (t : Text) (first last : Nat) : Text :=
  let place : Text :=
    if first = last then
      "character " ++ Text.quoted ((t.drop first).take 1) ++ " in position " ++ Text.ofNat first
    else "characters in position " ++ Text.ofNat first ++ "-" ++ Text.ofNat last
  "'utf-8' codec can't encode " ++ place ++ ": surrogates not allowed"

/-- What is wrong with the text of a path. -/
def pathTextFault? (t : Text) : Option Text :=
  match brokenSpan? t with
  | some (first, last) => some (brokenPathMessage t first last)
  | none => if t.contains '\x00' then some DiskFault.nullCharacter.describe else none

/-- What is wrong with a path, found by following it name by name. -/
def pathFault? (path : Path) : Option Text :=
  (List.range (path.names.length + 1)).findSome? fun n =>
    let anchor : Anchor := if path.isAbsolute then .root else .relative
    pathTextFault? (Path.toText (Path.collapse ⟨anchor, path.names.take n⟩))

/-- What is wrong with the name of the user in whose home directory a path starts. -/
def homeFault? (path : Path) : Option Text :=
  match path.anchor, path.names with
  | .relative, ('~' :: user) :: _ => pathTextFault? user
  | _, _ => none

def placeOf (environment : Environment) (path : Path) : Checked Path :=
  match pathFault? path with
  | some message => .error (.refused message)
  | none => .ok (environment.resolve path)

/-- Whether an integer in a value has more digits than numerals may have. -/
def Scalar.hasLongNumeral : Scalar → Bool
  | .int n => Nat.pow 10 Text.longestNumeral ≤ n.natAbs
  | _ => false

mutual

def Datum.hasLongNumeral : Datum → Bool
  | .scalar value => value.hasLongNumeral
  | .list items | .tuple items => itemsHaveLongNumeral items
  | .mapping entries => entriesHaveLongNumeral entries
  | .set members => members.any Scalar.hasLongNumeral
  | .again _ => false

def Datum.itemsHaveLongNumeral : List Datum → Bool
  | [] => false
  | item :: rest => item.hasLongNumeral || itemsHaveLongNumeral rest

def Datum.entriesHaveLongNumeral : List (Scalar × Datum) → Bool
  | [] => false
  | (key, value) :: rest =>
    key.hasLongNumeral || value.hasLongNumeral || entriesHaveLongNumeral rest

end

def pathOfDatum (environment : Environment) : Datum → Checked (Option Path)
  | .null => .ok none
  | .text t =>
    let path : Path := .ofText (environment.expandVariables t)
    match homeFault? path, environment.expandHome? path with
    | some message, _ => .error (.refused message)
    | none, none => .error .unknownHome
    | none, some path => some <$> placeOf environment path
  | value =>
    if value.hasLongNumeral then
      .error (.refused (Text.tooLongNumeralMessage ++ Text.tooLongNumeralAdvice))
    else
      match value with
      | .scalar other => some <$> placeOf environment (.ofText other.display)
      | _ =>
        .error <| .refused <|
          "Path fields cannot accept " ++ value.kind ++ " types. Expected str or Path, got: " ++
            value.quoted

/-- The place of a path; in a text, variables and the home directory are expanded first. -/
def pathOf (environment : Environment) : SettingValue → Checked (Option Path)
  | .path path => some <$> placeOf environment path
  | .datum value => pathOfDatum environment value

/-! ### Texts -/

def mustBeText (field : Field) (value : SettingValue) : FieldFault :=
  let kind : Text :=
    match value with
    | .datum value => value.kind
    | .path _ => "PosixPath"
  .refused (field.name ++ " must be a string, got " ++ kind)

def isSeparator (c : Char) : Bool := c = '/' || c = '\\'

/-- A game path has no blanks at its ends and no separators after it; the default takes the place
of one that is empty. -/
def trimGamePath (t : Text) : Text :=
  match ((Text.strip t).reverse.dropWhile isSeparator).reverse with
  | [] => "game"
  | trimmed => trimmed

def whole (t : Text) : Checked Text := if Text.isWhole t then .ok t else .error .brokenText

def gamePathOf : SettingValue → Checked Text
  | .text t => whole (trimGamePath t)
  | .path path => whole (trimGamePath path.toText)
  | other => .error (mustBeText .gamePath other)

def logLevels : List Text := ["DEBUG", "INFO", "WARNING", "ERROR", "CRITICAL"]

def logLevelOf : SettingValue → Checked Text
  | .text t => do
    let level ← whole (Text.upper t)
    if logLevels.contains level then return level else throw .badPattern
  | other => .error (mustBeText .logLevel other)

def logFormats : List Text := ["console", "json", "structured"]

/-- A long s counts as one of the letter, but stays what it is. -/
def foldLongS (c : Char) : Char := if c = '\u017f' then 's' else c

def logFormatOf : SettingValue → Checked Text
  | .text t => do
    let format ← whole (Text.lower t)
    if logFormats.contains (format.map foldLongS) then return format else throw .badPattern
  | other => .error (mustBeText .logFormat other)

/-! ## Building -/

inductive SettingsFault where
  /-- The home directory that a path starts with is not known. -/
  | unknownHome
  | fields (faults : List (Field × FieldFault))
  deriving Repr, DecidableEq

def unknownHomeMessage : Text := "Could not determine home directory."

namespace Settings

def assign (environment : Environment) (settings : Settings) (value : SettingValue) :
    Field → Checked Settings
  | .projectRoot => do
    match ← pathOf environment value with
    | some projectRoot => return { settings with projectRoot }
    | none => throw .notPath
  | .gamePath => return { settings with gamePath := ← gamePathOf value }
  | .autoScanResources => return { settings with autoScanResources := ← flagOf value }
  | .validateResources => return { settings with validateResources := ← flagOf value }
  | .enablePreview => return { settings with enablePreview := ← flagOf value }
  | .watchDebounceSeconds => return { settings with watchDebounceSeconds := ← delayOf value }
  | .debug => return { settings with debug := ← flagOf value }
  | .logLevel => return { settings with logLevel := ← logLevelOf value }
  | .logFormat => return { settings with logFormat := ← logFormatOf value }
  | .logFile => return { settings with logFile := ← pathOf environment value }

def default (environment : Environment) : Settings := { projectRoot := environment.directory }

/-- The settings after one field, with the faults so far. -/
def buildStep (environment : Environment) (source : Source)
    (found : Settings × List (Field × FieldFault)) (field : Field) :
    Settings × List (Field × FieldFault) :=
  match source field with
  | none => found
  | some value =>
    match found.1.assign environment value field with
    | .ok settings => (settings, found.2)
    | .error fault => (found.1, found.2 ++ [(field, fault)])

/-- The settings that a source gives; a field that it leaves out has its default. -/
def build (environment : Environment) (source : Source) : Except SettingsFault Settings :=
  let (settings, faults) := Field.all.foldl (buildStep environment source) (default environment, [])
  if faults.any (·.2 = .unknownHome) then .error .unknownHome
  else if faults ≠ [] then .error (.fields faults)
  else .ok settings

end Settings

end SceneScript
