import SceneScript.Text.Basic

/-! # Options on a command line

An option has long spellings, which start with two hyphens, and short ones of one letter. Short
options may share a hyphen, and the value of a short option may follow it without a blank.

* `OptionSpec` — an option;
* `readArguments?` — the options and the other arguments, in their order.
-/

namespace SceneScript

structure OptionSpec where
  /-- The first spelling names the option. -/
  spellings : List Text
  takesValue : Bool := false

def OptionSpec.name (option : OptionSpec) : Text := option.spellings.head?.getD []

/-- Options with their values, and arguments that belong to no option. -/
structure GivenArguments where
  options : List (Text × Option Text) := []
  positional : List Text := []

namespace GivenArguments

def withOptions (options : List (Text × Option Text)) (given : GivenArguments) : GivenArguments :=
  { given with options := options ++ given.options }

def has (given : GivenArguments) (name : Text) : Bool := given.options.any (·.1 = name)

/-- The value of an option; of several the last one counts. -/
def value? (given : GivenArguments) (name : Text) : Option Text :=
  (given.options.reverse.lookup name).join

end GivenArguments

def findOption? (specs : List OptionSpec) (spelling : Text) : Option OptionSpec :=
  specs.find? (·.spellings.contains spelling)

/-- The letters after one hyphen. -/
def readLetters? (specs : List OptionSpec) :
    Text → List Text → Option (List (Text × Option Text) × List Text)
  | [], rest => some ([], rest)
  | letter :: letters, rest => do
    let option ← findOption? specs ['-', letter]
    if option.takesValue then
      match letters, rest with
      | [], [] => none
      | [], value :: rest => some ([(option.name, some value)], rest)
      | value, rest => some ([(option.name, some value)], rest)
    else
      let (options, rest) ← readLetters? specs letters rest
      return ((option.name, none) :: options, rest)

/-- A long option; its value is the next argument or stands after an equals sign. -/
def readLong? (specs : List OptionSpec) (argument : Text) (rest : List Text) :
    Option (List (Text × Option Text) × List Text) :=
  match Text.breakAt? '=' argument with
  | some (spelling, value) => do
    let option ← findOption? specs spelling
    if option.takesValue then some ([(option.name, some value)], rest) else none
  | none => do
    let option ← findOption? specs argument
    if option.takesValue then
      match rest with
      | [] => none
      | value :: rest => some ([(option.name, some value)], rest)
    else some ([(option.name, none)], rest)

def longMark : Text := "--"

def readOption? (specs : List OptionSpec) (argument : Text) (rest : List Text) :
    Option (List (Text × Option Text) × List Text) :=
  if Text.startsWith longMark argument then readLong? specs argument rest
  else readLetters? specs (argument.drop 1) rest

/-- Two hyphens alone end the options. Unless options may stand between other arguments, the first
other argument ends them too. -/
def readArgumentsIn? (specs : List OptionSpec) (between : Bool) :
    Nat → List Text → Option GivenArguments
  | 0, _ => none
  | _, [] => some {}
  | fuel + 1, argument :: rest =>
    if argument = longMark then some { positional := rest }
    else if Text.startsWith ['-'] argument && 1 < argument.length then do
      let (options, rest) ← readOption? specs argument rest
      return (← readArgumentsIn? specs between fuel rest).withOptions options
    else if between then do
      let given ← readArgumentsIn? specs between fuel rest
      return { given with positional := argument :: given.positional }
    else some { positional := argument :: rest }

def readArguments? (specs : List OptionSpec) (between : Bool) (arguments : List Text) :
    Option GivenArguments :=
  readArgumentsIn? specs between (arguments.length + 1) arguments

end SceneScript
