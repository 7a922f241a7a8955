import SceneScript.Disk
import SceneScript.Expression

/-! # The environment

The variables of a process, and what paths stand for in it.

* `Environment.expandVariables` — the variables that a text names;
* `Environment.expandHome?` — the home directory that a path starts with;
* `Environment.resolve` — the place that a path stands for.
-/

namespace SceneScript

structure Environment where
  bindings : OrderedMap Text Text := ∅
  workingDirectory : Place
  /-- The home directories of users. -/
  homes : List (Text × Text) := []

/-- Replaces every variable that has a value; a name stands after a dollar sign, alone or in
braces. What replaces a name is not looked at again. -/
def expandNames (value? : Text → Option Text) (t : Text) : Text :=
  match t with
  | [] => []
  | '$' :: '\x7b' :: rest =>
    match _h : Text.breakAt? '\x7d' rest with
    | some (name, after) =>
      (value? name).getD ('$' :: '\x7b' :: name ++ ['\x7d']) ++ expandNames value? after
    | none => '$' :: '\x7b' :: expandNames value? rest
  | '$' :: rest =>
    let name := rest.takeWhile isWordChar
    let written := '$' :: name
    (if name = [] then written else (value? name).getD written) ++
      expandNames value? (rest.drop name.length)
  | c :: rest => c :: expandNames value? rest
termination_by t.length
decreasing_by
  all_goals simp only [List.length_cons, List.length_drop]
  all_goals first
    | (have split := congrArg List.length (Text.breakAt?_eq_some _h).1
       simp only [List.length_append, List.length_cons] at split
       omega)
    | omega

namespace Environment

def expandVariables (environment : Environment) (t : Text) : Text :=
  expandNames environment.bindings.get? t

def homeName : Text := "HOME"

/-- The home directory of a user, or of the user of the process where no name is given. -/
def homeOf? (environment : Environment) (user : Text) : Option Path :=
  let home? :=
    if user = [] then environment.bindings.get? homeName else environment.homes.lookup user
  home?.bind fun home =>
    if Text.startsWith ['~'] home then none
    else
      let trimmed := (home.reverse.dropWhile (· = '/')).reverse
      some (.ofText (if trimmed = [] then ['/'] else trimmed))

/-- A path whose first name starts with a tilde starts at a home directory, which has to be
known. -/
def expandHome? (environment : Environment) (path : Path) : Option Path :=
  match path.anchor, path.names with
  | .relative, ('~' :: user) :: rest =>
    (environment.homeOf? user).map fun home => ⟨home.anchor, home.names ++ rest⟩
  | _, _ => some path

def resolve (environment : Environment) (path : Path) : Path :=
  path.absolute environment.workingDirectory

def home? (environment : Environment) : Option Path := environment.homeOf? []

def directory (environment : Environment) : Path := ⟨.root, environment.workingDirectory⟩

end Environment

end SceneScript
