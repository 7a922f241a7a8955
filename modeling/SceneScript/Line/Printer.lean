import SceneScript.Line.Basic

/-! # Writing lines

The written form of a command or a line of dialogue, with its semicolons escaped.
-/

namespace SceneScript

def Text.escapeSemicolons : Text → Text
  | [] => []
  | c :: rest =>
    if c = ';' then '\\' :: ';' :: escapeSemicolons rest else c :: escapeSemicolons rest

namespace Line

def renderArgument (argument : Text × Text) : Text :=
  " -" ++ Text.escapeSemicolons argument.1 ++ "=" ++ Text.escapeSemicolons argument.2

def renderParts (head content : Text) (arguments : Arguments) : Text :=
  Text.escapeSemicolons head ++ ":" ++ Text.escapeSemicolons content ++
    arguments.entries.flatMap renderArgument

end Line

/-- A comment keeps its semicolons. -/
def Statement.render : Statement → Text
  | .blank => []
  | .comment content => ";" ++ content
  | .command name content arguments => Line.renderParts name content arguments
  | .dialogue speaker content arguments => Line.renderParts (speaker.getD []) content arguments

end SceneScript
