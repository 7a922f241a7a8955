import SceneScript.Asset.Library
import SceneScript.Catalog.Basic
import SceneScript.Datum.Basic
import SceneScript.Project
import SceneScript.Symbols

/-! # Results as data

What programs are shown of commands, lines, symbols, scenes, variables and assets, and of what
happens to the latter two.
-/

namespace SceneScript

def optionalText (t : Option Text) : Datum := t.elim .null .text

def Arguments.toDatum (arguments : Arguments) : Datum :=
  .list (arguments.entries.map fun (key, value) => .texts [key, value])

def ParameterInfo.toDatum (parameter : ParameterInfo) : Datum :=
  .object
    [("name", .text parameter.name), ("description", .text parameter.description),
     ("required", .bool parameter.required), ("type", .text parameter.type.name),
     ("allowed", parameter.allowed.elim .null .texts)]

def CommandInfo.toDatum (info : CommandInfo) : Datum :=
  .object
    [("name", .text info.name), ("description", .text info.description),
     ("usage", .text info.usage), ("examples", .texts info.examples),
     ("parameters", .list (info.parameters.map (·.toDatum)))]

def SceneCandidate.toDatum (candidate : SceneCandidate) : Datum :=
  .object
    [("scene_name", .text candidate.sceneName), ("full_path", .text candidate.fullPath.toText),
     ("relative_path", .text candidate.relativePath), ("exists", .bool candidate.isPresent),
     ("directory", .text candidate.directory.toText)]

def VariableRecord.toDatum (entry : VariableRecord) : Datum :=
  .object
    [("name", .text entry.name),
     ("definitions", .list (entry.definitions.map fun definition =>
       .object
         [("file_path", .text definition.file), ("line_number", .int definition.number),
          ("value", .text definition.value)])),
     ("usages", .list (entry.usages.map fun usage =>
       .object
         [("file_path", .text usage.file), ("line_number", .int usage.number),
          ("kind", .text usage.kind.name), ("context", .text usage.context)]))]

def Line.toDatum (line : Line) : Datum :=
  let (kind, command, speaker, content) : String × Option Text × Option Text × Option Text :=
    match line.statement with
    | .blank => ("empty", none, none, none)
    | .comment content => ("comment", none, none, some content)
    | .command name content _ => ("command", some name, none, some content)
    | .dialogue speaker content _ => ("dialogue", none, speaker, some content)
  .object
    [("kind", .text kind), ("raw", .text line.raw), ("n", .int line.number),
     ("command", optionalText command), ("speaker", optionalText speaker),
     ("content", optionalText content), ("args", line.arguments.toDatum),
     ("is_command", .bool line.statement.isCommand)]

def Label.toDatum (label : Label) : Datum :=
  .object [("name", .text label.name), ("n", .int label.number), ("file", .text label.file)]

def DocumentSymbols.toDatum (symbols : DocumentSymbols) : Datum :=
  .object
    [("file", .text symbols.file), ("line_count", .int symbols.lines.length),
     ("labels", .list (symbols.labels.map (·.toDatum))),
     ("label_names", .texts (Text.sort symbols.labelNames)),
     ("variables", .list (symbols.definitions.map fun definition =>
       .object
         [("name", .text definition.name), ("value", .text definition.value),
          ("n", .int definition.number), ("file", .text definition.file)])),
     ("scenes", .list (symbols.sceneReferences.map fun reference =>
       .object
         [("scene", .text reference.scene), ("kind", .text reference.entry.command),
          ("n", .int reference.number), ("condition", optionalText reference.condition)])),
     ("characters", .texts (Text.sort symbols.characters))]

def Asset.toDatum (asset : Asset) : Datum :=
  .object
    [("type", .text asset.type.name), ("file_name", .text asset.fileName),
     ("full_path", .text asset.fullPath.toText), ("relative_path", .text asset.relativePath)]

def Announcement.name : Announcement → Text
  | .index _ => "VariableIndexUpdated"
  | .assets _ => "AssetsUpdated"

def Announcement.toDatum (announcement : Announcement) : Datum :=
  .object <|
    ("event", .text announcement.name) ::
      match announcement with
      | .index update =>
        [("full_scan", .bool update.fullScan), ("variable_count", .int update.variableCount),
         ("file_path", optionalText update.file)]
      | .assets library =>
        [("asset_count", .int library.size),
         ("counts", .object (library.counts.map fun (type, n) => (type.name, .int n)))]

end SceneScript
