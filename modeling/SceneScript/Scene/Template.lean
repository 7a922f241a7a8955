import SceneScript.Catalog.Asset
import SceneScript.Datum.Display
import SceneScript.Path

/-! # The scene template

What a new scene file starts with.

* `sceneName` — the name of a scene, from that of its file;
* `sceneTemplate` — the text of a new file.
-/

namespace SceneScript

/-- The last name of a path without the extension of scenes. -/
def sceneName (fileName : Text) : Text :=
  let name := (Path.ofText fileName).name
  if Text.endsWith AssetType.sceneExtension name then
    Text.dropEnd AssetType.sceneExtension.length name
  else name

def sceneTemplate (fileName : Text) (created : CalendarDate) : Text :=
  let name := sceneName fileName
  "; File: " ++ fileName ++ "\n" ++
  "; Description: " ++ name ++ " scene\n" ++
  "; Created: " ++ created.display ++ "\n" ++
  "; Note: Describe this scene here\n" ++
  "\n" ++
  "label:start;\n" ++
  "\n" ++
  ":Welcome to the " ++ name ++ " scene!;\n" ++
  "\n" ++
  "end;\n"

end SceneScript
