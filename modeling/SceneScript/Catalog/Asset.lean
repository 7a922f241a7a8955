import SceneScript.OrderedMap
import SceneScript.Symbols

/-! # Kinds of assets

A game directory keeps each kind of asset in a folder of its own.

* `AssetType` — the kinds, in the order of `AssetType.all`;
* `AssetType.folder`, `AssetType.extensions` — where they lie and how their files end;
* `assetTypeOfCommand?` — the kind of asset that a command shows, plays or enters.
-/

namespace SceneScript

inductive AssetType where
  | background
  | figure
  | bgm
  | vocal
  | video
  | scene
  | tex
  | animation
  deriving Repr, DecidableEq

namespace AssetType

def all : List AssetType :=
  [background, figure, bgm, vocal, video, scene, tex, animation]

theorem mem_all (type : AssetType) : type ∈ all := by cases type <;> decide

/-- The name of a kind is also the name of its folder. -/
def name : AssetType → Text
  | background => "background"
  | figure => "figure"
  | bgm => "bgm"
  | vocal => "vocal"
  | video => "video"
  | scene => "scene"
  | tex => "tex"
  | animation => "animation"

abbrev folder : AssetType → Text := name

def ofName? (name : Text) : Option AssetType := all.find? (·.name = name)

theorem ofName?_name (type : AssetType) : ofName? type.name = some type := by
  cases type <;> decide

def imageExtensions : List Text := [".jpg", ".jpeg", ".png", ".webp", ".gif"]
def audioExtensions : List Text := [".mp3", ".ogg", ".wav", ".m4a"]
def videoExtensions : List Text := [".mp4", ".webm"]
def sceneExtension : Text := ".txt"

def extensions : AssetType → List Text
  | background | figure | tex => imageExtensions
  | bgm | vocal => audioExtensions
  | video => videoExtensions
  | scene => [sceneExtension]
  | animation => imageExtensions ++ videoExtensions

end AssetType

def commandAssets : List (Text × AssetType) :=
  [("changeBg", .background), ("unlockCg", .background), ("changeFigure", .figure),
   ("miniAvatar", .figure), ("bgm", .bgm), ("unlockBgm", .bgm), ("playVideo", .video),
   (Command.changeScene, .scene), (Command.callScene, .scene)]

def assetTypeOfCommand? (command : Text) : Option AssetType :=
  (commandAssets.find? (·.1 = command)).map (·.2)

def AssetType.commands (type : AssetType) : List Text :=
  (commandAssets.filter (·.2 = type)).map (·.1)

end SceneScript
