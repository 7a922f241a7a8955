import SceneScript.Catalog.Basic

/-! # The built-in catalog

The commands of the scripting language and what is documented about them. `Catalog.builtin` is
used wherever a catalog is empty or absent, and its names are the built-in vocabulary.
-/

namespace SceneScript

def commandNames : List Text :=
  (["say", "changeBg", "changeFigure", "bgm", "playVideo", "pixiPerform", "pixiInit", "intro",
    "miniAvatar", "changeScene", "choose", "end", "setComplexAnimation", "setFilter", "label",
    "jumpLabel", "chooseLabel", "setVar", "if", "callScene", "showVars", "unlockCg", "unlockBgm",
    "filmMode", "setTextbox", "setAnimation", "playEffect", "setTempAnimation", "setTransform",
    "setTransition", "getUserInput", "applyStyle", "wait"] : List String).map String.toList

namespace ParameterInfo

/-- A parameter of text that may be left out. -/
def optional (name description : Text) : ParameterInfo := { name, description }

/-- A parameter of text that must be given. -/
def mandatory (name description : Text) : ParameterInfo :=
  { name, description, required := true }

/-- A file that must be given as the content of its command. -/
def requiredFile (description : Text) : ParameterInfo :=
  { name := "filename", description, required := true, type := .file }

/-- A parameter that is given or not. -/
def flag (name description : Text) : ParameterInfo := { name, description, type := .boolean }

def next : ParameterInfo := flag "next" "Continue with the next line immediately"

def condition (required : Bool) : ParameterInfo :=
  { name := "when", description := "Condition expression", required }

end ParameterInfo

open ParameterInfo in
def commandInfos : List CommandInfo :=
  [{ name := "say"
     description := "Show a line of dialogue"
     usage := "speaker:text -v=voice file"
     parameters :=
       [optional "speaker" "Name of the speaking character",
        { name := "v", description := "Voice file", type := .file }]
     examples :=
       ["Alice:This is a line of dialogue", "Alice:This is a line of dialogue -v=voice.ogg",
        ":Narration without a speaker"] },
   { name := "changeBg"
     description := "Change the background image"
     usage := "changeBg:image file -next"
     parameters := [requiredFile "Background image file", next]
     examples := ["changeBg:bg1.jpg", "changeBg:bg1.jpg -next"] },
   { name := "changeFigure"
     description := "Change a character figure"
     usage := "changeFigure:figure file -left -next"
     parameters :=
       [requiredFile "Figure file (none clears it)", flag "left" "Show on the left",
        flag "right" "Show on the right", next]
     examples :=
       ["changeFigure:character1.png", "changeFigure:character1.png -left -next",
        "changeFigure:none -left"] },
   { name := "bgm"
     description := "Play background music"
     usage := "bgm:music file"
     parameters := [requiredFile "Music file"]
     examples := ["bgm:music.mp3", "bgm:none; stop playback"] },
   { name := "label"
     description := "Define a jump target"
     usage := "label:label name"
     parameters := [mandatory "name" "Label name"]
     examples := ["label:start", "label:ending1"] },
   { name := "jumpLabel"
     description := "Jump to a label in the current scene"
     usage := "jumpLabel:label name"
     parameters := [mandatory "name" "Target label name"]
     examples := ["jumpLabel:start", "jumpLabel:ending1"] },
   { name := "choose"
     description := "Show a branch choice"
     usage := "choose:option 1 text:label 1|option 2 text:label 2"
     parameters := [mandatory "options" "Options separated by |"]
     examples := ["choose:Option A:labelA|Option B:labelB", "choose:Yes:agree|No:refuse"] },
   { name := "setVar"
     description := "Assign a variable"
     usage := "setVar:name=value"
     parameters := [mandatory "expression" "Assignment expression"]
     examples := ["setVar:score=100", "setVar:name=Player", "setVar:count=count+1"] },
   { name := "callScene"
     description := "Call a sub-scene and return afterwards"
     usage := "callScene:scene file -when=condition"
     parameters := [requiredFile "Scene file", condition false]
     examples := ["callScene:subscene.txt", "callScene:event.txt -when=score>50"] },
   { name := "changeScene"
     description := "Switch to another scene"
     usage := "changeScene:scene file"
     parameters := [requiredFile "Scene file"]
     examples := ["changeScene:chapter2.txt"] },
   { name := "if"
     description := "Run a command only when a condition holds"
     usage := "command:args -when=condition"
     parameters := [condition true]
     examples :=
       ["jumpLabel:goodEnd -when=score>80", "changeFigure:happy.png -when=affection>50"] },
   { name := "playVideo"
     description := "Play a video"
     usage := "playVideo:video file"
     parameters := [requiredFile "Video file"]
     examples := ["playVideo:opening.mp4"] },
   { name := "setAnimation"
     description := "Apply an animation"
     usage := "setAnimation:animation name -target=target"
     parameters :=
       [mandatory "animation" "Animation name",
        { name := "target"
          description := "Animation target"
          allowed := some ["fig-left", "fig-center", "fig-right"] }]
     examples :=
       ["setAnimation:enter-from-left -target=fig-left",
        "setAnimation:shake -target=fig-center"] },
   { name := "miniAvatar"
     description := "Show a small avatar next to the text box"
     usage := "miniAvatar:avatar file"
     parameters := [requiredFile "Avatar file (none clears it)"]
     examples := ["miniAvatar:avatar.png", "miniAvatar:none"] },
   { name := "unlockCg"
     description := "Unlock a CG in the gallery"
     usage := "unlockCg:CG file -name=title"
     parameters := [requiredFile "CG file", optional "name" "Display title"]
     examples := ["unlockCg:cg1.jpg -name=First meeting"] },
   { name := "unlockBgm"
     description := "Unlock a music track in the gallery"
     usage := "unlockBgm:music file -name=title"
     parameters := [requiredFile "Music file", optional "name" "Display title"]
     examples := ["unlockBgm:music.mp3 -name=Main theme"] }]

def Documentation.builtin : Documentation :=
  OrderedMap.ofList (commandInfos.map fun info => (info.name, info))

def Catalog.builtin : Catalog := .ofNames commandNames .builtin

def Vocabulary.builtin : List Text := Catalog.builtin.names

/-- A catalog that lists nothing stands for the built-in one. -/
def Catalog.orBuiltin (catalog : Catalog) : Catalog :=
  if catalog.size = 0 then .builtin else catalog

theorem size_builtin : Catalog.builtin.size = 33 := by decide +kernel

theorem names_builtin : Catalog.builtin.names = commandNames := by decide +kernel

end SceneScript
