import SceneScript.Error
import SceneScript.Json.Writer

/-! # Responses for programs

* `Json.document` — data on its own, which is always a list or a mapping;
* `Json.success` — a message with data;
* `Json.failure`, `Json.errorResponse` — what went wrong, with an exit code.
-/

namespace SceneScript.Json

def document (data : Datum) : Text :=
  match data with
  | .scalar value => render (.object [("value", .scalar value)])
  | other => render other

/-- No data is left out. -/
def success (message : Text) (data : Datum := .null) : Text :=
  let given :=
    match data with
    | .null => []
    | data => [("data".toList, data)]
  render (.object ([("success".toList, .bool true), ("message".toList, .text message)] ++ given))

def failureFields (code : Int) (message : Text) : List (Text × Datum) :=
  [("success", .bool false), ("code", .int code), ("error", .text message)]

def failure (message : Text) (code : Int := 1) : Text :=
  render (.object (failureFields code message))

def errorResponse (error : ScriptError) (code : Int := 1) : Text :=
  let hint := error.hint?.toList.map fun hint => ("hint".toList, Datum.text hint)
  render (.object (failureFields code error.message ++ hint))

end SceneScript.Json
