import Std.Data.ExtTreeMap
import Worksheet.Json.Token

/-!
# JSON Texts

The value that a JSON text stands for.

The tokens of a text are dealt with one after the other. What has to be
remembered is what may come next, and for each array or object that has begun
and not ended, innermost first, the parts that are complete. A key that is
given more than once has the value it is given last.

## Main definitions

* `Json.Frame`: An array or object that has begun.
* `Json.Progress`: What has been read and what may come next.
* `Json.Progress.step`: What one more token makes of it.
* `Json.ofText?`: The value of a text.
-/

namespace Worksheet

namespace Json

/-- The object of some members, the last one of each key counting. -/
def ofMembers (members : List (String × Json)) : Json :=
  .object (Std.ExtTreeMap.ofList members).toList

/-- An array or object that has begun and waits for a part, with the parts that
    are complete, latest first. -/
inductive Frame where
  /-- An array. -/
  | array (elements : List Json)
  /-- An object that waits for the value of a key. -/
  | object (members : List (String × Json)) (key : String)

/-- What has been read and what may come next. -/
inductive Progress where
  /-- A value must follow. -/
  | value (frames : List Frame)
  /-- An array has begun: a value or the end of it must follow. -/
  | firstElement (frames : List Frame)
  /-- An object has begun: a key or the end of it must follow. -/
  | firstKey (frames : List Frame)
  /-- Behind these members a key must follow. -/
  | key (frames : List Frame) (members : List (String × Json))
  /-- Behind these members and a key a colon must follow. -/
  | colon (frames : List Frame) (members : List (String × Json)) (key : String)
  /-- A value is complete. -/
  | complete (frames : List Frame) (v : Json)

namespace Progress

/-- A token where a value must follow. -/
def begin? (frames : List Frame) : Token → Option Progress
  | .value v => some (.complete frames v)
  | .openArray => some (.firstElement frames)
  | .openObject => some (.firstKey frames)
  | _ => none

/-- A token where a key must follow. -/
def key? (frames : List Frame) (members : List (String × Json)) : Token → Option Progress
  | .value (.text name) => some (.colon frames members name)
  | _ => none

/-- A token behind a complete value: in an array or an object something more
    follows, or it ends. -/
def next? (v : Json) : List Frame → Token → Option Progress
  | .array elements :: frames, .comma => some (.value (.array (v :: elements) :: frames))
  | .array elements :: frames, .closeArray =>
    some (.complete frames (.array (v :: elements).reverse))
  | .object members name :: frames, .comma => some (.key frames ((name, v) :: members))
  | .object members name :: frames, .closeObject =>
    some (.complete frames (ofMembers ((name, v) :: members).reverse))
  | _, _ => none

/-- What one more token makes of what has been read. -/
def step : Progress → Token → Option Progress
  | .value frames, token => begin? frames token
  | .firstElement frames, .closeArray => some (.complete frames (.array []))
  | .firstElement frames, token => begin? (.array [] :: frames) token
  | .firstKey frames, .closeObject => some (.complete frames (.object []))
  | .firstKey frames, token => key? frames [] token
  | .key frames members, token => key? frames members token
  | .colon frames members name, .colon => some (.value (.object members name :: frames))
  | .colon .., _ => none
  | .complete frames v, token => next? v frames token

/-- The value that has been read, when nothing is left open. -/
def result? : Progress → Option Json
  | .complete [] v => some v
  | _ => none

end Progress

/-- The value of a text. -/
def ofText? (text : String) : Option Json := do
  let tokens ← Token.ofChars? text.toList
  let progress ← tokens.foldlM Progress.step (.value [])
  progress.result?

end Json

end Worksheet
