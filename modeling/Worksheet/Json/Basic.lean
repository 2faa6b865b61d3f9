import Worksheet.Number.Basic

/-!
# JSON Values

The values of JSON, as far as a saved sheet needs them.

Whole numbers are kept apart from other numbers, since a count can only be a
whole one.

## Main definitions

* `Json`: A JSON value.
* `Json.member?`: The value of a member of an object.
-/

namespace Worksheet

/-- A JSON value. -/
inductive Json where
  /-- Nothing. -/
  | null
  /-- A truth value. -/
  | bool (b : Bool)
  /-- A whole number. -/
  | integer (n : Int)
  /-- Any other number. -/
  | real (x : Number)
  /-- A text. -/
  | text (t : String)
  /-- A list of values. -/
  | array (elements : List Json)
  /-- Values by key. Keys come once, in the order of their characters. -/
  | object (members : List (String × Json))
  deriving Inhabited

/-- The value of a member of an object. -/
def Json.member? (members : List (String × Json)) (key : String) : Option Json :=
  (members.find? fun m => m.1 == key).map Prod.snd

end Worksheet
