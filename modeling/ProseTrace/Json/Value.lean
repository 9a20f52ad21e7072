import ProseTrace.Decimal.Binary64

/-!
# JSON values

Integers of any size are kept apart from binary64 numbers, and the fields of an object keep the
order in which their names first came.
-/

namespace ProseTrace

/-- A JSON value; the names of an object's fields are distinct. -/
inductive Json where
  | null
  | boolean (value : Bool)
  | integer (value : Int)
  | float (value : Decimal.Binary64)
  | text (value : String)
  | list (items : List Json)
  | object (fields : List (String × Json))

namespace Json

instance : Inhabited Json := ⟨.null⟩

def lookup? (name : String) : List (String × Json) → Option Json
  | [] => none
  | (key, value) :: rest => if key = name then some value else lookup? name rest

/-- The fields with `name` set to `value`, in its old place if it had one. -/
def setField (fields : List (String × Json)) (name : String) (value : Json) :
    List (String × Json) :=
  match fields with
  | [] => [(name, value)]
  | (key, old) :: rest =>
    if key = name then (key, value) :: rest else (key, old) :: setField rest name value

/-- The value is neither null, false, a zero nor empty. -/
def isTruthy : Json → Bool
  | .null => false
  | .boolean value => value
  | .integer value => value != 0
  | .float value => !value.isZero
  | .text value => value != ""
  | .list items => !items.isEmpty
  | .object fields => !fields.isEmpty

end Json

end ProseTrace
