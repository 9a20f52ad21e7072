import ProseTrace.Decimal.Binary64

/-!
# Configuration values

The values that a configuration can hold.  The entries of a table keep their order.
-/

namespace ProseTrace.Config

/-- A value of a configuration; the keys of a table are distinct. -/
inductive Value where
  | null
  | boolean (value : Bool)
  | integer (value : Int)
  | float (value : Decimal.Binary64)
  | text (value : String)
  | moment (written : String)
  | list (items : List Value)
  | table (entries : List (String × Value))

instance : Inhabited Value := ⟨.null⟩

abbrev Table := List (String × Value)

end ProseTrace.Config
