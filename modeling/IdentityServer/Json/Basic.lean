import IdentityServer.Fields
import IdentityServer.Decimal.Shortest
import IdentityServer.Text.Integer

/-!
# JSON values

The values that documents hold. An object is a map: its fields are kept in ascending order of their names
and each name occurs once (`Json.WellFormed`), so equal objects are equal lists. An integral literal that
fits a word of 64 bits stays an integer; every other number is a double and is compared by its bits.
-/

namespace IdentityServer

/-- JSON values. -/
inductive Json where
  | null
  | bool (value : Bool)
  | int (value : Int)
  | float (value : Binary64)
  | str (value : String)
  | arr (items : List Json)
  | obj (fields : List (String × Json))
  deriving Inhabited

namespace Json

/-- Whether an integer is kept as one: it fits a signed or an unsigned word of 64 bits. -/
def fitsWord (n : Int) : Bool :=
  Int64.minValue.toInt ≤ n && n < UInt64.size

mutual

/-- Integers within the words, finite doubles, and ordered fields at every depth. -/
def WellFormed : Json → Prop
  | .int n => fitsWord n
  | .float x => x.isFinite
  | .arr items => ItemsWellFormed items
  | .obj fields => Fields.Ordered fields ∧ FieldsWellFormed fields
  | _ => True

/-- Every item is well formed. -/
def ItemsWellFormed : List Json → Prop
  | [] => True
  | item :: rest => item.WellFormed ∧ ItemsWellFormed rest

/-- The value of every field is well formed. -/
def FieldsWellFormed : List (String × Json) → Prop
  | [] => True
  | (_, value) :: rest => value.WellFormed ∧ FieldsWellFormed rest

end

/-- The field of an object; nothing for other values. -/
def field? (name : String) : Json → Option Json
  | .obj fields => Fields.get? name fields
  | _ => none

/-- The fields of an object. -/
def fields? : Json → Option (Fields Json)
  | .obj fields => some fields
  | _ => none

theorem fields?_eq_some {v : Json} {fields : Fields Json} : v.fields? = some fields ↔ v = .obj fields := by
  cases v <;> simp [fields?]

/-- The items of an array. -/
def items? : Json → Option (List Json)
  | .arr items => some items
  | _ => none

/-- The text of a text value. -/
def text? : Json → Option String
  | .str s => some s
  | _ => none

/-- The value of a truth value. -/
def bool? : Json → Option Bool
  | .bool b => some b
  | _ => none

/-- The value of an integer that fits a signed word. -/
def int64? : Json → Option Int64
  | .int n => Text.toInt64? n
  | _ => none

/-- The object with these fields, a later one winning over an earlier one of the same name. -/
def ofFields (pairs : List (String × Json)) : Json :=
  .obj (Fields.ofList pairs)

/-- The integer value of a word. -/
def ofInt64 (n : Int64) : Json :=
  .int n.toInt

end Json

end IdentityServer
