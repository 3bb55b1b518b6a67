import IdentityServer.Identifier.Medium
import IdentityServer.Json.Basic

/-!
# Records in JSON

Reading the fields of a record from an object, or from a list that holds them in their order. Fields that a
record does not have are passed over, and an optional integer may be absent or null. A list leaves no field
out, the last ones apart that need not be there.
-/

namespace IdentityServer.Json

/-- The names of the fields of a record in the order of a list. A list may end without the further ones. -/
structure Layout where
  needed : List String
  further : List String := []

namespace Layout

def names (layout : Layout) : List String :=
  layout.needed ++ layout.further

/-- The object of a record. A list stands for the object whose fields have the names in turn. -/
def object? (layout : Layout) : Json → Option Json
  | .obj fields => some (.obj fields)
  | .arr items =>
    if layout.needed.length ≤ items.length ∧ items.length ≤ layout.names.length then
      some (.ofFields (layout.names.zip items))
    else none
  | _ => none

/-- What a record states, by what its object states. -/
def read? {α : Type} (layout : Layout) (ofObject? : Json → Option α) (v : Json) : Option α :=
  (layout.object? v).bind ofObject?

@[simp] theorem read?_obj {α : Type} (layout : Layout) (ofObject? : Json → Option α) (fields : Fields Json) :
    layout.read? ofObject? (.obj fields) = ofObject? (.obj fields) := rfl

end Layout

/-- A field that has to be there. -/
def required {α : Type} (read : Json → Option α) (name : String) (v : Json) : Option α :=
  (v.field? name).bind read

/-- An integer that may be absent or null. -/
def optionalInt64 (name : String) (v : Json) : Option (Option Int64) :=
  match v.field? name with
  | none | some .null => some none
  | some value => value.int64?.map some

/-- A value that stands for `default` when it is absent. -/
def orElse {α : Type} (default : α) (read : Json → Option α) (name : String) (v : Json) : Option α :=
  match v.field? name with
  | none => some default
  | some value => read value

/-- The name of a case without content: a text, or the only name of an object with nothing under it. -/
def caseName? (isNothing : Json → Bool) : Json → Option String
  | .str name => some name
  | .obj [(name, content)] => if isNothing content then some name else none
  | _ => none

/-- Whether a value is null. -/
def isNull : Json → Bool
  | .null => true
  | _ => false

/-- Whether a value is null or an empty object, which are both nothing in a record that tells its kind. -/
def isVoid : Json → Bool
  | .null | .obj [] => true
  | _ => false

/-- The medium that a value names. -/
def medium? (isNothing : Json → Bool) (v : Json) : Option Medium :=
  (v.caseName? isNothing).bind Medium.ofName?

@[simp] theorem medium?_str (isNothing : Json → Bool) (name : String) :
    medium? isNothing (.str name) = Medium.ofName? name := rfl

/-- A map from names to values of one kind. -/
def dictionary? {α : Type} (read : Json → Option α) (v : Json) : Option (Dictionary α) := do
  let entries ← (← v.fields?).mapM fun field => (read field.2).map fun x => (field.1, x)
  return .ofList entries

/-- The object of a map. -/
def ofDictionary {α : Type} (write : α → Json) (d : Dictionary α) : Json :=
  .obj (d.entries.map fun entry => (entry.1, write entry.2))

/-- An integer, or null. -/
def ofOptionalInt64 : Option Int64 → Json
  | some n => .ofInt64 n
  | none => .null

/-- A field that is left out when there is no value. -/
def optionalField (name : String) : Option Json → List (String × Json)
  | some value => [(name, value)]
  | none => []

end IdentityServer.Json
