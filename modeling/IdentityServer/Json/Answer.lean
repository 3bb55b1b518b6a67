import IdentityServer.Json.Parser

/-!
# Records in answers

Records with a single field, read from what an answer consists of. The field stands at its name, which may
not be repeated, or as the only item of a list. Other fields are passed over without being read: they can
hold numbers that are too great, lone surrogates, and any number of brackets.
-/

namespace IdentityServer.Json.Source

/-- What the body of an answer consists of. -/
def ofBody (body : String) : Option Source :=
  read body.length body

/-- The source of the only field of a record. -/
def onlyField? (name : String) : Source → Option Source
  | .arr [item] => some item
  | .obj fields => do
    let names ← fields.mapM fun field => textOf? field.1
    match (names.zip fields).filter (·.1 = name) with
    | [field] => some field.2.2
    | _ => none
  | _ => none

/-- The text that a source denotes. -/
def text? : Source → Option String
  | .text written => textOf? written
  | _ => none

/-- The integer of a signed word that a source denotes. -/
def int64? : Source → Option Int64
  | .number literal => literal.value?.bind Json.int64?
  | _ => none

/-- The values of the items of a list within a record, which are under two brackets already. -/
def values? : Source → Option (List Json)
  | .arr items => if itemsDepth items + 2 ≤ depthLimit then itemValues? items else none
  | _ => none

end IdentityServer.Json.Source
