import IdentityServer.Json.Canonical
import IdentityServer.Json.Parser
import IdentityServer.Store.Location
import IdentityServer.Store.Snapshot

/-!
# Files of databases

The file of a database holds the snapshot of its tables after a line that says whether its changes go
through a log. Such a file is opened only by a layer with a log, which in turn takes every file that it may
change into the log.
-/

namespace IdentityServer

/-- What the file of a database holds. -/
structure DatabaseFile where
  isLogged : Bool
  database : Database

namespace DatabaseFile

/-- The first line of a file. -/
def heading (isLogged : Bool) : String :=
  if isLogged then "database with log\n" else "database\n"

/-- The text of a file. -/
def text (f : DatabaseFile) : String :=
  heading f.isLogged ++ f.database.toJson.canonical

/-- The snapshot after a heading. -/
def snapshot? (isLogged : Bool) (text : String) : Option DatabaseFile := do
  let rest ← Text.dropStart? (heading isLogged).toList text.toList
  return ⟨isLogged, ← (Json.parse (String.ofList rest)).bind Database.ofJson?⟩

/-- The file that a text is. A text of at most one byte is a new database. -/
def ofText? (text : String) : Option DatabaseFile :=
  if text.utf8ByteSize ≤ 1 then some ⟨false, {}⟩
  else (snapshot? true text).or (snapshot? false text)

/-- The file as it is once it is open, from what was found; nothing if it cannot be opened so. -/
def opened? (access : FileAccess) (layer : FileLayer) (neverChanges : Bool) (found : Option String) :
    Option DatabaseFile := do
  match found with
  | none => if access = .create ∧ !neverChanges then return ⟨layer = .shared, {}⟩ else none
  | some text =>
    let file ← ofText? text
    if neverChanges ∨ file.isLogged = (layer = .shared) then return file
    else if file.isLogged ∨ access = .read then none
    else return { file with isLogged := true }

end DatabaseFile

/-- Whether what is kept at a location may be changed. -/
def DatabaseLocation.isWritable : DatabaseLocation → Bool
  | .memory _ => true
  | .file _ access _ neverChanges => access ≠ .read && !neverChanges

end IdentityServer
