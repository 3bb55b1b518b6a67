import IdentityServer.Store.Transaction
import IdentityServer.Text.Base64

/-!
# The table of signing keys

Every key this server signs or has signed with, by version. One that was just added is the current one;
only keys that are not current can be deleted.
-/

namespace IdentityServer

/-- A signing key as it is stored. -/
structure StoredKey where
  version : Int64
  algorithm : String
  seed : Bytes
  publicKey : String
  createdAt : Int64
  current : Bool
  deriving DecidableEq, Repr

/-- The table, in ascending order of the versions. -/
structure KeyTable where
  rows : List StoredKey := []
  deriving DecidableEq, Repr

namespace KeyTable

/-- A row put in its place among rows in ascending order of the versions. -/
def place (row : StoredKey) : List StoredKey → List StoredKey
  | [] => [row]
  | r :: rest => if row.version < r.version then row :: r :: rest else r :: place row rest

/-- Takes the current mark from every key. -/
def retireAll : Transaction KeyTable Unit :=
  modify fun table => ⟨table.rows.map fun r => { r with current := false }⟩

/-- Adds a key, unless its version is taken. -/
def insert (row : StoredKey) : Transaction KeyTable Unit := do
  let table ← get
  if table.rows.any (·.version == row.version) then throw (.duplicate "signing_keys.version")
  set (⟨place row table.rows⟩ : KeyTable)

/-- Adds a key as the current one. -/
def insertCurrent (row : StoredKey) : Transaction KeyTable Unit := do
  retireAll
  insert { row with current := true }

/-- Deletes the key of a version if it is not current, and tells whether there was one. -/
def deleteRetired (table : KeyTable) (version : Int64) : Bool × KeyTable :=
  let hit (r : StoredKey) : Bool := r.version == version && !r.current
  (table.rows.any hit, ⟨table.rows.filter fun r => !hit r⟩)

/-- The greatest version of all keys. -/
def greatestVersion? (table : KeyTable) : Option Int64 :=
  (table.rows.map (·.version)).max?

end KeyTable

end IdentityServer
