import IdentityServer.Store.Database
import IdentityServer.Text.Hex

/-!
# Snapshots

The rows of the tables as JSON, column by column, and a whole database as the object of its tables, so that
it can be kept between two runs. Truth values are 0 and 1, and bytes are hexadecimal.
-/

namespace IdentityServer

/-- A truth value as a column holds it. -/
def Json.ofBit (b : Bool) : Json :=
  .int (if b then 1 else 0)

/-- The truth value that a column holds; nothing stands for no. -/
def Json.bit (name : String) (v : Json) : Bool :=
  match v.field? name with
  | some (.int n) => n ≠ 0
  | some (.bool b) => b
  | _ => false

/-- The columns that all entries about associations share. -/
def NewAssociation.columns (a : NewAssociation) : List (String × Json) :=
  [("medium", .str a.medium.name), ("address", .str a.address), ("account_id", .str a.account),
   ("not_before", .ofInt64 a.notBefore), ("not_after", .ofOptionalInt64 a.notAfter),
   ("created_at", .ofInt64 a.createdAt), ("signed_payload", .str a.signedPayload)]

/-- The columns that all entries about associations share, read from a row. -/
def NewAssociation.ofRow? (v : Json) : Option NewAssociation := do
  return {
    medium := ← v.required (Json.medium? Json.isNull) "medium"
    address := ← v.required Json.text? "address"
    account := ← v.required Json.text? "account_id"
    notBefore := ← v.required Json.int64? "not_before"
    notAfter := ← v.optionalInt64 "not_after"
    createdAt := ← v.required Json.int64? "created_at"
    signedPayload := ← v.required Json.text? "signed_payload" }

/-- A tombstone read from a row. -/
def NewTombstone.ofRow? (v : Json) : Option NewTombstone := do
  return {
    medium := ← v.required (Json.medium? Json.isNull) "medium"
    address := ← v.required Json.text? "address"
    account := ← v.required Json.text? "account_id"
    deletedAt := ← v.required Json.int64? "deleted_at"
    signedPayload := ← v.required Json.text? "signed_payload" }

namespace LogRow

/-- The row of an entry of the log. -/
def toJson (r : LogRow) : Json :=
  .ofFields (r.columns ++
    [("sequence_no", .ofInt64 r.sequence), ("tombstone", .ofBit r.tombstone), ("active", .ofBit r.active)])

/-- The entry of the log that a row holds. -/
def ofJson? (v : Json) : Option LogRow := do
  return {
    (← NewAssociation.ofRow? v) with
    sequence := ← v.required Json.int64? "sequence_no"
    tombstone := v.bit "tombstone"
    active := v.bit "active" }

end LogRow

namespace StoredKey

/-- The row of a signing key. -/
def toJson (r : StoredKey) : Json :=
  .ofFields [("version", .ofInt64 r.version), ("algorithm", .str r.algorithm),
    ("seed_bytes", .str (Hex.encode r.seed)), ("public_key", .str r.publicKey),
    ("created_at", .ofInt64 r.createdAt), ("is_current", .ofBit r.current)]

/-- The signing key that a row holds. -/
def ofJson? (v : Json) : Option StoredKey := do
  return {
    version := ← v.required Json.int64? "version"
    algorithm := ← v.required Json.text? "algorithm"
    seed := ← Hex.decode? (← v.required Json.text? "seed_bytes")
    publicKey := ← v.required Json.text? "public_key"
    createdAt := ← v.required Json.int64? "created_at"
    current := v.bit "is_current" }

end StoredKey

namespace ReplicatedAssociation

/-- The row of a record of a peer. -/
def toJson (r : ReplicatedAssociation) : Json :=
  .ofFields (r.columns ++
    [("origin_server", .str r.origin), ("origin_sequence_no", .ofInt64 r.originSequence),
     ("tombstone", .ofBit r.tombstone)])

/-- The record of a peer that a row holds. -/
def ofJson? (v : Json) : Option ReplicatedAssociation := do
  return {
    (← NewAssociation.ofRow? v) with
    origin := ← v.required Json.text? "origin_server"
    originSequence := ← v.required Json.int64? "origin_sequence_no"
    tombstone := v.bit "tombstone" }

end ReplicatedAssociation

namespace CursorTable

/-- The row of the cursor of a peer. -/
def rowToJson (row : String × Cursor) : Json :=
  .ofFields [("peer_name", .str row.1), ("last_pushed_sequence_no", .ofInt64 row.2.position),
    ("updated_at", .ofInt64 row.2.updatedAt)]

/-- The peer and the cursor that a row holds. -/
def rowOfJson? (v : Json) : Option (String × Cursor) := do
  let name ← v.required Json.text? "peer_name"
  return (name, ⟨← v.required Json.int64? "last_pushed_sequence_no", ← v.required Json.int64? "updated_at"⟩)

end CursorTable

namespace Database

/-- The rows of every table, by its name. -/
def tables (db : Database) : List (String × List Json) :=
  [("associations", db.associations.rows.map (·.toJson)),
   ("invite_tokens", db.invites.rows.map (·.toJson)),
   ("peer_cursors", db.cursors.rows.entries.map CursorTable.rowToJson),
   ("signing_keys", db.keys.rows.map (·.toJson)),
   ("replicated_associations", db.replicated.ordered.map (·.toJson))]

/-- The snapshot of a database: its tables, and the greatest numbers that were given. -/
def toJson (db : Database) : Json :=
  .ofFields ((db.tables.map fun table => (table.1, .arr table.2)) ++
    [("last_association", .ofInt64 db.associations.last), ("last_invite", .ofInt64 db.invites.last)])

/-- The rows of a table in a snapshot. -/
def rowsOf {α : Type} (read : Json → Option α) (table : String) (v : Json) : Option (List α) := do
  (← v.required Json.items? table).mapM read

/-- The database of a snapshot. -/
def ofJson? (v : Json) : Option Database := do
  return {
    associations := ⟨← rowsOf LogRow.ofJson? "associations" v, ← v.required Json.int64? "last_association"⟩
    invites := ⟨← rowsOf InviteToken.ofJson? "invite_tokens" v, ← v.required Json.int64? "last_invite"⟩
    cursors := ⟨.ofList (← rowsOf CursorTable.rowOfJson? "peer_cursors" v)⟩
    keys := ⟨← rowsOf StoredKey.ofJson? "signing_keys" v⟩
    replicated := ⟨← rowsOf ReplicatedAssociation.ofJson? "replicated_associations" v⟩ }

end Database

end IdentityServer
