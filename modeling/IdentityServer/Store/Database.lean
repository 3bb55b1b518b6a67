import IdentityServer.Store.AssociationLog
import IdentityServer.Store.CursorTable
import IdentityServer.Store.InviteTable
import IdentityServer.Store.KeyTable
import IdentityServer.Store.ReplicatedTable

/-!
# The database

All tables of a server. An operation on associations, invites or cursors may be unavailable for a while; it
then fails with a transient failure before it touches a table.
-/

namespace IdentityServer

/-- The operations that can be unavailable. -/
inductive StoreOperation where
  | upsert
  | getActive
  | delete
  | changesSince
  | pending
  | undelivered
  | markSent
  | deleteInvite
  | prune
  | cursor
  | advance
  deriving DecidableEq, Repr

/-- All tables of a server, and the operations that are unavailable with the text of their failure. -/
structure Database where
  associations : AssociationLog := {}
  invites : InviteTable := {}
  cursors : CursorTable := {}
  keys : KeyTable := {}
  replicated : ReplicatedTable := {}
  outages : List (StoreOperation × String) := []
  deriving DecidableEq

namespace Database

/-- Fails if an operation is unavailable. -/
def available (db : Database) (operation : StoreOperation) : Except ServiceError Unit :=
  match db.outages.find? (·.1 == operation) with
  | some outage => .error (.transient outage.2)
  | none => .ok ()

/-- Supersedes the binding of an identifier. -/
def upsert (db : Database) (new : NewAssociation) : Except ServiceError (Int64 × Database) := do
  db.available .upsert
  let (sequence, associations) ← (AssociationLog.upsert new).execute db.associations
  return (sequence, { db with associations })

/-- The active binding of an identifier. -/
def getActive (db : Database) (identifier : Identifier) (now : Int64) :
    Except ServiceError (Option Association) := do
  db.available .getActive
  return db.associations.getActive identifier now

/-- Removes the binding of an identifier to `owner`. -/
def delete (db : Database) (identifier : Identifier) (owner : String) (tombstone : NewTombstone)
    (now : Int64) : Except ServiceError (Bool × Database) := do
  db.available .delete
  let (removed, associations) ← (AssociationLog.delete identifier owner tombstone now).execute db.associations
  return (removed, { db with associations })

/-- Up to `limit` entries of the log after a place. -/
def changesSince (db : Database) (cursor : Int64) (limit : Nat) : Except ServiceError (List Change) := do
  db.available .changesSince
  return db.associations.changesSince cursor limit

/-- Adds an invite. -/
def storeInvite (db : Database) (identifier : Identifier) (room sender token : String) (now : Int64) :
    Except ServiceError (InviteToken × Database) := do
  let (row, invites) ← (InviteTable.store identifier room sender token now).execute db.invites
  return (row, { db with invites })

/-- The undelivered invites of an identifier. -/
def pending (db : Database) (identifier : Identifier) : Except ServiceError (List InviteToken) := do
  db.available .pending
  return db.invites.pending identifier

/-- Up to `limit` undelivered invites. -/
def undelivered (db : Database) (limit : Nat) : Except ServiceError (List InviteToken) := do
  db.available .undelivered
  return db.invites.undelivered limit

/-- Marks an invite as delivered. -/
def markSent (db : Database) (id sentAt : Int64) : Except ServiceError Database := do
  db.available .markSent
  return { db with invites := db.invites.markSent id sentAt }

/-- Deletes an invite. -/
def deleteInvite (db : Database) (id : Int64) : Except ServiceError Database := do
  db.available .deleteInvite
  return { db with invites := db.invites.delete id }

/-- Deletes the undelivered invites received before a time. -/
def prune (db : Database) (cutoff : Int64) : Except ServiceError (Nat × Database) := do
  db.available .prune
  let (count, invites) := db.invites.pruneReceivedBefore cutoff
  return (count, { db with invites })

/-- The last place that a peer acknowledged. -/
def cursor (db : Database) (peer : String) : Except ServiceError Int64 := do
  db.available .cursor
  return db.cursors.get peer

/-- Moves the cursor of a peer. -/
def advance (db : Database) (peer : String) (position now : Int64) : Except ServiceError Database := do
  db.available .advance
  return { db with cursors := db.cursors.advance peer position now }

end Database

end IdentityServer
