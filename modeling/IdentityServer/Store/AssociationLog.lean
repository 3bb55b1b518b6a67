import IdentityServer.Association.Change
import IdentityServer.Store.Transaction

/-!
# The log of associations

Bindings and tombstones in the order in which they were made, each under a number that is never given
again. At most one entry of an identifier is active: the binding that the log ends with for it. What
supersedes or removes a binding and the entry that records it are one transaction.
-/

namespace IdentityServer

/-- An entry of the log. A tombstone begins and is made when the binding was removed, and has no end. -/
structure LogRow extends NewAssociation where
  sequence : Int64
  tombstone : Bool
  active : Bool
  deriving DecidableEq, Repr

namespace LogRow

/-- The identifier of an entry. -/
def identifier (r : LogRow) : Identifier :=
  ⟨r.medium, r.address⟩

/-- Whether an entry has not ended at a time. -/
def notEnded (r : LogRow) (now : Int64) : Bool :=
  match r.notAfter with
  | some t => now < t
  | none => true

/-- The binding of an entry. -/
def toAssociation (r : LogRow) : Association :=
  { r.toNewAssociation with sequence := r.sequence }

/-- What an entry records. -/
def toChange (r : LogRow) : Change :=
  if r.tombstone then
    .tombstone
      { medium := r.medium, address := r.address, account := r.account, deletedAt := r.createdAt
        signedPayload := r.signedPayload, sequence := r.sequence }
  else .bound r.toAssociation

end LogRow

/-- The row fields of a tombstone. -/
def NewTombstone.toRow (t : NewTombstone) : NewAssociation where
  medium := t.medium
  address := t.address
  account := t.account
  notBefore := t.deletedAt
  notAfter := none
  createdAt := t.deletedAt
  signedPayload := t.signedPayload

/-- The log, in ascending order of the numbers. -/
structure AssociationLog where
  rows : List LogRow := []
  /-- The greatest number ever given. -/
  last : Int64 := 0
  deriving DecidableEq, Repr

namespace AssociationLog

/-- Takes the active mark from the entries that satisfy `p`, and tells how many there were. -/
def deactivate (p : LogRow → Bool) : Transaction AssociationLog Nat := do
  let log ← get
  let hit (r : LogRow) : Bool := r.active && p r
  set { log with rows := log.rows.map fun r => if hit r then { r with active := false } else r }
  return log.rows.countP hit

/-- Puts an entry at the end of the log, under a fresh number. -/
def append (row : NewAssociation) (tombstone active : Bool) : Transaction AssociationLog Int64 := do
  let log ← get
  let sequence ← nextNumber log.last
  set ({ rows := log.rows ++ [{ row with sequence, tombstone, active }], last := sequence } : AssociationLog)
  return sequence

/-- Supersedes the active binding of the identifier, if there is one, by a new one. Answers with the number
    of the new entry. -/
def upsert (new : NewAssociation) : Transaction AssociationLog Int64 := do
  let _ ← deactivate fun r => r.identifier = ⟨new.medium, new.address⟩
  append new false true

/-- Removes the active binding of an identifier if it binds `owner` and has not ended, and records that
    with a tombstone. Answers whether there was such a binding. -/
def delete (identifier : Identifier) (owner : String) (tombstone : NewTombstone) (now : Int64) :
    Transaction AssociationLog Bool := do
  let found ← deactivate fun r => r.identifier = identifier && r.account = owner && r.notEnded now
  if found = 0 then return false
  let _ ← append { tombstone.toRow with medium := identifier.medium, address := identifier.address } true false
  return true

/-- The active binding of an identifier, if it has begun and not ended. -/
def getActive (log : AssociationLog) (identifier : Identifier) (now : Int64) : Option Association :=
  (log.rows.find? fun r => r.identifier = identifier && r.active && r.notBefore ≤ now && r.notEnded now).map
    (·.toAssociation)

/-- Up to `limit` entries after a place in the log, in their order. -/
def changesSince (log : AssociationLog) (cursor : Int64) (limit : Nat) : List Change :=
  ((log.rows.filter fun r => cursor < r.sequence).take limit).map (·.toChange)

end AssociationLog

end IdentityServer
