import IdentityServer.Association.Change

/-!
# Associations of peers

The latest record of every identifier and origin, under origin and place in the log of the origin.
-/

namespace IdentityServer

/-- A record of a peer's log. -/
structure ReplicatedAssociation extends NewAssociation where
  origin : String
  originSequence : Int64
  tombstone : Bool
  deriving DecidableEq, Repr

namespace ReplicatedAssociation

/-- The identifier of a record. -/
def identifier (r : ReplicatedAssociation) : Identifier :=
  ⟨r.medium, r.address⟩

/-- Whether two records are about one identifier of one origin. -/
def sameSubject (a b : ReplicatedAssociation) : Bool :=
  a.origin = b.origin && a.identifier = b.identifier

/-- Whether a record stands before another or in its place: by origin, then by place in the log. -/
def isBefore (a b : ReplicatedAssociation) : Bool :=
  a.origin < b.origin || (a.origin = b.origin && a.originSequence ≤ b.originSequence)

end ReplicatedAssociation

/-- The records that were kept, in the order in which they came. -/
structure ReplicatedTable where
  rows : List ReplicatedAssociation := []
  deriving DecidableEq, Repr

namespace ReplicatedTable

/-- Whether a record finds no place: one of the same identifier is as new or newer, or its origin and place
    are taken. -/
def isRefused (table : ReplicatedTable) (record : ReplicatedAssociation) : Bool :=
  table.rows.any fun r =>
    (r.sameSubject record && record.originSequence ≤ r.originSequence) ||
      (r.origin = record.origin && r.originSequence = record.originSequence)

/-- Keeps a record in place of the older ones of its identifier, and tells whether it was kept. -/
def apply (table : ReplicatedTable) (record : ReplicatedAssociation) : Bool × ReplicatedTable :=
  if table.isRefused record then (false, table)
  else
    (true, ⟨(table.rows.filter fun r => !(r.sameSubject record && r.originSequence < record.originSequence)) ++
      [record]⟩)

/-- Applies records one after the other. -/
def applyAll (table : ReplicatedTable) (records : List ReplicatedAssociation) : ReplicatedTable :=
  records.foldl (fun table record => (table.apply record).2) table

/-- The records by origin and place. -/
def ordered (table : ReplicatedTable) : List ReplicatedAssociation :=
  table.rows.mergeSort fun a b => a.isBefore b

end ReplicatedTable

end IdentityServer
