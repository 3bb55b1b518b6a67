import IdentityServer.Association.Change
import IdentityServer.Federation.Error
import IdentityServer.Json.Answer
import IdentityServer.Json.Canonical

/-!
# Batches

How log entries travel to a peer: each with its place in the log, whether it is a tombstone, and the signed
value. The receiver takes everything else from the signed value.
-/

namespace IdentityServer

/-- A log entry as it is sent. -/
structure ReplicatedRecord where
  sequence : Int64
  tombstone : Bool
  signed : Json

/-- Log entries of one server, in their order. -/
structure ReplicationBatch where
  origin : String
  records : List ReplicatedRecord

/-- The answer to a batch: the last place in the log that was applied. -/
structure ReplicationAck where
  lastApplied : Int64
  deriving DecidableEq, Repr

namespace ReplicatedRecord

/-- The record of a log entry; nothing if its signed text is not JSON. -/
def ofChange (c : Change) : Except FederationError ReplicatedRecord :=
  match Json.parse c.signedPayload with
  | some signed => .ok ⟨c.sequence, c.isTombstone, signed⟩
  | none => .error (.serialisation "not JSON")

/-- The object of a record. -/
def toJson (r : ReplicatedRecord) : Json :=
  .ofFields [("sequence_no", .ofInt64 r.sequence), ("signed", r.signed), ("tombstone", .bool r.tombstone)]

/-- The log entry that an object states; without a mark it is no tombstone. -/
def ofObject? (v : Json) : Option ReplicatedRecord := do
  return {
    sequence := ← v.required Json.int64? "sequence_no"
    tombstone := ← v.orElse false Json.bool? "tombstone"
    signed := ← v.field? "signed" }

/-- The names of the fields of a log entry in the order of a list. -/
def layout : Json.Layout where
  needed := ["sequence_no", "tombstone", "signed"]

/-- The log entry that a record states. -/
def ofJson? : Json → Option ReplicatedRecord :=
  layout.read? ofObject?

end ReplicatedRecord

namespace ReplicationBatch

/-- The batch of log entries, in their order. -/
def ofChanges (origin : String) (changes : List Change) : Except FederationError ReplicationBatch := do
  return ⟨origin, ← changes.mapM ReplicatedRecord.ofChange⟩

/-- The place in the log of the last record. -/
def lastSequence? (b : ReplicationBatch) : Option Int64 :=
  b.records.getLast?.map (·.sequence)

/-- The object of a batch. -/
def toJson (b : ReplicationBatch) : Json :=
  .obj [("origin", .str b.origin), ("records", .arr (b.records.map (·.toJson)))]

/-- The batch that an object states. -/
def ofObject? (v : Json) : Option ReplicationBatch := do
  return {
    origin := ← v.required Json.text? "origin"
    records := ← (← v.required Json.items? "records").mapM ReplicatedRecord.ofJson? }

/-- The names of the fields of a batch in the order of a list. -/
def layout : Json.Layout where
  needed := ["origin", "records"]

/-- The batch that a record states. -/
def ofJson? : Json → Option ReplicationBatch :=
  layout.read? ofObject?

end ReplicationBatch

namespace ReplicationAck

/-- The object of an answer. -/
def toJson (a : ReplicationAck) : Json :=
  .obj [("last_sequence_applied", .ofInt64 a.lastApplied)]

/-- The answer that an object states. -/
def ofObject? (v : Json) : Option ReplicationAck := do
  return { lastApplied := ← v.required Json.int64? "last_sequence_applied" }

/-- The name of the only field of an answer. -/
def layout : Json.Layout where
  needed := ["last_sequence_applied"]

/-- The answer that a record states. -/
def ofJson? : Json → Option ReplicationAck :=
  layout.read? ofObject?

/-- The answer in the body of a response. -/
def ofBody? (body : String) : Option ReplicationAck := do
  return { lastApplied := ← (← (← Json.Source.ofBody body).onlyField? "last_sequence_applied").int64? }

end ReplicationAck

end IdentityServer
