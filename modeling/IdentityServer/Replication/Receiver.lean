import IdentityServer.Association.Attestation
import IdentityServer.Identifier.Account
import IdentityServer.Identifier.Address
import IdentityServer.Replication.Batch
import IdentityServer.Replication.Peer
import IdentityServer.Signing.SignedJson
import IdentityServer.Store.ReplicatedTable

/-!
# Receiving batches

A batch of a peer is taken whole or not at all: every record has to carry a signature of the peer over a
statement of the kind its mark says, about a canonical address and a well-formed account. What is kept of a
record comes from the signed statement, apart from its place in the log and its mark.
-/

namespace IdentityServer.Receiver

/-- The peer of a name; of several the last one counts. -/
def peerOf? (peers : List Peer) (name : String) : Option Peer :=
  peers.reverse.find? (·.name == name)

/-- The wording of a signed value that is no statement of the kind it should be. -/
def notAttested : String := "not an attestation"

/-- The record that the statement of a binding makes. -/
def ofBinding (origin payload : String) (sequence : Int64) (a : BindingAttestation) : ReplicatedAssociation where
  origin := origin
  originSequence := sequence
  medium := a.medium
  address := a.address
  account := a.account
  notBefore := a.notBefore
  notAfter := a.notAfter
  createdAt := a.madeAt
  signedPayload := payload
  tombstone := false

/-- The record that the statement of an unbinding makes. -/
def ofUnbinding (origin payload : String) (sequence : Int64) (a : UnbindingAttestation) :
    ReplicatedAssociation where
  origin := origin
  originSequence := sequence
  medium := a.medium
  address := a.address
  account := a.account
  notBefore := a.deletedAt
  notAfter := none
  createdAt := a.deletedAt
  signedPayload := payload
  tombstone := true

/-- The record that the signed value of a log entry makes, if it states what its mark says. -/
def read? (origin : String) (record : ReplicatedRecord) : Option ReplicatedAssociation :=
  let payload := record.signed.canonical
  if record.tombstone then
    (UnbindingAttestation.ofJson? record.signed).map (ofUnbinding origin payload record.sequence)
  else (BindingAttestation.ofJson? record.signed).map (ofBinding origin payload record.sequence)

/-- Refuses a record about an address that is not canonical, or an account that is none. -/
def checkIdentifiers (r : ReplicatedAssociation) : Except IdentifierFault Unit := do
  if (← Address.canonicalize r.medium r.address) ≠ r.address then throw .notCanonical
  Account.validate r.account

/-- The record that a log entry of a peer makes. -/
def verified [SignatureScheme] (peer : Peer) (record : ReplicatedRecord) :
    Except ServiceError ReplicatedAssociation :=
  match SignedJson.verify record.signed peer.name fun _ => some peer.verifyKey with
  | .error _ => .error (.notAuthorized peer.name)
  | .ok () =>
    match read? peer.name record with
    | none => .error (.precondition (.recordForm notAttested))
    | some r =>
      match checkIdentifiers r with
      | .error fault => .error (.invalidIdentifier fault)
      | .ok () => .ok r

/-- The greatest place in the log of a batch, or 0 for an empty one. -/
def greatestSequence (batch : ReplicationBatch) : Int64 :=
  ((batch.records.map (·.sequence)).max?).getD 0

/-- Applies a batch that the server `origin` has sent. -/
def applyBatch [SignatureScheme] (peers : List Peer) (origin : String) (batch : ReplicationBatch)
    (table : ReplicatedTable) : Except ServiceError (ReplicationAck × ReplicatedTable) := do
  match peerOf? peers origin with
  | none => throw (.notAuthorized origin)
  | some peer =>
    if batch.origin ≠ origin then throw (.notAuthorized batch.origin)
    let records ← batch.records.mapM (verified peer)
    return (⟨greatestSequence batch⟩, table.applyAll records)

end IdentityServer.Receiver
