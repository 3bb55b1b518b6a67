import IdentityServer.Federation.Authorization
import IdentityServer.Invite.Notice
import IdentityServer.Replication.Batch
import IdentityServer.Replication.Peer
import IdentityServer.Replication.Wake
import IdentityServer.Signing.KeyRing
import IdentityServer.Store.Database

/-!
# A running service

What operations of a running service read and change: its tables, its keys, the deliveries it still has to
make, the senders that wait for changes, and a world in which other servers are asked to do or to prove
something. An operation that fails keeps what it did before it failed; what has to happen together is one
transaction on a table.
-/

namespace IdentityServer

/-- What other servers are asked for, in a world of type `ω`. -/
structure Remote (ω : Type) where
  /-- Tells the server of an account about an invite, with the current key. -/
  deliver : KeyPair → InviteNotice → StateM ω (Except FederationError Unit)
  /-- Sends a batch to a peer, with the current key. -/
  push : KeyPair → Peer → ReplicationBatch → StateM ω (Except FederationError ReplicationAck)
  /-- Whether a claimed signature of a text is one of the server that owns an account, at a time. -/
  owns : String → ClaimedSignature → String → Int64 → StateM ω Bool

/-- The settings of a running service. -/
structure ServiceSettings where
  /-- The name under which this server signs. -/
  serverName : String
  /-- How long a binding stays valid, in milliseconds. -/
  lifetime : Option Int64
  /-- Whether an invite is deleted once it is delivered, or kept and marked. -/
  deleteOnDelivery : Bool
  /-- How long an invite can be delivered, in milliseconds. -/
  validity : Option Int64
  /-- The greatest number of records in a batch. -/
  batchLimit : Nat

/-- The state of a running service. -/
structure Service (ω : Type) where
  database : Database
  ring : KeyRing
  /-- The identifiers whose waiting invites are still to be delivered, in the order of their binds. -/
  deliveries : List Identifier
  wake : WakeHub
  world : ω

/-- An operation of a running service. -/
abbrev Operation (ω α : Type) := ExceptT ServiceError (StateM (Service ω)) α

namespace Operation
variable {ω α : Type}

/-- An answer of the database. -/
def query (read : Database → Except ServiceError α) : Operation ω α := do
  ExceptT.mk (pure (read (← get).database))

/-- A change of the database; one that fails changes nothing. -/
def change (write : Database → Except ServiceError (α × Database)) : Operation ω α := do
  let service ← get
  let (answer, database) ← ExceptT.mk (pure (write service.database))
  set { service with database }
  return answer

/-- Something asked of the world. -/
def ask (question : StateM ω α) : Operation ω α := do
  let service ← get
  let (answer, world) := question.run service.world
  set { service with world }
  return answer

/-- An operation whose failure is an answer. -/
def attempt (operation : Operation ω α) : Operation ω (Except ServiceError α) :=
  ExceptT.mk do return .ok (← operation.run)

/-- A value, or the failure that a fault of an identifier causes. -/
def identifying : Except IdentifierFault α → Operation ω α
  | .ok a => pure a
  | .error fault => throw (.invalidIdentifier fault)

/-- A value, or the failure of the service that a failure between servers causes. -/
def federating : Except FederationError α → Operation ω α
  | .ok a => pure a
  | .error e => throw e.toServiceError

end Operation

end IdentityServer
