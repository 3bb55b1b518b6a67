import IdentityServer.Invite.Token
import IdentityServer.Store.Transaction

/-!
# The table of invites

Invites under numbers that are never given again. One that was delivered is deleted, or marked once with
the time of its delivery and never handed out again.
-/

namespace IdentityServer

/-- The table, in ascending order of the numbers. -/
structure InviteTable where
  rows : List InviteToken := []
  /-- The greatest number ever given. -/
  last : Int64 := 0
  deriving DecidableEq, Repr

namespace InviteTable

/-- Adds an invite that was received at `now`. -/
def store (identifier : Identifier) (room sender token : String) (now : Int64) :
    Transaction InviteTable InviteToken := do
  let table ← get
  let id ← nextNumber table.last
  let row : InviteToken :=
    { id, medium := identifier.medium, address := identifier.address, room, sender, token
      receivedAt := now, sentAt := none }
  set ({ rows := table.rows ++ [row], last := id } : InviteTable)
  return row

/-- The undelivered invites of an identifier, the oldest first. -/
def pending (table : InviteTable) (identifier : Identifier) : List InviteToken :=
  table.rows.filter fun t => t.identifier = identifier && !t.isDelivered

/-- Up to `limit` undelivered invites, the oldest first. -/
def undelivered (table : InviteTable) (limit : Nat) : List InviteToken :=
  (table.rows.filter fun t => !t.isDelivered).take limit

/-- Marks an invite as delivered, unless it already is. -/
def markSent (table : InviteTable) (id sentAt : Int64) : InviteTable :=
  { table with
    rows := table.rows.map fun t => if t.id = id && !t.isDelivered then { t with sentAt := some sentAt } else t }

/-- Deletes an invite. -/
def delete (table : InviteTable) (id : Int64) : InviteTable :=
  { table with rows := table.rows.filter fun t => t.id ≠ id }

/-- Whether pruning deletes an invite: it is undelivered and was received before the cutoff. -/
def isPruned (cutoff : Int64) (t : InviteToken) : Bool :=
  !t.isDelivered && t.receivedAt < cutoff

/-- Deletes the undelivered invites received before a time, and tells how many there were. -/
def pruneReceivedBefore (table : InviteTable) (cutoff : Int64) : Nat × InviteTable :=
  (table.rows.countP (isPruned cutoff), { table with rows := table.rows.filter fun t => !isPruned cutoff t })

end InviteTable

end IdentityServer
