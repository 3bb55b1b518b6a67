import IdentityServer.Service.State

/-!
# Delivery of invites

The waiting invites of an identifier are delivered to the account that it is bound to at that moment, after
every bind and again in retry passes. An invite is recorded as delivered right after its delivery; a failed
delivery leaves it for the next pass. The clock is read anew wherever a time is needed, and it may have moved
either way in between.
-/

namespace IdentityServer

/-- What became of the invites of one identifier. -/
structure Delivered where
  succeeded : Nat := 0
  failed : Nat := 0
  deriving DecidableEq, Repr

/-- What became of the invites of one retry pass. -/
structure RetryReport where
  pruned : Nat := 0
  delivered : Nat := 0
  failed : Nat := 0
  /-- The invites whose identifier is not bound. -/
  waiting : Nat := 0
  deriving DecidableEq, Repr

/-- The readings of the clock while the invites of one identifier are delivered. -/
structure PassReadings where
  /-- When the binding is looked up. -/
  bound : Int64
  /-- When the deliveries begin; what has expired by then is passed over. -/
  begun : Int64
  /-- When an invite is marked as delivered, by its id. -/
  sent : Int64 → Int64

/-- The readings of a clock that stands still. -/
def PassReadings.fixed (now : Int64) : PassReadings := ⟨now, now, fun _ => now⟩

/-- The readings of the clock in a retry pass. -/
structure RetryReadings where
  /-- When expired invites are deleted. -/
  pruned : Int64
  /-- While the invites of an identifier are delivered. -/
  pass : Identifier → PassReadings

/-- The readings of a clock that stands still. -/
def RetryReadings.fixed (now : Int64) : RetryReadings := ⟨now, fun _ => .fixed now⟩

/-- The notice of an invite to the account that its identifier is bound to. -/
def InviteToken.notice (t : InviteToken) (account : String) : InviteNotice :=
  ⟨t.medium, t.address, account, t.room, t.sender, t.token⟩

namespace Delivery
open Operation
variable {ω : Type}

/-- The greatest number of invites that one retry pass looks at. -/
def retryPage : Nat := 1000

/-- Records that an invite was delivered: deletes it, or marks it. -/
def record (settings : ServiceSettings) (sentAt : Int64) (t : InviteToken) : Operation ω Unit :=
  change fun db => do
    let db ← if settings.deleteOnDelivery then db.deleteInvite t.id else db.markSent t.id sentAt
    return ((), db)

/-- Delivers one invite, unless it was delivered or has expired. A delivery that cannot be recorded counts
    as failed. -/
def deliverToken (settings : ServiceSettings) (remote : Remote ω) (readings : PassReadings) (account : String)
    (outcome : Delivered) (t : InviteToken) : Operation ω Delivered := do
  if t.isDelivered || t.isExpired settings.validity readings.begun then return outcome
  let key := (← get).ring.current
  match ← ask (remote.deliver key (t.notice account)) with
  | .error _ => return { outcome with failed := outcome.failed + 1 }
  | .ok () =>
    match ← attempt (record settings (readings.sent t.id) t) with
    | .ok () => return { outcome with succeeded := outcome.succeeded + 1 }
    | .error _ => return { outcome with failed := outcome.failed + 1 }

/-- Delivers the waiting invites of an identifier; nothing if it is not bound. -/
def deliverPending (settings : ServiceSettings) (remote : Remote ω) (readings : PassReadings)
    (identifier : Identifier) : Operation ω (Option Delivered) := do
  match ← query (·.getActive identifier readings.bound) with
  | none => return none
  | some association =>
    let tokens ← query (·.pending identifier)
    return some (← tokens.foldlM (deliverToken settings remote readings association.account) {})

/-- Makes the first of the deliveries that binds have scheduled. Whatever fails is left to a retry pass. -/
def deliverNext (settings : ServiceSettings) (remote : Remote ω) (readings : PassReadings)
    (identifier : Identifier) : Operation ω Unit := do
  let _ ← attempt (deliverPending settings remote readings identifier)
  modify fun service => { service with deliveries := service.deliveries.drop 1 }

/-- Makes all deliveries that binds have scheduled, each with readings of its own. -/
def drain (settings : ServiceSettings) (remote : Remote ω) (readings : Nat → PassReadings) :
    Operation ω Unit := do
  (← get).deliveries.zipIdx.forM fun entry => deliverNext settings remote (readings entry.2) entry.1

/-! ### Retry passes -/

/-- Counts an identifier once more, in its place among identifiers in ascending order. -/
def tally (identifier : Identifier) : List (Identifier × Nat) → List (Identifier × Nat)
  | [] => [(identifier, 1)]
  | (other, n) :: rest =>
    if other = identifier then (other, n + 1) :: rest
    else if identifier.before other then (identifier, 1) :: (other, n) :: rest
    else (other, n) :: tally identifier rest

/-- The identifiers of invites in ascending order, each with how many there are. -/
def byIdentifier (tokens : List InviteToken) : List (Identifier × Nat) :=
  tokens.foldl (fun counts t => tally t.identifier counts) []

/-- Delivers the invites of one identifier in a retry pass. -/
def retryIdentifier (settings : ServiceSettings) (remote : Remote ω) (readings : Identifier → PassReadings)
    (report : RetryReport) (entry : Identifier × Nat) : Operation ω RetryReport := do
  match ← deliverPending settings remote (readings entry.1) entry.1 with
  | some outcome =>
    return { report with
      delivered := report.delivered + outcome.succeeded
      failed := report.failed + outcome.failed }
  | none => return { report with waiting := report.waiting + entry.2 }

/-- Deletes the invites that have expired; how many there were. -/
def pruneExpired (settings : ServiceSettings) (now : Int64) : Operation ω Nat :=
  match settings.validity with
  | some validity => change (·.prune (Text.saturatingSub now validity))
  | none => pure 0

/-- A retry pass: expired invites are deleted, then the identifiers of the oldest waiting invites get
    theirs delivered. -/
def retry (settings : ServiceSettings) (remote : Remote ω) (readings : RetryReadings) :
    Operation ω RetryReport := do
  let pruned ← pruneExpired settings readings.pruned
  let tokens ← query (·.undelivered retryPage)
  (byIdentifier tokens).foldlM (retryIdentifier settings remote readings.pass) { pruned }

end Delivery

end IdentityServer
