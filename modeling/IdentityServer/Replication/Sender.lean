import IdentityServer.Service.State

/-!
# Sending the log

Each peer gets the log in batches, in order. The cursor of a peer moves only when the peer acknowledges
exactly the last place of a batch; after any failure the same place is tried again, later and later.
-/

namespace IdentityServer

/-- What became of one push. -/
inductive PushOutcome where
  /-- A batch was acknowledged, and the cursor is at its last place. -/
  | pushed (records : Nat) (through : Int64)
  | caughtUp
  deriving DecidableEq, Repr

/-- What a sender waits for before its next push. -/
inductive Pause where
  | none
  /-- A wake-up, or the end of the polling interval. -/
  | idle
  /-- The delay after this many failed attempts. -/
  | backoff (attempts : UInt32)
  deriving DecidableEq, Repr

/-- Why a sender stopped pushing. -/
inductive SenderEnd where
  | stopped
  | idle
  /-- It used up the rounds it was given. -/
  | exhausted
  deriving DecidableEq, Repr

namespace Sender
open Operation
variable {ω : Type}

/-- Sends at most one batch to a peer. -/
def pushOnce (settings : ServiceSettings) (remote : Remote ω) (peer : Peer) (now : Int64) :
    Operation ω PushOutcome := do
  let cursor ← query (·.cursor peer.name)
  let changes ← query (·.changesSince cursor settings.batchLimit)
  if changes.isEmpty then return .caughtUp
  let batch ← federating (ReplicationBatch.ofChanges settings.serverName changes)
  match batch.lastSequence? with
  | none => return .caughtUp
  | some last =>
    let key := (← get).ring.current
    let ack ← federating (← ask (remote.push key peer batch))
    if ack.lastApplied ≠ last then
      federating (.error (.answer peer.name (.acknowledged ack.lastApplied.toInt last.toInt)))
    change fun db => return ((), ← db.advance peer.name last now)
    return .pushed batch.records.length last

/-- The number of failed attempts after one more, held at the greatest word. -/
def oneMore (attempts : UInt32) : UInt32 :=
  if attempts.toNat = UInt32.size - 1 then attempts else attempts + 1

/-- One round of a sender: a push, then how many attempts have failed in a row and what to wait for. -/
def round (settings : ServiceSettings) (remote : Remote ω) (peer : Peer) (now : Int64) (attempts : UInt32) :
    StateM (Service ω) (UInt32 × Pause) := do
  match ← (pushOnce settings remote peer now).run with
  | .ok (.pushed ..) => return (0, .none)
  | .ok .caughtUp => return (0, .idle)
  | .error _ => return (oneMore attempts, .backoff (oneMore attempts))

/-- Pushes until the peer has the whole log or the sender is told to stop, in one round for each of the given
    readings of the clock. It looks whether it was told so before every round and never during one. -/
def run (settings : ServiceSettings) (remote : Remote ω) (peer : Peer) (stopped : ω → Bool) :
    List Int64 → UInt32 → StateM (Service ω) SenderEnd
  | [], _ => pure .exhausted
  | now :: later, attempts => do
    if stopped (← get).world then return .stopped
    match ← round settings remote peer now attempts with
    | (_, .idle) => return .idle
    | (attempts, _) => run settings remote peer stopped later attempts

end Sender

end IdentityServer
