import IdentityServer.Invite.Delivery
import IdentityServer.Replication.Backoff
import IdentityServer.Replication.Sender

/-!
# The schedule of a running service

A running service looks for waiting invites time and again, and has a sender for each peer. Each of these
chores is due at a time on a clock that never goes back, and once it is done it says when it is due again.
A sender without changes to send is due as soon as it is woken up.
-/

namespace IdentityServer

/-- A delay of a range, picked by a number, in whole milliseconds. -/
def DelayRange.pick (draw : Nat) : DelayRange → Nat
  | .exactly step => step.toMillis
  | .millis least most => least + draw % (most + 1 - least)

/-- What a running service does time and again. -/
inductive Chore where
  | retry
  /-- The sender of a peer, the number under which it is woken up, and its failed attempts in a row. -/
  | send (peer : Peer) (subscriber : Nat) (attempts : UInt32)

/-- A chore and the time at which it is due, in milliseconds. -/
structure Appointment where
  chore : Chore
  due : Nat

/-- How long chores wait, in milliseconds. -/
structure Timing where
  retryInterval : Nat
  pollInterval : Nat
  backoff : Backoff

namespace Schedule
variable {ω : Type}

/-- The senders of peers, all due at once; each subscribes to wake-ups. -/
def senders : List Peer → WakeHub → List Appointment × WakeHub
  | [], hub => ([], hub)
  | peer :: rest, hub =>
    let (subscriber, hub) := hub.subscribe
    let (others, hub) := senders rest hub
    (⟨.send peer subscriber 0, 0⟩ :: others, hub)

/-- The chores of a service that has just started. -/
def start (peers : List Peer) (hub : WakeHub) : List Appointment × WakeHub :=
  let (sending, hub) := senders peers hub
  (⟨.retry, 0⟩ :: sending, hub)

/-- How long a sender pauses. -/
def pause (timing : Timing) (draw : Nat) : Pause → Nat
  | .none => 0
  | .idle => timing.pollInterval
  | .backoff attempts => (timing.backoff.delays attempts).pick draw

/-- Whether a chore is to be done now. A sender that waits for changes takes its wake-up. -/
def isDue (uptime : Nat) (a : Appointment) : StateM (Service ω) Bool := do
  if a.due ≤ uptime then return true
  match a.chore with
  | .send _ subscriber 0 =>
    let service ← get
    let (woken, wake) := service.wake.poll subscriber
    set { service with wake }
    return woken
  | _ => return false

/-- Does a chore. A retry pass that fails is left to the next one. -/
def perform (settings : ServiceSettings) (timing : Timing) (remote : Remote ω) (now : Int64)
    (uptime draw : Nat) : Chore → StateM (Service ω) Appointment
  | .retry => do
    let _ ← (Delivery.retry settings remote (.fixed now)).run
    return ⟨.retry, uptime + timing.retryInterval⟩
  | .send peer subscriber attempts => do
    let (attempts, wait) ← Sender.round settings remote peer now attempts
    return ⟨.send peer subscriber attempts, uptime + pause timing draw wait⟩

/-- Does what is due, and says when everything is due next. -/
def tick (settings : ServiceSettings) (timing : Timing) (remote : Remote ω) (now : Int64) (uptime draw : Nat)
    (appointments : List Appointment) : StateM (Service ω) (List Appointment) :=
  appointments.mapM fun a => do
    if ← isDue uptime a then perform settings timing remote now uptime draw a.chore else return a

/-- How long nothing is due, as far as is known now. -/
def rest (uptime longest : Nat) (appointments : List Appointment) : Nat :=
  appointments.foldl (fun least a => min least (a.due - uptime)) longest

end Schedule

end IdentityServer
