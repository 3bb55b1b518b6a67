/-!
# Wake-ups

Senders that wait for changes are woken up by whoever makes one. Each subscriber keeps at most one wake-up
until it looks, so one that comes while it is busy is not lost and several count once. A subscriber sees
only what comes after it subscribed.
-/

namespace IdentityServer

/-- The subscribers, each with whether a wake-up is pending, in the order in which they came. -/
structure WakeHub where
  pending : List Bool := []
  deriving DecidableEq, Repr

namespace WakeHub

/-- A new subscriber, numbered by how many there were. -/
def subscribe (hub : WakeHub) : Nat × WakeHub :=
  (hub.pending.length, ⟨hub.pending ++ [false]⟩)

/-- Wakes every subscriber. -/
def notifyAll (hub : WakeHub) : WakeHub :=
  ⟨hub.pending.map fun _ => true⟩

/-- Whether a wake-up of a subscriber was pending; it is not any more. -/
def poll (hub : WakeHub) (subscriber : Nat) : Bool × WakeHub :=
  (hub.pending[subscriber]?.getD false, ⟨hub.pending.set subscriber false⟩)

end WakeHub

end IdentityServer
