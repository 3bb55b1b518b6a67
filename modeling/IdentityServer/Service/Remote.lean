import IdentityServer.Federation.Client
import IdentityServer.Federation.Ownership
import IdentityServer.Service.State

/-!
# Other servers over a network

A running service keeps the keys of other servers and where they are reached. Behind that is the world in
which a network answers requests.
-/

namespace IdentityServer

/-- The keys of other servers, where they are reached, and the world behind that. -/
abbrev Surroundings (ω : Type) := KeyCache × DiscoveryCache × ω

/-- Does something with the second part of a state. -/
def onSecond {κ τ α : Type} (action : StateM τ α) : StateM (κ × τ) α := do
  let (first, second) ← get
  let (answer, second) := action.run second
  set (first, second)
  return answer

namespace Client
variable [SignatureScheme] {ω : Type}

/-- What fetches the key documents of other servers over a network. -/
def keyFetch (client : Client) (net : Network ω) : KeyFetch (DiscoveryCache × ω) := fun server =>
  (client.fetchKeys net server).run

/-- What other servers are asked for over a network. -/
def remote (client : Client) (net : Network ω) : Remote (Surroundings ω) where
  deliver key notice := onSecond (client.deliver net key notice).run
  push key peer batch := onSecond (client.push net key peer batch).run
  owns := Ownership.verify (client.keyFetch net)

end Client

end IdentityServer
