/-!
# Peers

Other identity servers that this one sends its log to and takes theirs from.
-/

namespace IdentityServer

/-- A peer as it is set up: its name, where it is reached, and its public key. -/
structure Peer where
  name : String
  endpoint : String
  verifyKey : String
  deriving DecidableEq, Repr

end IdentityServer
