import IdentityServer.Federation.Authorization
import IdentityServer.Identifier.Medium

/-!
# Requests to unbind

What the server of an account signs to have a binding removed: a request to this server that names the
account and the identifier, with the address exactly as it was sent.
-/

namespace IdentityServer.SignedRequest

/-- The path under which bindings are removed. -/
def unbindPath : String := "/_matrix/identity/api/v1/3pid/unbind"

/-- The content of a request to unbind. -/
def unbindContent (account : String) (medium : Medium) (address : String) : Json :=
  .obj [("mxid", .str account),
    ("threepid", .obj [("address", .str address), ("medium", .str medium.name)])]

/-- The request of `origin` to `destination` to unbind an identifier from an account. -/
def unbind (origin destination account : String) (medium : Medium) (address : String) : SignedRequest where
  origin := origin
  destination := destination
  method := "POST"
  uri := unbindPath
  content := some (unbindContent account medium address)

end IdentityServer.SignedRequest
