import IdentityServer.Identifier.Medium

/-!
# Notices

What the server of an account is told when an identifier with waiting invites has been bound to it: one
notice for each invite.
-/

namespace IdentityServer

/-- An invite and the account that its identifier is now bound to. -/
structure InviteNotice where
  medium : Medium
  address : String
  account : String
  room : String
  sender : String
  token : String
  deriving DecidableEq, Repr

end IdentityServer
