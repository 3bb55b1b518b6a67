import IdentityServer.Binding.UnbindRequest
import IdentityServer.Identifier.Address
import IdentityServer.Identifier.Account
import IdentityServer.Service.State

/-!
# Binding and unbinding

A validated identifier is bound to an account, in place of any binding before, and a binding is removed for
the server that owns its account. Both are signed and put into the log; what follows from them, invites to
deliver and peers to wake, never changes their result.
-/

namespace IdentityServer

/-- What became of a request to unbind. -/
inductive UnbindOutcome where
  | removed
  /-- No binding to the account was active. -/
  | notFound
  deriving DecidableEq, Repr

/-- The readings of the clock while a binding is removed, in their order. -/
structure UnbindReadings where
  /-- When the claimed signature is looked at. -/
  proved : Int64
  /-- When the tombstone is made. -/
  made : Int64
  /-- When the binding is looked for in the log. -/
  removed : Int64

/-- The readings of a clock that stands still. -/
def UnbindReadings.fixed (now : Int64) : UnbindReadings := ⟨now, now, now⟩

namespace Binder
open Operation
variable [SignatureScheme] {ω : Type}

/-- The text of a statement signed with the current key. -/
def signed (settings : ServiceSettings) (statement : Json) : Operation ω String := do
  match SignedJson.sign (← get).ring.current settings.serverName statement with
  | .ok value => return value.canonical
  | .error fault => throw (FederationError.object fault).toServiceError

/-- Wakes the senders. -/
def wakeSenders : Operation ω Unit :=
  modify fun service => { service with wake := service.wake.notifyAll }

/-- Has the invites of an identifier delivered later. -/
def scheduleDelivery (identifier : Identifier) : Operation ω Unit :=
  modify fun service => { service with deliveries := service.deliveries ++ [identifier] }

/-- Binds a validated identifier to an account and answers with the association that is now in the log. -/
def bind (settings : ServiceSettings) (now : Int64) (medium : Medium) (raw account : String)
    (validated : Bool) : Operation ω Association := do
  if !validated then throw (.precondition .validated)
  identifying (Account.validate account)
  let address ← identifying (Address.canonicalize medium raw)
  let new : NewAssociation :=
    { medium, address, account
      notBefore := now
      notAfter := settings.lifetime.map (Text.saturatingAdd now)
      createdAt := now
      signedPayload := "" }
  let new := { new with signedPayload := ← signed settings new.attestation.toJson }
  let sequence ← change (·.upsert new)
  scheduleDelivery ⟨medium, address⟩
  wakeSenders
  return { new with sequence }

/-- Removes the binding of an identifier to an account, for a claimed signature that the account's server
    has made over the request. The request names the address exactly as it was sent. -/
def unbind (settings : ServiceSettings) (remote : Remote ω) (readings : UnbindReadings) (medium : Medium)
    (raw account : String) (claimed : ClaimedSignature) : Operation ω UnbindOutcome := do
  identifying (Account.validate account)
  let address ← identifying (Address.canonicalize medium raw)
  let request := SignedRequest.unbind claimed.origin settings.serverName account medium raw
  if !(← ask (remote.owns account claimed request.signedText readings.proved)) then
    throw (.notAuthorized account)
  let tombstone : NewTombstone :=
    { medium, address, account, deletedAt := readings.made, signedPayload := "" }
  let tombstone := { tombstone with signedPayload := ← signed settings tombstone.attestation.toJson }
  if ← change (·.delete ⟨medium, address⟩ account tombstone readings.removed) then
    wakeSenders
    return .removed
  else return .notFound

end Binder

end IdentityServer
