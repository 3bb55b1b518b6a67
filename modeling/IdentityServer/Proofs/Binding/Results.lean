import IdentityServer.Binding.Binder
import IdentityServer.Proofs.Association.Attestation
import IdentityServer.Proofs.Outcome

/-! # What binding and unbinding come to

The answer of each request and the state it leaves, in terms of what the identifiers, the remote and the
store of associations answer. -/

namespace IdentityServer

namespace Binder
open Operation SignedJson
variable [SignatureScheme] {ω : Type} {settings : ServiceSettings} {now : Int64} {medium : Medium}
  {raw account address : String} {s : Service ω}

/-- What is signed here carries no signature yet, so signing does not fail. -/
theorem result_signed {fields : Fields Json} (h : Fields.get? "signatures" fields = none) :
    (signed settings (.obj fields)).result s =
      (.ok (signedPayload s.ring.current settings.serverName fields), s) := by
  rw [signed, result_bind_ok result_get, sign_unsigned _ _ h]
  rfl

/-! ### Binding -/

/-- The association of a binding, signed by a key. -/
def binding (settings : ServiceSettings) (key : KeyPair) (medium : Medium) (address account : String) (now : Int64) :
    NewAssociation where
  medium := medium
  address := address
  account := account
  notBefore := now
  notAfter := settings.lifetime.map (Text.saturatingAdd now)
  createdAt := now
  signedPayload := signedPayload key settings.serverName
    (BindingAttestation.mk medium address account now (settings.lifetime.map (Text.saturatingAdd now)) now).fields

theorem result_bind_unvalidated :
    (bind settings now medium raw account false).result s = (.error (.precondition .validated), s) :=
  rfl

theorem result_bind_account {fault : IdentifierFault} (h : Account.validate account = .error fault) :
    (bind settings now medium raw account true).result s = (.error (.invalidIdentifier fault), s) := by
  rw [bind, h]
  rfl

theorem result_bind_address {fault : IdentifierFault} (haccount : Account.validate account = .ok ())
    (h : Address.canonicalize medium raw = .error fault) :
    (bind settings now medium raw account true).result s = (.error (.invalidIdentifier fault), s) := by
  rw [bind, haccount, h]
  rfl

/-- A binding of a well-formed identifier is what the store of associations makes of it. What follows from
    it does not change the answer. -/
theorem result_bind_canonical (haccount : Account.validate account = .ok ())
    (haddress : Address.canonicalize medium raw = .ok address) :
    (bind settings now medium raw account true).result s =
      match s.database.upsert (binding settings s.ring.current medium address account now) with
      | .ok (sequence, database) =>
        (.ok { binding settings s.ring.current medium address account now with sequence },
          { s with database, deliveries := s.deliveries ++ [⟨medium, address⟩], wake := s.wake.notifyAll })
      | .error e => (.error e, s) := by
  rw [bind, haccount, haddress, if_neg (by simp), result_bind_ok (result_identifying_ok _),
    result_bind_ok (result_identifying_ok _)]
  dsimp only
  rw [BindingAttestation.toJson_eq, result_bind_ok (result_signed (BindingAttestation.unsigned _))]
  split
  · rename_i sequence database hupsert
    rw [result_bind_ok (result_change_ok hupsert)]
    rfl
  · rename_i e hupsert
    rw [result_bind_error (result_change_error hupsert)]

/-- A request to bind is refused, or it puts a binding of a well-formed identifier into the log. -/
theorem bind_cases (settings : ServiceSettings) (now : Int64) (medium : Medium) (raw account : String) (validated : Bool)
    (s : Service ω) :
    (∃ e, (bind settings now medium raw account validated).result s = (.error e, s)) ∨
    ∃ address sequence database, Account.validate account = .ok () ∧ Address.canonicalize medium raw = .ok address ∧
      s.database.upsert (binding settings s.ring.current medium address account now) = .ok (sequence, database) ∧
      (bind settings now medium raw account validated).result s =
        (.ok { binding settings s.ring.current medium address account now with sequence },
          { s with database, deliveries := s.deliveries ++ [⟨medium, address⟩], wake := s.wake.notifyAll }) := by
  cases validated with
  | false => exact .inl ⟨_, result_bind_unvalidated⟩
  | true =>
    cases haccount : Account.validate account with
    | error fault => exact .inl ⟨_, result_bind_account haccount⟩
    | ok =>
      cases haddress : Address.canonicalize medium raw with
      | error fault => exact .inl ⟨_, result_bind_address haccount haddress⟩
      | ok address =>
        rw [result_bind_canonical haccount haddress]
        cases hupsert : s.database.upsert (binding settings s.ring.current medium address account now) with
        | error e => exact .inl ⟨e, rfl⟩
        | ok written => exact .inr ⟨address, written.1, written.2, rfl, rfl, hupsert, rfl⟩

/-! ### Unbinding -/

/-- The tombstone of an unbinding, signed by a key. -/
def tombstone (key : KeyPair) (server : String) (medium : Medium) (address account : String) (made : Int64) :
    NewTombstone where
  medium := medium
  address := address
  account := account
  deletedAt := made
  signedPayload := signedPayload key server (UnbindingAttestation.mk medium address account made).fields

/-- What becomes of an unbinding whose ownership is proven: what the store of associations makes of it. -/
def removal (settings : ServiceSettings) (medium : Medium) (address account : String) (readings : UnbindReadings)
    (s : Service ω) : Except ServiceError UnbindOutcome × Service ω :=
  match s.database.delete ⟨medium, address⟩ account
      (tombstone s.ring.current settings.serverName medium address account readings.made) readings.removed with
  | .ok (true, database) => (.ok .removed, { s with database, wake := s.wake.notifyAll })
  | .ok (false, database) => (.ok .notFound, { s with database })
  | .error e => (.error e, s)

variable {remote : Remote ω} {readings : UnbindReadings} {claimed : ClaimedSignature}

theorem result_unbind_account {fault : IdentifierFault} (h : Account.validate account = .error fault) :
    (unbind settings remote readings medium raw account claimed).result s = (.error (.invalidIdentifier fault), s) := by
  rw [unbind, h]
  rfl

theorem result_unbind_address {fault : IdentifierFault} (haccount : Account.validate account = .ok ())
    (h : Address.canonicalize medium raw = .error fault) :
    (unbind settings remote readings medium raw account claimed).result s = (.error (.invalidIdentifier fault), s) := by
  rw [unbind, haccount, h]
  rfl

/-- An unbinding of a well-formed identifier asks for proof of ownership, over the address as it was sent. -/
theorem result_unbind {proven : Bool} {world : ω} (haccount : Account.validate account = .ok ())
    (haddress : Address.canonicalize medium raw = .ok address)
    (hproven : (remote.owns account claimed
      (SignedRequest.unbind claimed.origin settings.serverName account medium raw).signedText readings.proved).run s.world =
        (proven, world)) :
    (unbind settings remote readings medium raw account claimed).result s =
      if proven then removal settings medium address account readings { s with world }
      else (.error (.notAuthorized account), { s with world }) := by
  rw [unbind, haccount, haddress, result_bind_ok (result_identifying_ok _), result_bind_ok (result_identifying_ok _)]
  dsimp only
  rw [result_bind_ok (result_ask _), hproven]
  cases proven with
  | false => rfl
  | true =>
    rw [if_neg (by simp), UnbindingAttestation.toJson_eq,
      result_bind_ok (result_signed (UnbindingAttestation.unsigned _))]
    dsimp only
    rw [if_pos rfl, removal]
    split
    · rename_i database hdelete
      rw [result_bind_ok (result_change_ok hdelete)]
      rfl
    · rename_i database hdelete
      rw [result_bind_ok (result_change_ok hdelete)]
      rfl
    · rename_i e hdelete
      rw [result_bind_error (result_change_error hdelete)]

/-- A request to unbind is malformed, or what becomes of it depends on the proof of ownership. -/
theorem unbind_cases (settings : ServiceSettings) (remote : Remote ω) (readings : UnbindReadings) (medium : Medium)
    (raw account : String) (claimed : ClaimedSignature) (s : Service ω) :
    (∃ fault, (∀ address, Account.validate account = .ok () → Address.canonicalize medium raw ≠ .ok address) ∧
      (unbind settings remote readings medium raw account claimed).result s = (.error (.invalidIdentifier fault), s)) ∨
    ∃ address proven world, Account.validate account = .ok () ∧ Address.canonicalize medium raw = .ok address ∧
      (remote.owns account claimed
        (SignedRequest.unbind claimed.origin settings.serverName account medium raw).signedText readings.proved).run s.world =
          (proven, world) ∧
      (unbind settings remote readings medium raw account claimed).result s =
        if proven then removal settings medium address account readings { s with world }
        else (.error (.notAuthorized account), { s with world }) := by
  cases haccount : Account.validate account with
  | error fault => exact .inl ⟨fault, nofun, result_unbind_account haccount⟩
  | ok =>
    cases haddress : Address.canonicalize medium raw with
    | error fault => exact .inl ⟨fault, nofun, result_unbind_address haccount haddress⟩
    | ok address => exact .inr ⟨address, _, _, rfl, rfl, rfl, result_unbind haccount haddress rfl⟩

end Binder

end IdentityServer
