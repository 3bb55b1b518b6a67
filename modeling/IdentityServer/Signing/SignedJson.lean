import IdentityServer.Json.Canonical
import IdentityServer.Signing.KeyPair

/-!
# Signed JSON

A signed object carries its signatures in the field `signatures`, by server and key id. They cover the
canonical text of the object without `signatures` and `unsigned`, so signatures can be added and unsigned
data changed without harm to the others.
-/

namespace IdentityServer.SignedJson

/-- The fields that signatures cover. -/
def covered (fields : Fields Json) : Fields Json :=
  (fields.erase "signatures").erase "unsigned"

/-- The text that signatures of an object with these fields cover. -/
def signedText (fields : Fields Json) : String :=
  (Json.obj (covered fields)).canonical

/-- The fields of an object; the empty object stands in for a missing one. -/
def objectOrNew (fault : ObjectFault) : Option Json → Except ObjectFault (Fields Json)
  | none => .ok []
  | some (.obj fields) => .ok fields
  | some _ => .error fault

variable [SignatureScheme]

/-- The object with the signature of `key` under the name `server` put into it. -/
def sign (key : KeyPair) (server : String) (value : Json) : Except ObjectFault Json := do
  let .obj fields := value | throw .notObject
  let signature := key.sign (utf8 (signedText fields))
  let servers ← objectOrNew .signatures (Fields.get? "signatures" fields)
  let keys ← objectOrNew (.signaturesOf server) (Fields.get? server servers)
  let keys := Fields.insert key.id (.str signature) keys
  return .obj (Fields.insert "signatures" (.obj (Fields.insert server (.obj keys) servers)) fields)

/-- The signatures that an object carries from a server. -/
def signaturesOf (server : String) (value : Json) : Fields Json :=
  (((value.field? "signatures").bind (·.field? server)).bind (·.fields?)).getD []

/-- Whether an entry of `signatures` is a valid signature over `message` with a key that `keyFor` knows. -/
def entryValid (keyFor : String → Option String) (message : Bytes) (entry : String × Json) : Bool :=
  match keyFor entry.1, entry.2.text? with
  | some key, some signature => verifySignature key signature message
  | _, _ => false

/-- Accepts an object with at least one valid signature of `server`. `keyFor` gives the public keys by key
    id; key ids it does not know are passed over. -/
def verify (value : Json) (server : String) (keyFor : String → Option String) :
    Except FederationError Unit :=
  let entries := signaturesOf server value
  if entries.isEmpty then .error (.missingSignature server)
  else
    match value with
    | .obj fields =>
      if entries.any (entryValid keyFor (utf8 (signedText fields))) then .ok ()
      else .error .invalidSignature
    | _ => .error (.object .notObject)

end IdentityServer.SignedJson
