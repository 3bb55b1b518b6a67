import IdentityServer.Association.Attestation

/-!
# Associations and changes

The entries of the log: an association binds an identifier to an account, a tombstone records that a
binding was removed. Both carry the signed text they were made from.
-/

namespace IdentityServer

/-- An association that has no place in the log yet. -/
structure NewAssociation where
  medium : Medium
  address : String
  account : String
  notBefore : Int64
  notAfter : Option Int64
  createdAt : Int64
  signedPayload : String
  deriving DecidableEq, Repr

/-- A tombstone that has no place in the log yet. -/
structure NewTombstone where
  medium : Medium
  address : String
  account : String
  deletedAt : Int64
  signedPayload : String
  deriving DecidableEq, Repr

/-- An association in the log. -/
structure Association extends NewAssociation where
  sequence : Int64
  deriving DecidableEq, Repr

/-- A tombstone in the log. -/
structure Tombstone extends NewTombstone where
  sequence : Int64
  deriving DecidableEq, Repr

/-- The statement that an association signs. -/
def NewAssociation.attestation (a : NewAssociation) : BindingAttestation :=
  ⟨a.medium, a.address, a.account, a.notBefore, a.notAfter, a.createdAt⟩

/-- The statement that a tombstone signs. -/
def NewTombstone.attestation (t : NewTombstone) : UnbindingAttestation :=
  ⟨t.medium, t.address, t.account, t.deletedAt⟩

/-- An entry of the log. -/
inductive Change where
  | bound (association : Association)
  | tombstone (tombstone : Tombstone)
  deriving DecidableEq, Repr

namespace Change

/-- The place of an entry in the log. -/
def sequence : Change → Int64
  | .bound a => a.sequence
  | .tombstone t => t.sequence

/-- The signed text of an entry. -/
def signedPayload : Change → String
  | .bound a => a.signedPayload
  | .tombstone t => t.signedPayload

/-- Whether an entry records a removal. -/
def isTombstone : Change → Bool
  | .bound _ => false
  | .tombstone _ => true

/-- The identifier of an entry. -/
def identifier : Change → Identifier
  | .bound a => ⟨a.medium, a.address⟩
  | .tombstone t => ⟨t.medium, t.address⟩

end Change

/-- The fields of an association. -/
def Association.jsonFields (a : Association) : List (String × Json) :=
  [("account_id", .str a.account), ("address", .str a.address), ("created_at", .ofInt64 a.createdAt),
   ("medium", .str a.medium.name), ("not_after", .ofOptionalInt64 a.notAfter),
   ("not_before", .ofInt64 a.notBefore), ("sequence_no", .ofInt64 a.sequence),
   ("signed_payload", .str a.signedPayload)]

/-- The object of an association. -/
def Association.toJson (a : Association) : Json :=
  .ofFields a.jsonFields

/-- The association that an object states. -/
def Association.ofObject? (v : Json) : Option Association := do
  return {
    medium := ← v.required (Json.medium? Json.isVoid) "medium"
    address := ← v.required Json.text? "address"
    account := ← v.required Json.text? "account_id"
    notBefore := ← v.required Json.int64? "not_before"
    notAfter := ← v.optionalInt64 "not_after"
    createdAt := ← v.required Json.int64? "created_at"
    sequence := ← v.required Json.int64? "sequence_no"
    signedPayload := ← v.required Json.text? "signed_payload" }

/-- The names of the fields of an association in the order of a list. -/
def Association.names : List String :=
  ["medium", "address", "account_id", "not_before", "not_after", "created_at", "sequence_no", "signed_payload"]

/-- The fields of a tombstone. -/
def Tombstone.jsonFields (t : Tombstone) : List (String × Json) :=
  [("account_id", .str t.account), ("address", .str t.address), ("deleted_at", .ofInt64 t.deletedAt),
   ("medium", .str t.medium.name), ("sequence_no", .ofInt64 t.sequence),
   ("signed_payload", .str t.signedPayload)]

/-- The tombstone that an object states. -/
def Tombstone.ofObject? (v : Json) : Option Tombstone := do
  return {
    medium := ← v.required (Json.medium? Json.isVoid) "medium"
    address := ← v.required Json.text? "address"
    account := ← v.required Json.text? "account_id"
    deletedAt := ← v.required Json.int64? "deleted_at"
    sequence := ← v.required Json.int64? "sequence_no"
    signedPayload := ← v.required Json.text? "signed_payload" }

/-- The names of the fields of a tombstone in the order of a list. -/
def Tombstone.names : List String :=
  ["medium", "address", "account_id", "deleted_at", "sequence_no", "signed_payload"]

namespace Change

/-- The object of an entry, with its kind. -/
def toJson : Change → Json
  | .bound a => .ofFields (("kind", .str "bound") :: a.jsonFields)
  | .tombstone t => .ofFields (("kind", .str "tombstone") :: t.jsonFields)

/-- The entry that an object states. -/
def ofObject? (v : Json) : Option Change := do
  let kind ← v.required Json.text? "kind"
  if kind = "bound" then (Association.ofObject? v).map .bound
  else if kind = "tombstone" then (Tombstone.ofObject? v).map .tombstone
  else none

/-- The names of the fields of an entry in the order of a list, which has the kind in front. -/
def layout (kind : Option Json) : Json.Layout where
  needed := "kind" :: match kind with
    | some (.str "tombstone") => Tombstone.names
    | _ => Association.names

/-- The entry that a record states. -/
def ofJson? (v : Json) : Option Change :=
  (layout (v.items?.bind List.head?)).read? ofObject? v

end Change

end IdentityServer
