import IdentityServer.Json.Record

/-!
# Invite tokens

An invite to a room that was sent to an identifier before anyone had bound it. It waits until the
identifier is bound, is delivered at most once, and may expire before that.
-/

namespace IdentityServer

/-- An invite that waits for its identifier. -/
structure InviteToken where
  id : Int64
  medium : Medium
  address : String
  room : String
  sender : String
  token : String
  receivedAt : Int64
  /-- When it was delivered, if it was. -/
  sentAt : Option Int64
  deriving DecidableEq, Repr

namespace InviteToken

/-- The identifier that was invited. -/
def identifier (t : InviteToken) : Identifier :=
  ⟨t.medium, t.address⟩

/-- Whether the invite was delivered. -/
def isDelivered (t : InviteToken) : Bool :=
  t.sentAt.isSome

/-- Whether the invite outlived its validity, if it has one. -/
def isExpired (t : InviteToken) (validity : Option Int64) (now : Int64) : Bool :=
  match validity with
  | some v => Text.saturatingAdd t.receivedAt v ≤ now
  | none => false

/-- The object of an invite. -/
def toJson (t : InviteToken) : Json :=
  .ofFields [("address", .str t.address), ("id", .ofInt64 t.id), ("medium", .str t.medium.name),
    ("received_ts", .ofInt64 t.receivedAt), ("room_id", .str t.room), ("sender", .str t.sender),
    ("sent_ts", .ofOptionalInt64 t.sentAt), ("token", .str t.token)]

/-- The invite that an object states. -/
def ofObject? (v : Json) : Option InviteToken := do
  return {
    id := ← v.required Json.int64? "id"
    medium := ← v.required (Json.medium? Json.isNull) "medium"
    address := ← v.required Json.text? "address"
    room := ← v.required Json.text? "room_id"
    sender := ← v.required Json.text? "sender"
    token := ← v.required Json.text? "token"
    receivedAt := ← v.required Json.int64? "received_ts"
    sentAt := ← v.optionalInt64 "sent_ts" }

/-- The names of the fields of an invite in the order of a list. -/
def layout : Json.Layout where
  needed := ["id", "medium", "address", "room_id", "sender", "token", "received_ts", "sent_ts"]

/-- The invite that a record states. -/
def ofJson? : Json → Option InviteToken :=
  layout.read? ofObject?

end InviteToken

end IdentityServer
