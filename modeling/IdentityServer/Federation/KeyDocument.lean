import IdentityServer.Json.Record

/-!
# Key documents

What a server publishes about its keys: the current ones, the retired ones with the time they were retired,
and until when others may rely on the document.
-/

namespace IdentityServer

/-- A key that is not used any more. -/
structure RetiredKey where
  key : String
  expiredAt : Int64
  deriving DecidableEq

/-- The key document of a server. -/
structure KeyDocument where
  server : String
  verifyKeys : Dictionary String
  oldVerifyKeys : Dictionary RetiredKey
  validUntil : Int64
  signatures : Dictionary (Dictionary String)
  deriving DecidableEq

namespace KeyDocument

/-- The object of a current key. -/
def keyToJson (key : String) : Json :=
  .obj [("key", .str key)]

/-- The object of a retired key. -/
def retiredToJson (k : RetiredKey) : Json :=
  .obj [("expired_ts", .ofInt64 k.expiredAt), ("key", .str k.key)]

/-- The current key that an object states. -/
def keyOfObject? (v : Json) : Option String :=
  v.required Json.text? "key"

/-- The name of the only field of a current key. -/
def keyLayout : Json.Layout where
  needed := ["key"]

/-- The current key that a record states. -/
def keyOfJson? : Json → Option String :=
  keyLayout.read? keyOfObject?

/-- The retired key that an object states. -/
def retiredOfObject? (v : Json) : Option RetiredKey := do
  return { key := ← v.required Json.text? "key", expiredAt := ← v.required Json.int64? "expired_ts" }

/-- The names of the fields of a retired key in the order of a list. -/
def retiredLayout : Json.Layout where
  needed := ["key", "expired_ts"]

/-- The retired key that a record states. -/
def retiredOfJson? : Json → Option RetiredKey :=
  retiredLayout.read? retiredOfObject?

/-- A map as a field; an empty one is left out. -/
def optionalMap {α : Type} (name : String) (write : α → Json) (d : Dictionary α) : List (String × Json) :=
  if d.isEmpty then [] else [(name, .ofDictionary write d)]

/-- The object of the signatures of one server. -/
def signaturesToJson (d : Dictionary String) : Json :=
  .ofDictionary .str d

/-- The fields of a document in the order in which they are shown. -/
def shownFields (d : KeyDocument) : List (String × Json) :=
  [("server_name", .str d.server), ("verify_keys", .ofDictionary keyToJson d.verifyKeys)] ++
  optionalMap "old_verify_keys"
    (fun k : RetiredKey => .obj [("key", .str k.key), ("expired_ts", .ofInt64 k.expiredAt)]) d.oldVerifyKeys ++
  [("valid_until_ts", .ofInt64 d.validUntil)] ++
  optionalMap "signatures" signaturesToJson d.signatures

/-- The object of a document. -/
def toJson (d : KeyDocument) : Json :=
  .ofFields (
    optionalMap "old_verify_keys" retiredToJson d.oldVerifyKeys ++
    [("server_name", .str d.server)] ++
    optionalMap "signatures" signaturesToJson d.signatures ++
    [("valid_until_ts", .ofInt64 d.validUntil), ("verify_keys", .ofDictionary keyToJson d.verifyKeys)])

/-- The document that an object states. -/
def ofObject? (v : Json) : Option KeyDocument := do
  return {
    server := ← v.required Json.text? "server_name"
    verifyKeys := ← v.required (Json.dictionary? keyOfJson?) "verify_keys"
    oldVerifyKeys := ← v.orElse .empty (Json.dictionary? retiredOfJson?) "old_verify_keys"
    validUntil := ← v.required Json.int64? "valid_until_ts"
    signatures := ← v.orElse .empty (Json.dictionary? (Json.dictionary? Json.text?)) "signatures" }

/-- The names of the fields of a document in the order of a list, which may end without the signatures. -/
def layout : Json.Layout where
  needed := ["server_name", "verify_keys", "old_verify_keys", "valid_until_ts"]
  further := ["signatures"]

/-- The document that a record states. -/
def ofJson? : Json → Option KeyDocument :=
  layout.read? ofObject?

end KeyDocument

end IdentityServer
