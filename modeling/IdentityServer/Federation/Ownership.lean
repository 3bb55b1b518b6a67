import IdentityServer.Federation.Authorization
import IdentityServer.Federation.KeyDocument
import IdentityServer.Identifier.Account

/-!
# Proof of ownership

Whether a claimed signature comes from the server that owns an account. The keys of other servers are kept
as long as their documents are valid, and asked for again when a document lists no key of the claimed id,
but not more than once a minute. A document that is not valid any more, or of another server, is refused,
and whatever cannot be resolved is not proven.
-/

namespace IdentityServer

/-- The keys of a server, as they were fetched. -/
structure KnownKeys where
  verifyKeys : Dictionary String
  validUntil : Int64
  fetchedAt : Int64
  deriving DecidableEq

/-- The keys of other servers. -/
abbrev KeyCache := Dictionary KnownKeys

/-- What fetches the key document of a server. -/
abbrev KeyFetch (ω : Type) := String → StateM ω (Except FederationError KeyDocument)

namespace Ownership
variable {ω : Type}

/-- A document that lists no key of the claimed id is not fetched again sooner than this, in milliseconds. -/
def refetchInterval : Int64 := 60000

/-- What is known about a key without fetching. -/
inductive Lookup where
  | known (key : String)
  /-- The document lists no such key and was fetched a short time ago. -/
  | unlisted
  | stale

/-- What the cache knows about a key of a server. -/
def lookup (cache : KeyCache) (server keyId : String) (now : Int64) : Lookup :=
  match cache.get? server with
  | none => .stale
  | some entry =>
    if entry.validUntil ≤ now then .stale
    else
      match entry.verifyKeys.get? keyId with
      | some key => .known key
      | none => if now - entry.fetchedAt < refetchInterval then .unlisted else .stale

/-- Whether a fetched document is used: it is the document of the server and still valid. -/
def isUsable (server : String) (now : Int64) (document : KeyDocument) : Bool :=
  document.server = server && now < document.validUntil

/-- The key of a server. The cache changes only when a fetched document is used. -/
def publicKey (fetch : KeyFetch ω) (server keyId : String) (now : Int64) :
    StateM (KeyCache × ω) (Option String) := do
  let (cache, world) ← get
  match lookup cache server keyId now with
  | .known key => return some key
  | .unlisted => return none
  | .stale =>
    let (fetched, world) := (fetch server).run world
    match fetched with
    | .error _ =>
      set (cache, world)
      return none
    | .ok document =>
      if isUsable server now document then
        set (cache.insert server ⟨document.verifyKeys, document.validUntil, now⟩, world)
        return document.verifyKeys.get? keyId
      else
        set (cache, world)
        return none

/-- Whether a claimed signature of a text is one of the server that owns an account. -/
def verify [SignatureScheme] (fetch : KeyFetch ω) (account : String) (claimed : ClaimedSignature)
    (payload : String) (now : Int64) : StateM (KeyCache × ω) Bool := do
  match Account.server? account with
  | none => return false
  | some server =>
    if claimed.origin ≠ server then return false
    match ← publicKey fetch server claimed.keyId now with
    | some key => return verifySignature key claimed.signature (utf8 payload)
    | none => return false

end Ownership

end IdentityServer
