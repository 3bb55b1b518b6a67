import IdentityServer.Configuration.Settings
import IdentityServer.Federation.Authorization
import IdentityServer.Federation.Discovery
import IdentityServer.Federation.KeyDocument
import IdentityServer.Identifier.Account
import IdentityServer.Invite.Notice
import IdentityServer.Json.Answer
import IdentityServer.Replication.Batch

/-!
# Talking to other servers

Fetching the keys of other servers, at the server itself or at a notary, telling a server about invites to
its accounts, and sending batches to peers. Key documents are checked as they were sent, before anything
unknown is dropped. All requests but those for keys are signed.
-/

namespace IdentityServer

/-- What a client needs to know. -/
structure Client where
  serverName : String
  keyResolution : KeyResolution
  notaryServer : Option String

/-- An exchange with other servers: it may fail, it uses what is known of their addresses, and it changes
    the world. -/
abbrev Exchange (ω α : Type) := ExceptT FederationError (StateM (DiscoveryCache × ω)) α

namespace Exchange
variable {ω : Type}

/-- Sends a request to `server` and takes the body of the answer. -/
def request (net : Network ω) (server : String) (r : HttpRequest) : Exchange ω String := do
  let (cache, world) ← get
  let (outcome, world) := (net.send r).run world
  set (cache, world)
  ExceptT.mk (pure (outcome.body server r.url))

/-- What a body states. -/
def decode {α : Type} (server : String) (read : String → Option α) (body : String) : Except FederationError α :=
  match read body with
  | some value => .ok value
  | none => .error (.answer server .body)

end Exchange

/-- The key document that a value states: it has to be the document of `server` and to be signed with one of
    its own current keys. -/
def checkKeyDocument [SignatureScheme] (server : String) (raw : Json) : Except FederationError KeyDocument := do
  match KeyDocument.ofJson? raw with
  | none => throw (.answer server .keyDocument)
  | some document =>
    if document.server ≠ server then throw (.answer server (.keyDocumentFor document.server))
    SignedJson.verify raw server document.verifyKeys.get?
    return document

/-- Of two documents the one that is valid longer, the first of two that are valid equally long. -/
def longerValid (best : Option KeyDocument) (document : KeyDocument) : Option KeyDocument :=
  match best with
  | some b => if b.validUntil < document.validUntil then some document else some b
  | none => some document

/-- Passes one value of a notary's answer. Those for other servers are passed over; the others have to be
    documents of `server` that the notary signed with one of its keys. -/
def notaryStep [SignatureScheme] (notary server : String) (notaryKeys : Dictionary String)
    (best : Option KeyDocument) (raw : Json) : Except FederationError (Option KeyDocument) := do
  if (raw.field? "server_name").bind Json.text? ≠ some server then return best
  let document ← checkKeyDocument server raw
  SignedJson.verify raw notary notaryKeys.get?
  return longerValid best document

/-- The document that is valid longest among a notary's answer. -/
def notaryDocument [SignatureScheme] (notary server : String) (notaryKeys : Dictionary String)
    (raws : List Json) : Except FederationError KeyDocument := do
  match ← raws.foldlM (notaryStep notary server notaryKeys) none with
  | some document => return document
  | none => throw (.answer notary (.noKeys server))

namespace Client
variable [SignatureScheme] {ω : Type}

/-- The path of a server's own key document. -/
def keysPath : String := "/_matrix/key/v2/server"

/-- The path of a notary's documents of a server. -/
def queryPath (server : String) : String :=
  "/_matrix/key/v2/query/" ++ Percent.queryEscape server

/-- The path that notices are sent to. -/
def noticePath : String := "/_matrix/federation/v1/3pid/onbind"

/-- The path that batches are sent to. -/
def pushPath : String := "/_matrix/identity/replicate/v1/push"

/-! ### Keys -/

/-- The key document of a server, from the server itself. -/
def fetchDirect (net : Network ω) (server : String) : Exchange ω KeyDocument := do
  let baseUrl ← Discovery.resolve net server
  let body ← Exchange.request net server (.get (baseUrl ++ keysPath))
  checkKeyDocument server (← Exchange.decode server Json.parse body)

/-- The values in the body of a notary's answer. -/
def notaryValues? (body : String) : Option (List Json) :=
  (Json.Source.ofBody body).bind fun answer => (answer.onlyField? "server_keys").bind (·.values?)

/-- The key document of a server, from a notary. -/
def fetchViaNotary (net : Network ω) (notary server : String) : Exchange ω KeyDocument := do
  let notaryKeys := (← fetchDirect net notary).verifyKeys
  let baseUrl ← Discovery.resolve net notary
  let body ← Exchange.request net notary (.get (baseUrl ++ queryPath server))
  let raws ← Exchange.decode notary notaryValues? body
  notaryDocument notary server notaryKeys raws

/-- The key document of a server. The notary is asked if the policy says so, but not about itself. -/
def fetchKeys (client : Client) (net : Network ω) (server : String) : Exchange ω KeyDocument :=
  match client.keyResolution, client.notaryServer with
  | .notary, some notary => if notary ≠ server then fetchViaNotary net notary server else fetchDirect net server
  | _, _ => fetchDirect net server

/-! ### Signed requests -/

/-- Sends a value to a path of a server, signed with a key. -/
def signedPost (client : Client) (net : Network ω) (key : KeyPair) (destination baseUrl uri : String)
    (content : Json) : Exchange ω String := do
  let claim := SignedRequest.sign key ⟨client.serverName, destination, "POST", uri, some content⟩
  let url := String.ofList (Text.dropTail (· = '/') baseUrl.toList) ++ uri
  Exchange.request net destination (.post url claim.toHeader content)

/-- What a notice states of its invite, for this server to sign. -/
def noticeClaim (n : InviteNotice) : Json :=
  .obj [("mxid", .str n.account), ("token", .str n.token)]

/-- The body of a notice. -/
def noticeBody (n : InviteNotice) (signed : Json) : Json :=
  .ofFields [("medium", .str n.medium.name), ("address", .str n.address), ("mxid", .str n.account),
    ("invites", .arr [.ofFields [("medium", .str n.medium.name), ("address", .str n.address),
      ("mxid", .str n.account), ("room_id", .str n.room), ("sender", .str n.sender), ("token", .str n.token),
      ("signed", signed)]])]

/-- Runs an exchange with a server, and forgets where the server is reached if it fails. -/
def forgettingOnFailure {α : Type} (server : String) (exchange : Exchange ω α) : Exchange ω α :=
  tryCatch exchange fun e => do
    ExceptT.lift (Discovery.invalidate server)
    throw e

/-- Tells the server of an account about an invite. -/
def deliver (client : Client) (net : Network ω) (key : KeyPair) (n : InviteNotice) : Exchange ω Unit := do
  match Account.server n.account with
  | .error fault => throw (.discovery n.account (ServiceError.invalidIdentifier fault).message)
  | .ok destination =>
    match SignedJson.sign key client.serverName (noticeClaim n) with
    | .error fault => throw (.object fault)
    | .ok signed =>
      let baseUrl ← Discovery.resolve net destination
      let _ ← forgettingOnFailure destination
        (client.signedPost net key destination baseUrl noticePath (noticeBody n signed))

/-- Sends a batch to a peer. -/
def push (client : Client) (net : Network ω) (key : KeyPair) (peer : Peer) (batch : ReplicationBatch) :
    Exchange ω ReplicationAck := do
  let body ← client.signedPost net key peer.name peer.endpoint pushPath batch.toJson
  Exchange.decode peer.name ReplicationAck.ofBody? body

end Client

end IdentityServer
