import IdentityServer.Error

/-!
# Failures between servers

Why talking to, or trusting, another server failed. Failures to find or reach a server, and answers that
make no sense, are transient; a failure of the storage passes through unchanged.
-/

namespace IdentityServer

/-- Why a signing key could not be loaded. -/
inductive KeyFault where
  | seedLength
  | seedEncoding
  | form
  | version (text : String)
  | noCurrent
  | other (text : String)
  deriving DecidableEq, Repr

/-- What is wrong with an authorization header. -/
inductive HeaderFault where
  | scheme
  | missing (name : String)
  | other (text : String)
  deriving DecidableEq, Repr

/-- What is wrong with a value that is to be signed. -/
inductive ObjectFault where
  | notObject
  | signatures
  | signaturesOf (server : String)
  | other (text : String)
  deriving DecidableEq, Repr

/-- Why the request to a server brought no answer or a refusal. -/
inductive RequestFault where
  | unsent (url : String)
  | status (code : Nat) (url : String)
  | other (text : String)
  deriving DecidableEq, Repr

/-- What is wrong with the answer of a server. -/
inductive AnswerFault where
  | body
  | keyDocument
  | keyDocumentFor (server : String)
  | noKeys (server : String)
  | acknowledged (sequence last : Int)
  | other (text : String)
  deriving DecidableEq, Repr

/-- What is wrong with a text that is to be a URL. -/
inductive UrlFault where
  | noBase
  | other (text : String)
  deriving DecidableEq, Repr

/-- Failures between servers. -/
inductive FederationError where
  | keyNotFound (keyId : String)
  | keyLoad (fault : KeyFault)
  | currentKeyInUse (keyId : String)
  | malformedHeader (fault : HeaderFault)
  | missingSignature (server : String)
  | invalidSignature
  | discovery (server : String) (text : String)
  | request (server : String) (fault : RequestFault)
  | answer (server : String) (fault : AnswerFault)
  | serialisation (text : String)
  | url (fault : UrlFault)
  | storage (error : ServiceError)
  | object (fault : ObjectFault)
  deriving DecidableEq, Repr

/-- The wording of a fault of a signing key. -/
def KeyFault.message : KeyFault → String
  | .seedLength => "seed must be exactly 32 bytes"
  | .seedEncoding => "seed is not valid base64"
  | .form => "expected 'ed25519 <version> <seed>' or a base64 seed"
  | .version text => s!"invalid key version '{text}'"
  | .noCurrent => "no current signing key is stored"
  | .other text => text

/-- The wording of a fault of a header. -/
def HeaderFault.message : HeaderFault → String
  | .scheme => "must start with 'X-Matrix '"
  | .missing name => s!"missing '{name}'"
  | .other text => text

/-- The wording of a fault of a value that is to be signed. -/
def ObjectFault.message : ObjectFault → String
  | .notObject => "signed value must be a JSON object"
  | .signatures => "'signatures' must be an object"
  | .signaturesOf server => s!"signatures of '{server}' must be an object"
  | .other text => text

/-- The wording of a failed request. -/
def RequestFault.message : RequestFault → String
  | .unsent url => s!"error sending request for url ({url})"
  | .status code url =>
    let side := if code < 500 then "client" else "server"
    s!"HTTP status {side} error ({code}) for url ({url})"
  | .other text => text

/-- The wording of a fault of an answer. -/
def AnswerFault.message : AnswerFault → String
  | .body => "error decoding response body"
  | .keyDocument => "not a key document"
  | .keyDocumentFor server => s!"key document is for '{server}'"
  | .noKeys server => s!"no keys for {server}"
  | .acknowledged sequence last => s!"acknowledged {sequence} but batch ended at {last}"
  | .other text => text

/-- The wording of a fault of a URL. -/
def UrlFault.message : UrlFault → String
  | .noBase => "relative URL without a base"
  | .other text => text

namespace FederationError

/-- The wording of a failure. -/
def message : FederationError → String
  | .keyNotFound keyId => s!"No signing key found for key ID '{keyId}'"
  | .keyLoad fault => "Failed to load signing key: " ++ fault.message
  | .currentKeyInUse keyId => s!"Refusing to prune '{keyId}': it is the current signing key"
  | .malformedHeader fault => "Malformed Authorization header: " ++ fault.message
  | .missingSignature server => s!"No signature from '{server}' on signed object"
  | .invalidSignature => "Signature verification failed"
  | .discovery server text => s!"Failed to resolve server '{server}': {text}"
  | .request server fault => s!"HTTP error communicating with remote server '{server}': " ++ fault.message
  | .answer server fault => s!"Remote server '{server}' returned an unexpected response: " ++ fault.message
  | .serialisation text => "Serialisation error: " ++ text
  | .url fault => "URL parse error: " ++ fault.message
  | .storage error => error.message
  | .object fault => fault.message

/-- Whether a later attempt may succeed. -/
def isTransient : FederationError → Bool
  | .discovery .. | .request .. | .answer .. => true
  | .storage error => error.isTransient
  | _ => false

/-- The failure of the service that this one causes. -/
def toServiceError (e : FederationError) : ServiceError :=
  match e with
  | .storage error => error
  | .object fault => .internal fault.message
  | e => if e.isTransient then .transient e.message else .signing e.message

end FederationError

end IdentityServer
