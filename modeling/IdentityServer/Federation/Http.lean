import IdentityServer.Federation.Error
import IdentityServer.Federation.Url
import IdentityServer.Json.Basic

/-!
# Requests over the network

What is asked of the network and what comes back. The network itself is whatever answers requests in a
world that it may change; everything above it is a function of that.
-/

namespace IdentityServer

/-- A request. -/
structure HttpRequest where
  method : String
  url : String
  authorization : Option String
  body : Option Json

/-- What became of a request. -/
inductive HttpOutcome where
  /-- No answer came. -/
  | unsent
  | answered (status : Nat) (body : String)

/-- A network in a world of type `ω`. -/
structure Network (ω : Type) where
  /-- Sends a request and waits for its outcome. -/
  send : HttpRequest → StateM ω HttpOutcome
  /-- The seconds on a clock that never goes back. -/
  uptime : ω → Nat

namespace HttpRequest

/-- A request without a body or a signature. -/
def get (url : String) : HttpRequest :=
  ⟨"GET", url, none, none⟩

/-- A signed request that carries a value. -/
def post (url authorization : String) (body : Json) : HttpRequest :=
  ⟨"POST", url, some authorization, some body⟩

end HttpRequest

namespace HttpOutcome

/-- The body of an answer of `server` to a request for `url`, unless its status says that it failed. -/
def body (server url : String) : HttpOutcome → Except FederationError String
  | .unsent => .error (.request (Url.shownHost url) (.unsent url))
  | .answered status body =>
    if 400 ≤ status && status < 600 then .error (.request server (.status status url)) else .ok body

/-- The body of an answer whose status says that it succeeded. -/
def successBody? : HttpOutcome → Option String
  | .unsent => none
  | .answered status body => if 200 ≤ status && status < 300 then some body else none

end HttpOutcome

end IdentityServer
