import IdentityServer.Federation.Http
import IdentityServer.Fields
import IdentityServer.Json.Answer
import IdentityServer.Text.Blank

/-!
# Discovery

Where a server is reached: under its own name if that has a port, else where the server delegates to, else
under its own name at the usual port. What was found is kept for a day.
-/

namespace IdentityServer

/-- Where a server is reached, and when that was found out. -/
structure Resolution where
  baseUrl : String
  resolvedAt : Nat
  deriving DecidableEq, Repr

/-- What has been found out, by server. -/
abbrev DiscoveryCache := Dictionary Resolution

namespace Discovery
variable {ω : Type}

/-- The usual port. -/
def defaultPort : Nat := 8448

/-- How long what was found is kept, in seconds. -/
def lifetime : Nat := 24 * 60 * 60

/-- Whether a server name says its port. More than one colon without brackets is an address without one. -/
def hasPort (server : String) : Bool :=
  let s := server.toList
  if s.head? = some '[' then (Text.splitOn [']', ':'] s).length ≠ 1
  else s.count ':' = 1

/-- The base URL of a server name. -/
def baseUrlOf (server : String) : String :=
  if hasPort server then "https://" ++ server
  else "https://" ++ server ++ ":" ++ String.ofList (Text.showNat defaultPort)

/-- Whether a text can be a server name. -/
def isServerName (server : String) : Bool :=
  !server.isEmpty && !server.toList.contains '/'

/-- The server that the text of a delegation names. -/
def delegate? (body : String) : Option String := do
  let server := Text.trimText (← (← (← Json.Source.ofBody body).onlyField? "m.server").text?)
  if isServerName server then some server else none

/-- Where a server publishes whom it delegates to. -/
def wellKnownUrl (server : String) : String :=
  "https://" ++ server ++ "/.well-known/matrix/server"

/-- Finds out where a server is reached. -/
def lookup (net : Network ω) (server : String) : StateM ω String := do
  if hasPort server then return baseUrlOf server
  let outcome ← net.send (.get (wellKnownUrl server))
  return baseUrlOf ((outcome.successBody?.bind delegate?).getD server)

/-- Where a server is reached, if that was found out less than a day ago. -/
def cached? (cache : DiscoveryCache) (server : String) (uptime : Nat) : Option String :=
  match cache.get? server with
  | some r => if uptime - r.resolvedAt < lifetime then some r.baseUrl else none
  | none => none

/-- Where a server is reached. -/
def resolve (net : Network ω) (server : String) :
    ExceptT FederationError (StateM (DiscoveryCache × ω)) String := do
  if !isServerName server then throw (.discovery server "not a valid server name")
  let (cache, world) ← get
  match cached? cache server (net.uptime world) with
  | some baseUrl => return baseUrl
  | none =>
    let (baseUrl, world) := (lookup net server).run world
    set (cache.insert server ⟨baseUrl, net.uptime world⟩, world)
    return baseUrl

/-- Forgets what was found out about a server. -/
def invalidate (server : String) : StateM (DiscoveryCache × ω) Unit :=
  modify fun (cache, world) => (cache.erase server, world)

end Discovery

end IdentityServer
