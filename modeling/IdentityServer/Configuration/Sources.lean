import IdentityServer.Configuration.Environment
import IdentityServer.Configuration.Place
import IdentityServer.Configuration.Settings
import IdentityServer.Configuration.SettingsFile

/-!
# Sources of settings

Settings come from the defaults, then a file, then the environment, the later winning. They are read as a
whole and then checked.
-/

namespace IdentityServer

/-! ### What every setting takes -/

namespace Settings
open Setting

/-- The ways of asking for keys, by name. -/
def keyResolutions : List (String × KeyResolution) :=
  [("direct", .direct), ("notary", .notary)]

/-- The ways of writing log lines, by name. -/
def logFormats : List (String × LogFormat) :=
  [("pretty", .pretty), ("json", .json)]

/-- A peer that a group stands for. -/
def peerOf? : Setting → Option Peer := group? 3 ["name", "endpoint", "verify_key"] fun s => do
  return {
    name := ← s.required text? "name"
    endpoint := ← s.required text? "endpoint"
    verifyKey := ← s.required text? "verify_key" }

/-- The names of the settings of redaction. -/
def redactionNames : List String :=
  ["username_reveal_characters", "domain_reveal_characters", "username_obfuscate_characters",
   "domain_obfuscate_characters", "username_separator"]

/-- The settings of redaction that a group stands for. -/
def redactionOf? : Setting → Option RedactionSettings := group? 5 redactionNames fun s => do
  return {
    usernameReveal := ← s.optional word? "username_reveal_characters"
    domainReveal := ← s.optional word? "domain_reveal_characters"
    usernameObfuscate := ← s.optional word? "username_obfuscate_characters"
    domainObfuscate := ← s.optional word? "domain_obfuscate_characters"
    usernameSeparator := ← s.optional text? "username_separator" }

/-- The settings that a group of groups stands for. -/
def ofSetting? (s : Setting) : Option Settings := do
  let group (name : String) (needed : Nat) (names : List String) : Option Setting :=
    s.required (group? needed names some) name
  let server ← group "server" 1 ["name"]
  let database ← group "database" 2 ["url", "max_connections"]
  let associations ← group "associations" 1 ["lifetime"]
  let invites ← group "invites" 3 ["delete_tokens_on_bind", "validity_period", "retry_interval_secs"]
  let federation ← group "federation" 3 ["key_resolution", "notary_server", "request_timeout_secs"]
  let replication ← group "replication" 4
    ["batch_limit", "poll_interval_secs", "backoff_base_ms", "backoff_max_ms", "peers"]
  let log ← group "log" 2 ["filter", "format"]
  let key := group? 1 ["ed25519_signing_key"] (optional text? "ed25519_signing_key")
  return {
    serverName := ← server.required text? "name"
    databaseUrl := ← database.required text? "url"
    maxConnections := ← database.required shortWord? "max_connections"
    signingKey := ← s.orElse none key "crypto"
    lifetime := ← associations.required text? "lifetime"
    deleteOnDelivery := ← invites.required flag? "delete_tokens_on_bind"
    validity := ← invites.required text? "validity_period"
    retryIntervalSeconds := ← invites.required word? "retry_interval_secs"
    keyResolution := ← federation.required (choice? keyResolutions) "key_resolution"
    notaryServer := ← federation.optional text? "notary_server"
    requestTimeoutSeconds := ← federation.required word? "request_timeout_secs"
    batchLimit := ← replication.required shortWord? "batch_limit"
    pollIntervalSeconds := ← replication.required word? "poll_interval_secs"
    backoffBaseMillis := ← replication.required word? "backoff_base_ms"
    backoffLongestMillis := ← replication.required word? "backoff_max_ms"
    peers := ← replication.orElse [] (fun list => list.items?.bind (·.mapM peerOf?)) "peers"
    redaction := ← s.orElse {} redactionOf? "redaction"
    logFilter := ← log.required text? "filter"
    logFormat := ← log.required (choice? logFormats) "format" }

/-- What is set when no other source says anything. -/
def defaults : List (String × Setting) :=
  [("server.name", .text "localhost"),
   ("database.url", .text "sqlite://sigil.db"),
   ("database.max_connections", .int 8),
   ("associations.lifetime", .text ""),
   ("invites.delete_tokens_on_bind", .flag true),
   ("invites.validity_period", .text ""),
   ("invites.retry_interval_secs", .int 300),
   ("federation.key_resolution", .text "direct"),
   ("federation.request_timeout_secs", .int 30),
   ("replication.batch_limit", .int 500),
   ("replication.poll_interval_secs", .int 30),
   ("replication.backoff_base_ms", .int 1000),
   ("replication.backoff_max_ms", .int 300000),
   ("log.filter", .text "sigil=info"),
   ("log.format", .text "pretty")]

/-- The settings of a file and the environment. -/
def ofSources (file : Fields Setting) (given : Dictionary String) :
    Except SettingsFault Settings := do
  let sources := defaults ++ file ++ Environment.settings given
  match ofSetting? (Setting.overPlaces sources (.group [])) with
  | none => throw .unreadable
  | some settings =>
    settings.check
    return settings

end Settings

/-- The settings of the file of a name and of the environment. -/
def Settings.load {m : Type → Type} [Monad m] (read : String → m (Option String)) (name : Option String)
    (given : Dictionary String) : m (Except SettingsFault Settings) := do
  return (← SettingsFile.entries read name).bind fun file => Settings.ofSources file given

end IdentityServer
