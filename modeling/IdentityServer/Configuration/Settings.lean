import IdentityServer.Duration
import IdentityServer.Identifier.Redaction
import IdentityServer.Replication.Backoff
import IdentityServer.Replication.Peer

/-!
# Settings

What an operator can set, and what is refused before anything starts: durations that are none, negative
durations, a notary policy without a notary, and batches without records.
-/

namespace IdentityServer

/-- Where keys of other servers are asked for. -/
inductive KeyResolution where
  /-- At the server that owns them. -/
  | direct
  /-- At a notary that this server trusts. -/
  | notary
  deriving DecidableEq, Repr

/-- How log lines are written. -/
inductive LogFormat where
  | pretty
  | json
  deriving DecidableEq, Repr

/-- The settings of redaction. The counts of hidden characters are an older name of the counts of shown
    ones. -/
structure RedactionSettings where
  usernameReveal : Option UInt64 := none
  domainReveal : Option UInt64 := none
  usernameObfuscate : Option UInt64 := none
  domainObfuscate : Option UInt64 := none
  usernameSeparator : Option String := none
  deriving DecidableEq, Repr

/-- The number of characters shown when nothing is set. -/
def RedactionSettings.defaultReveal : Nat := 3

/-- The policy that the settings ask for; an older name counts only where the newer one is not set. -/
def RedactionSettings.policy (s : RedactionSettings) : RedactionPolicy where
  usernameReveal := ((s.usernameReveal <|> s.usernameObfuscate).map (·.toNat)).getD defaultReveal
  domainReveal := ((s.domainReveal <|> s.domainObfuscate).map (·.toNat)).getD defaultReveal
  separator := s.usernameSeparator

/-- Everything that can be set. -/
structure Settings where
  serverName : String
  databaseUrl : String
  maxConnections : UInt32
  /-- The signing key to import on the first run. -/
  signingKey : Option String
  /-- How long a binding stays valid, as a duration text. -/
  lifetime : String
  /-- Whether an invite is deleted once it is delivered, or kept and marked. -/
  deleteOnDelivery : Bool
  /-- How long an invite can be delivered, as a duration text. -/
  validity : String
  retryIntervalSeconds : UInt64
  keyResolution : KeyResolution
  notaryServer : Option String
  requestTimeoutSeconds : UInt64
  batchLimit : UInt32
  pollIntervalSeconds : UInt64
  backoffBaseMillis : UInt64
  backoffLongestMillis : UInt64
  peers : List Peer
  redaction : RedactionSettings
  logFilter : String
  logFormat : LogFormat
  deriving DecidableEq, Repr

/-- Why settings are refused. -/
inductive SettingsFault where
  /-- The sources cannot be read, or a value has the wrong form. -/
  | unreadable
  /-- A name in a file is neither a text nor an integer. -/
  | strangeName
  | duration (fault : Duration.Fault)
  | negative (key : String)
  | notaryMissing
  | batchLimit
  deriving DecidableEq, Repr

/-- The wording of a refusal, if it has one of its own. -/
def SettingsFault.message? : SettingsFault → Option String
  | .unreadable | .strangeName => none
  | .duration fault => some fault.message
  | .negative key => some (key ++ " must not be negative")
  | .notaryMissing => some "federation.key_resolution = \"notary\" requires federation.notary_server"
  | .batchLimit => some "replication.batch_limit must be positive"

namespace Settings

/-- A duration in milliseconds. -/
def millis (text : String) : Except SettingsFault (Option Int64) :=
  match Duration.parse text with
  | .ok ms => .ok ms
  | .error fault => .error (.duration fault)

/-- Refuses a negative duration. -/
def refuseNegative (key : String) : Option Int64 → Except SettingsFault Unit
  | some ms => if ms < 0 then .error (.negative key) else .ok ()
  | none => .ok ()

/-- Refuses settings that would only fail once they are used. Both durations are read before either is
    looked at. -/
def check (s : Settings) : Except SettingsFault Unit := do
  let lifetime ← millis s.lifetime
  let validity ← millis s.validity
  refuseNegative "associations.lifetime" lifetime
  refuseNegative "invites.validity_period" validity
  if s.keyResolution = .notary ∧ s.notaryServer = none then throw .notaryMissing
  if s.batchLimit = 0 then throw .batchLimit

/-- The backoff of pushes. -/
def backoff (s : Settings) : Backoff :=
  ⟨.ofMillis s.backoffBaseMillis.toNat, .ofMillis s.backoffLongestMillis.toNat⟩

end Settings

end IdentityServer
