import IdentityServer.Configuration.Settings
import IdentityServer.Federation.Client
import IdentityServer.Service.Schedule

/-!
# Settings of a running service

What a running service and its client take from the settings.
-/

namespace IdentityServer.Settings

/-- The milliseconds of a duration text; none if it has no such form, which checked settings do not hold. -/
def millis? (text : String) : Option Int64 :=
  match millis text with
  | .ok ms => ms
  | .error _ => none

/-- What a running service takes from the settings. -/
def service (s : Settings) : ServiceSettings where
  serverName := s.serverName
  lifetime := millis? s.lifetime
  deleteOnDelivery := s.deleteOnDelivery
  validity := millis? s.validity
  batchLimit := s.batchLimit.toNat

/-- How long the chores of a running service wait. Retry passes are at least a second apart. -/
def timing (s : Settings) : Timing where
  retryInterval := max 1 s.retryIntervalSeconds.toNat * 1000
  pollInterval := s.pollIntervalSeconds.toNat * 1000
  backoff := s.backoff

/-- What the client of a running service takes from the settings. -/
def client (s : Settings) : Client where
  serverName := s.serverName
  keyResolution := s.keyResolution
  notaryServer := s.notaryServer

end IdentityServer.Settings
