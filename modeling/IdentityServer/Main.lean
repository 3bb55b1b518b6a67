import IdentityServer.CommandLine.Program
import IdentityServer.Crypto.Ed25519
import IdentityServer.Service.Remote
import IdentityServer.Service.Settings
import Std.Time.DateTime.Timestamp

/-!
# The program on a machine

The host of a machine: its files, its clock, its source of randomness, and the variables of its
environment. A service runs until it is interrupted. There is no connection to other servers: every request
stays unsent, so deliveries and pushes are tried again later.
-/

namespace IdentityServer.Machine

instance : SignatureScheme := Ed25519.scheme

/-- The result of an action, or nothing if it fails. -/
def attempt {α : Type} (action : IO α) : IO (Option α) := do
  try return some (← action) catch _ => return none

/-- The text of a file. Bytes that encode no text stand for the characters with their numbers. -/
def readText (path : String) : IO String := do
  let bytes ← IO.FS.readBinFile path
  return (String.fromUTF8? bytes).getD (String.ofList (bytes.toList.map fun b => Char.ofNat b.toNat))

/-- The milliseconds since the start of 1970. -/
def clock : IO Int64 := do
  return .ofInt (← Std.Time.Timestamp.now).toMillisecondsSinceUnixEpoch.val

/-- The host of a machine. -/
def host : Host IO where
  read name := attempt (readText name)
  write name text := do return (← attempt (IO.FS.writeFile name text)).isSome
  now := clock
  seed := do return (← IO.getRandomBytes 32).toList

/-- The parts of a file between its zero bytes. -/
def zeroSplit (bytes : ByteArray) : List Bytes :=
  bytes.toList.splitOn 0

/-- A variable as the environment lists it. -/
def entry? (entry : Bytes) : Option (String × String) := do
  let (name, value) ← Text.cut '=' (← ofUtf8? entry).toList
  return (String.ofList name, String.ofList value)

/-- The variables of the environment. -/
def environment : IO (Dictionary String) := do
  let entries ← attempt (IO.FS.readBinFile "/proc/self/environ")
  return .ofList ((zeroSplit (entries.getD .empty)).filterMap entry?)

/-- The network of a machine without connections. The world is the uptime in seconds. -/
def network : Network Nat where
  send _ := pure .unsent
  uptime := id

/-- How long a running service sleeps at most, in milliseconds. -/
def longestRest : Nat := 1000

/-- Does the chores of a running service for ever, and saves what they change. -/
partial def serve (started : Started) (service : Service (Surroundings Nat)) (chores : List Appointment) :
    IO Unit := do
  let uptime ← IO.monoMsNow
  let now ← clock
  let draw ← IO.rand 0 UInt32.size
  let settings := started.settings
  let (keys, discovery, _) := service.world
  let current := { service with world := (keys, discovery, uptime / 1000) }
  let remote := settings.client.remote network
  let tick := Schedule.tick settings.service settings.timing remote now uptime draw chores
  let (chores, after) := tick.run current
  if let .error failure ← (Program.save host started.location service.database after.database).run then
    IO.eprintln failure.complaint
  IO.sleep (.ofNat (Schedule.rest uptime longestRest chores))
  serve started after chores

/-- Runs a service that has started. -/
def runService (started : Started) : IO Unit := do
  let (chores, wake) := Schedule.start started.settings.peers {}
  serve started ⟨started.database, started.ring, [], wake, (.empty, .empty, 0)⟩ chores

end IdentityServer.Machine

open IdentityServer in
/-- The program. -/
def main (arguments : List String) : IO UInt32 := do
  match ← Program.launch Machine.host (← Machine.environment) arguments with
  | .ended code output =>
    IO.print output
    return .ofNat code
  | .failed code complaint =>
    IO.eprintln complaint
    return .ofNat code
  | .running started =>
    Machine.runService started
    return 0
