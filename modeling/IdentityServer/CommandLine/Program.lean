import IdentityServer.Clock
import IdentityServer.CommandLine.Help
import IdentityServer.Configuration.EnvironmentFile
import IdentityServer.Configuration.Sources
import IdentityServer.Signing.KeyRing
import IdentityServer.Store.DatabaseFile

/-!
# The program

A run of the program reads its arguments and its settings, opens the database, loads the signing keys and
does what it is asked to do. The files, the clock and the source of seeds are those of a host, so the same
program runs over real files and over files that are given.
-/

namespace IdentityServer

/-- What a run needs of its surroundings. -/
structure Host (m : Type → Type) where
  /-- The text of a file. -/
  read : String → m (Option String)
  /-- Writes a file, and tells whether it could be written. -/
  write : String → String → m Bool
  /-- Where the clock stands, in milliseconds. -/
  now : m Int64
  /-- A fresh seed of a signing key. -/
  seed : m Bytes

/-- What is there once a service can run. -/
structure Started where
  settings : Settings
  location : DatabaseLocation
  database : Database
  ring : KeyRing

/-- How a run goes on. -/
inductive Progress where
  /-- It ends with an exit code and an output. -/
  | ended (code : Nat) (output : String)
  /-- It ends with an exit code and a complaint. -/
  | failed (code : Nat) (complaint : String)
  /-- The service runs until it is interrupted. -/
  | running (started : Started)

namespace Program

/-- The exit code of a run that cannot do what it is asked to do. -/
def failureCode : Nat := 1

/-- The exit code of a run with arguments that it does not take. -/
def misuseCode : Nat := 2

/-- The exit code of a run that is broken off by what it finds: in the settings file, among the versions of
    the keys, or on the clock. -/
def breakdownCode : Nat := 101

/-- The variable that names the settings file. -/
def settingsVariable : String := "SIGIL_CONFIG"

/-- The file that more variables are taken from. -/
def environmentFile : String := ".env"

/-- Why a run fails: its exit code and a complaint. -/
structure Failure where
  code : Nat
  complaint : String

/-- A part of a run, which may fail. -/
abbrev Task (m : Type → Type) (α : Type) := ExceptT Failure m α

variable {m : Type → Type} [Monad m]

/-- Fails with the usual exit code. -/
def fail {α : Type} (complaint : String) : Task m α :=
  throw ⟨failureCode, complaint⟩

/-- A value, or the complaint that there is none. -/
def orComplain {α : Type} (complaint : String) : Option α → Task m α
  | some a => pure a
  | none => fail complaint

/-- Breaks a run off if the clock cannot be read where it stands. -/
def requireReading (now : Int64) : Task m Unit :=
  if Clock.isReading now then pure () else throw ⟨breakdownCode, "the clock cannot be read"⟩

/-- A reading of the clock. -/
def readClock (host : Host m) : Task m Int64 := do
  let now ← liftM host.now
  requireReading now
  return now

/-- A value, or the complaint about a failure between servers. -/
def orFederationFailure {α : Type} : Except FederationError α → Task m α
  | .ok a => pure a
  | .error e => fail e.message

/-- A value, or the end of a run that cannot add a key. -/
def orRotationFailure {α : Type} : Except KeyRing.RotationFault α → Task m α
  | .ok a => pure a
  | .error (.failed e) => fail e.message
  | .error .overflow => throw ⟨breakdownCode, "there is no version for another key"⟩

/-- The variables of the environment and of the file beside the settings. -/
def allVariables (host : Host m) (given : Dictionary String) : Task m (Dictionary String) := do
  match ← host.read environmentFile with
  | some file => return EnvironmentFile.apply given file
  | none => return given

/-- The settings of a run. -/
def settings (host : Host m) (name : Option String) (given : Dictionary String) : Task m Settings := do
  match ← Settings.load (fun file => liftM (host.read file)) name (← allVariables host given) with
  | .ok settings => return settings
  | .error .strangeName => throw ⟨breakdownCode, "a name in the settings is no text"⟩
  | .error fault => fail (fault.message?.getD "the settings cannot be read")

/-- Writes a database to where it is kept. -/
def write (host : Host m) (location : DatabaseLocation) (db : Database) : Task m Unit := do
  match location with
  | .memory _ => return
  | .file path _ layer _ =>
    let file : DatabaseFile := ⟨layer = .shared, db⟩
    let written ← if location.isWritable then liftM (host.write path file.text) else pure false
    if !written then fail "the database cannot be written"

/-- Opens the database that the settings name, which makes its file if there is none. A pool without
    connections never opens it, and one of several connections needs a database that they share. -/
def openDatabase (host : Host m) (settings : Settings) : Task m (DatabaseLocation × Database) := do
  let location ← orComplain "the database URL cannot be read" (DatabaseLocation.ofUrl settings.databaseUrl)
  if settings.maxConnections = 0 then fail "there are no connections to the database"
  match location with
  | .memory isShared =>
    if isShared ∨ settings.maxConnections = 1 then return (location, {})
    fail "every connection has a database of its own"
  | .file path access layer neverChanges =>
    let found ← liftM (host.read path)
    let file ← orComplain "the database cannot be opened" (DatabaseFile.opened? access layer neverChanges found)
    if location.isWritable && found ≠ some file.text then write host location file.database
    return (location, file.database)

/-- Writes a database to where it is kept, unless it is as it was before. -/
def save (host : Host m) (location : DatabaseLocation) (before db : Database) : Task m Unit := do
  if before ≠ db then write host location db

variable [SignatureScheme]

/-- Loads the signing keys; the first run makes or imports the first one. -/
def start (host : Host m) (settings : Settings) : Task m Started := do
  let (location, database) ← openDatabase host settings
  let fresh ← if KeyRing.needsFresh database.keys settings.signingKey then liftM host.seed else pure []
  let now ← liftM host.now
  let (ring, keys) ← orFederationFailure (KeyRing.load settings.signingKey fresh now database.keys)
  -- Only the row of a first key has the time in it.
  if database.keys.rows.isEmpty then requireReading now
  save host location database { database with keys }
  return { settings, location, database := { database with keys }, ring }

/-- Makes a new signing key the current one, and shows its id. -/
def rotateKey (host : Host m) (s : Started) : Task m String := do
  let fresh ← liftM host.seed
  let made ← readClock host
  let retired ← readClock host
  let (ring, keys) ← orRotationFailure (s.ring.rotate fresh made retired s.database.keys)
  save host s.location s.database { s.database with keys }
  return ring.current.id ++ "\n"

omit [SignatureScheme] in
/-- Deletes a retired signing key. One that is not stored is no failure. -/
def pruneKey (host : Host m) (s : Started) (keyId : String) : Task m String := do
  let (_, _, keys) ← orFederationFailure (s.ring.prune keyId s.database.keys)
  save host s.location s.database { s.database with keys }
  return ""

/-- The key document as it is shown. -/
def keyDocument (host : Host m) (s : Started) : Task m String := do
  let document := s.ring.document s.settings.serverName (← readClock host)
  return (Json.obj document.shownFields).indented ++ "\n"

/-- Does what an invocation asks for. -/
def perform (host : Host m) (given : Dictionary String) (i : Invocation) : Task m Progress := do
  let started ← start host (← settings host i.settingsFile given)
  match i.command with
  | .run => return .running started
  | .rotateKey => return .ended 0 (← rotateKey host started)
  | .pruneKey keyId => return .ended 0 (← pruneKey host started keyId)
  | .keyDocument => return .ended 0 (← keyDocument host started)

/-- A run with these arguments and variables. -/
def launch (host : Host m) (given : Dictionary String) (arguments : List String) : m Progress := do
  let usualFile := given.get? settingsVariable
  match Arguments.invocation usualFile arguments with
  | .error (.help page) => return .ended 0 (page.text usualFile)
  | .error .version => return .ended 0 versionLine
  | .error .misuse => return .failed misuseCode ("Usage: " ++ programName ++ " " ++ HelpPage.program.usage)
  | .ok i =>
    match ← (perform host given i).run with
    | .ok progress => return progress
    | .error failure => return .failed failure.code failure.complaint

end Program

end IdentityServer
