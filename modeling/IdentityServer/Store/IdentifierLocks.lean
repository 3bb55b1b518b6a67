import IdentityServer.Identifier.Medium

/-!
# Locks of identifiers

One mutex for each identifier, so that changes of the same identifier exclude each other while different
identifiers never wait for one another. The table finds the mutex of an identifier only as long as somebody
holds it or waits for it; entries without such a mutex are left where they are until the table has grown
large, and a fresh mutex then takes their place or they are swept out.
-/

namespace IdentityServer

/-- A request for a mutex, under the name of the one who asks. -/
structure LockRequest where
  name : String
  mutex : Nat
  deriving DecidableEq, Repr

/-- The table of mutexes, who holds them and who waits for them, the longest waiting first. -/
structure IdentifierLocks where
  entries : List (Identifier × Nat) := []
  held : List LockRequest := []
  waiting : List LockRequest := []
  /-- The number of the next fresh mutex. -/
  next : Nat := 0
  deriving DecidableEq, Repr

namespace IdentifierLocks

/-- A table with more entries than this is swept before it is used. -/
def sweepThreshold : Nat := 1024

/-- Whether somebody holds a mutex or waits for it. -/
def isAlive (locks : IdentifierLocks) (mutex : Nat) : Bool :=
  locks.held.any (·.mutex == mutex) || locks.waiting.any (·.mutex == mutex)

/-- Whether somebody holds a mutex. -/
def isHeld (locks : IdentifierLocks) (mutex : Nat) : Bool :=
  locks.held.any (·.mutex == mutex)

/-- A large table without the entries whose mutex is not alive. -/
def sweep (locks : IdentifierLocks) : IdentifierLocks :=
  if sweepThreshold < locks.entries.length then
    { locks with entries := locks.entries.filter fun entry => locks.isAlive entry.2 }
  else locks

/-- The mutex that the table has for an identifier, if it is alive. -/
def mutexOf? (locks : IdentifierLocks) (identifier : Identifier) : Option Nat :=
  match locks.entries.find? (·.1 == identifier) with
  | some entry => if locks.isAlive entry.2 then some entry.2 else none
  | none => none

/-- Puts a request for an identifier behind all others. A mutex that is not alive is replaced by a fresh
    one. -/
def request (locks : IdentifierLocks) (name : String) (identifier : Identifier) : IdentifierLocks :=
  let locks := locks.sweep
  match locks.mutexOf? identifier with
  | some mutex => { locks with waiting := locks.waiting ++ [⟨name, mutex⟩] }
  | none =>
    { locks with
      entries := (identifier, locks.next) :: locks.entries.filter (·.1 != identifier)
      waiting := locks.waiting ++ [⟨name, locks.next⟩]
      next := locks.next + 1 }

/-- Gives a mutex that nobody holds to the request that waits longest for it. -/
def grant (locks : IdentifierLocks) (mutex : Nat) : IdentifierLocks :=
  if locks.isHeld mutex then locks
  else
    match locks.waiting.find? (·.mutex == mutex) with
    | some r => { locks with held := r :: locks.held, waiting := locks.waiting.erase r }
    | none => locks

/-- Gives every mutex that nobody holds to the request that waits longest for it. -/
def settle (locks : IdentifierLocks) : IdentifierLocks :=
  locks.waiting.foldl (fun locks r => locks.grant r.mutex) locks

/-- Gives back what was granted under a name; nothing happens if that is nothing. -/
def release (locks : IdentifierLocks) (name : String) : IdentifierLocks :=
  { locks with held := locks.held.filter (·.name != name) }

/-- Takes a waiting request back; what was granted stays. -/
def abandon (locks : IdentifierLocks) (name : String) : IdentifierLocks :=
  { locks with waiting := locks.waiting.filter (·.name != name) }

end IdentifierLocks

end IdentityServer
