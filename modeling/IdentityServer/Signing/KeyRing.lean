import IdentityServer.Federation.KeyDocument
import IdentityServer.Signing.SignedJson
import IdentityServer.Store.KeyTable

/-!
# The key ring

The keys that a running server signs and verifies with: the current one, all that are known, and when the
retired ones were retired. It is read from the table of keys, which gets its first key when it is empty: a
configured one, or a fresh one. Rotation adds a key at the next version; a retired key can be pruned, the
current one cannot.

A rotation reads the clock twice: when the row of the new key is made, and once it is stored, when the key
before it is retired. What is read from the table knows the first of the two only.
-/

namespace IdentityServer

/-- The keys of a running server. -/
structure KeyRing where
  current : KeyPair
  /-- All known keys, by key id. -/
  all : Dictionary KeyPair
  /-- When a key was retired, by key id. -/
  retiredAt : Dictionary Int64
  deriving DecidableEq

namespace KeyRing

/-- What has been read of the table: the keys, the current one, the times, and the retired key whose
    successor comes next. -/
structure Reading where
  current : Option KeyPair := none
  all : Dictionary KeyPair := .empty
  retiredAt : Dictionary Int64 := .empty
  awaiting : Option String := none

/-- Reads one row. A key was retired when its successor was made; rows of other algorithms are passed
    over. -/
def Reading.step (reading : Reading) (row : StoredKey) : Except KeyFault Reading := do
  if row.algorithm ≠ KeyPair.algorithm then return reading
  let key ← KeyPair.ofSeed row.version row.seed
  let retiredAt := match reading.awaiting with
    | some id => reading.retiredAt.insert id row.createdAt
    | none => reading.retiredAt
  return {
    current := if row.current then some key else reading.current
    all := reading.all.insert key.id key
    retiredAt
    awaiting := if row.current then none else some key.id }

/-- The ring of rows in ascending order of their versions. -/
def ofRows (rows : List StoredKey) : Except KeyFault KeyRing := do
  let reading ← rows.foldlM Reading.step {}
  match reading.current with
  | some current => return ⟨current, reading.all, reading.retiredAt⟩
  | none => throw .noCurrent

/-- Whether loading makes a fresh key: the table is empty and none is configured. -/
def needsFresh (table : KeyTable) (configured : Option String) : Bool :=
  table.rows.isEmpty && configured.isNone

variable [SignatureScheme]

/-- The row of a key that becomes the current one. -/
def rowOf (key : KeyPair) (made : Int64) : StoredKey where
  version := key.version
  algorithm := KeyPair.algorithm
  seed := key.seed
  publicKey := key.publicKey
  createdAt := made
  current := true

/-- Adds a key to the table as the current one. -/
def persist (key : KeyPair) (made : Int64) (table : KeyTable) : Except FederationError KeyTable :=
  match (KeyTable.insertCurrent (rowOf key made)).execute table with
  | .ok (_, table) => .ok table
  | .error e => .error (.storage e)

/-- A failure to load a key, among the failures between servers. -/
def loading {α : Type} : Except KeyFault α → Except FederationError α
  | .ok a => .ok a
  | .error fault => .error (.keyLoad fault)

/-- The ring of the table. An empty table gets its first key: the configured one, or one with the seed
    `fresh` and version 0. A configured key has to be well formed even when it is not needed. -/
def load (configured : Option String) (fresh : Bytes) (made : Int64) (table : KeyTable) :
    Except FederationError (KeyRing × KeyTable) := do
  let table ←
    if table.rows.isEmpty then do
      let key ← loading <| match configured with
        | some text => KeyPair.ofConfig text
        | none => KeyPair.ofSeed 0 fresh
      persist key made table
    else do
      if let some text := configured then
        let _ ← loading (KeyPair.ofConfig text)
      pure table
  return (← loading (ofRows table.rows), table)

/-- Why no key was added. -/
inductive RotationFault where
  | failed (failure : FederationError)
  /-- There is no version after the greatest one. This is no answer: whatever runs is broken off. -/
  | overflow

/-- The version after the greatest one that is stored, or 0 in an empty table. The versions are words, so
    the greatest word has none after it. -/
def nextVersion? (table : KeyTable) : Option Int64 :=
  match table.greatestVersion? with
  | some version => if version = Int64.maxValue then none else some (version + 1)
  | none => some 0

/-- Makes a key with the seed `fresh` the current one, at the next version. -/
def rotate (ring : KeyRing) (fresh : Bytes) (made retired : Int64) (table : KeyTable) :
    Except RotationFault (KeyRing × KeyTable) :=
  match nextVersion? table with
  | none => .error .overflow
  | some version => do
    let key ← (loading (KeyPair.ofSeed version fresh)).mapError .failed
    let table ← (persist key made table).mapError .failed
    return ({
      current := key
      all := ring.all.insert key.id key
      retiredAt := ring.retiredAt.insert ring.current.id retired }, table)

omit [SignatureScheme] in
/-- Forgets a retired key, and tells whether it was stored. A key id that the ring does not know changes
    nothing, and the current key is refused. -/
def prune (ring : KeyRing) (keyId : String) (table : KeyTable) :
    Except FederationError (Bool × KeyRing × KeyTable) :=
  if ring.current.id = keyId then .error (.currentKeyInUse keyId)
  else
    match ring.all.get? keyId with
    | none => .ok (false, ring, table)
    | some key =>
      let (removed, table) := table.deleteRetired key.version
      .ok (removed, { ring with all := ring.all.erase keyId, retiredAt := ring.retiredAt.erase keyId }, table)

/-- Whether a signature of a message is valid under the key of a key id. Unknown key ids never are. -/
def verify (ring : KeyRing) (message : Bytes) (signature keyId : String) : Bool :=
  match ring.all.get? keyId with
  | some key => verifySignature key.publicKey signature message
  | none => false

/-! ### The key document -/

/-- How long others may rely on a key document, in milliseconds. -/
def documentLifetime : Int64 := 24 * 60 * 60 * 1000

/-- What the document says of a retired key. -/
def retired (ring : KeyRing) (keyId : String) (key : KeyPair) : RetiredKey :=
  ⟨key.publicKey, (ring.retiredAt.get? keyId).getD 0⟩

/-- The key document without signatures. -/
def unsignedDocument (ring : KeyRing) (server : String) (now : Int64) : KeyDocument where
  server := server
  verifyKeys := .single ring.current.id ring.current.publicKey
  oldVerifyKeys := .ofList ((ring.all.erase ring.current.id).entries.map fun entry =>
    (entry.1, ring.retired entry.1 entry.2))
  validUntil := now + documentLifetime
  signatures := .empty

/-- The key document, signed with the current key. -/
def document (ring : KeyRing) (server : String) (now : Int64) : KeyDocument :=
  let unsigned := ring.unsignedDocument server now
  let signature := ring.current.sign (utf8 unsigned.toJson.canonical)
  { unsigned with signatures := .single server (.single ring.current.id signature) }

end KeyRing

end IdentityServer
