import IdentityServer.Files.Path
import IdentityServer.Store.FileName

/-!
# Where a database is kept

A database URL names a file, relative to the directory of the program unless it is absolute, or says that
the database lasts only as long as the program. What follows a question mark says how it is opened; the
name may be a URI with options of its own, which allow no more than those of the URL.
-/

namespace IdentityServer

/-! ### Ways to open -/

/-- What may be done with a file. -/
inductive FileAccess where
  | read
  | change
  /-- Changed, and made if it is missing. -/
  | create
  deriving DecidableEq, Repr

/-- How far an access goes. -/
def FileAccess.rank : FileAccess → Nat
  | .read => 1
  | .change => 2
  | .create => 6

/-- The accesses by the names that options have for them. -/
def FileAccess.names : List (String × FileAccess) :=
  [("ro", .read), ("rw", .change), ("rwc", .create)]

/-- How files are reached. -/
inductive FileLayer where
  /-- With a log beside a file that all of its users share. -/
  | shared
  /-- Without a shared log. -/
  | plain
  /-- In memory under the names of files. -/
  | memory
  deriving DecidableEq, Repr

/-- The layers by their names. -/
def FileLayer.names : List (String × FileLayer) :=
  [("unix", .shared), ("unix-excl", .shared), ("unix-none", .plain), ("unix-dotfile", .plain),
   ("memdb", .memory)]

/-- How a database is opened. -/
structure OpenMode where
  /-- What may be done with its file; nothing is said if it is kept in memory by an option of its name. -/
  access : Option FileAccess := some .create
  inMemory : Bool := false
  /-- Whether all connections of a run use what one of them has in memory. -/
  isShared : Bool := false
  /-- The name of the layer. -/
  layer : Option String := none
  deriving DecidableEq, Repr

/-- Where a database is kept. -/
inductive DatabaseLocation where
  /-- Nowhere but in the running program, where each connection has its own one unless it is shared. -/
  | memory (isShared : Bool)
  /-- In a file. One that never changes is read as it stands, without its log. -/
  | file (path : String) (access : FileAccess) (layer : FileLayer) (neverChanges : Bool)
  deriving DecidableEq, Repr

/-! ### Options of a URL -/

namespace DatabaseUrl
open Text

/-- What a URL says about opening beside the name. -/
structure Options extends OpenMode where
  neverChanges : Bool := false

/-- The text without the occurrences of `start` at its start, up to a number of them. -/
def dropStarts (start : List Char) : Nat → List Char → List Char
  | 0, s => s
  | n + 1, s =>
    match dropStart? start s with
    | some rest => dropStarts start n rest
    | none => s

/-- The name and the value of an option; a plus sign stands for a blank. -/
def option? (s : List Char) : Option (String × String) := do
  let (name, value) := (cut '=' s).getD (s, [])
  let spaced (part : List Char) := Percent.decode? (part.map fun c => if c = '+' then ' ' else c)
  return (← spaced name, ← spaced value)

/-- The options after one more; nothing if there is no such option. -/
def Options.with? (o : Options) : String × String → Option Options
  | ("mode", "memory") => some { o with inMemory := true, isShared := true }
  | ("mode", "ro") => some { o with access := some .read }
  | ("mode", "rw") | ("mode", "rwc") => some o
  | ("cache", "shared") => some { o with isShared := true }
  | ("cache", "private") => some { o with isShared := false }
  | ("immutable", "true") | ("immutable", "1") => some { o with neverChanges := true }
  | ("immutable", "false") | ("immutable", "0") => some { o with neverChanges := false }
  | ("vfs", layer) => some { o with layer := some layer }
  | _ => none

/-- The options that a name has because of those of the URL. -/
def Options.named (o : Options) : List (String × String) :=
  (if o.neverChanges then [("immutable", "true")] else []) ++ o.layer.toList.map fun layer => ("vfs", layer)

/-- The name that stands for a database in memory. -/
def memoryName : String := ":memory:"

/-- The URI of the database in memory that a URL names. -/
def memoryUri : String := "file:memory"

/-- The name of a database and how it is opened, as a URL says it. -/
def read? (url : String) : Option (FileName × OpenMode) := do
  let s := dropStarts "sqlite://".toList url.length url.toList
  let s := dropStarts "sqlite:".toList url.length s
  let (name, options) := (cut '?' s).getD (s, [])
  let isMemory := String.ofList name == memoryName
  let options ← ((splitAt '&' options).filter fun s => !s.isEmpty).mapM option?
  let options ← options.foldlM Options.with? { inMemory := isMemory, isShared := isMemory }
  let name ← if isMemory then some memoryUri else Percent.decode? name
  if options.named.isEmpty then return (← FileName.ofText? name, options.toOpenMode)
  else return (FileName.ofOptions name options.named, options.toOpenMode)

end DatabaseUrl

/-! ### Options of a name -/

namespace OpenMode

/-- The mode after an option of a name. An access has to go no further than the one before; other options
    say nothing about opening. -/
def with? (m : OpenMode) : String × String → Option OpenMode
  | ("vfs", layer) => some { m with layer := some layer }
  | ("cache", "shared") => some { m with isShared := true }
  | ("cache", "private") => some { m with isShared := false }
  | ("cache", _) => none
  | ("mode", "memory") => some { m with access := none, inMemory := true }
  | ("mode", name) => do
    let access ← FileAccess.names.lookup name
    let limit := (m.access.map FileAccess.rank).getD 0
    if access.rank ≤ limit ∨ m.inMemory then some { m with access := some access, inMemory := false }
    else none
  | _ => some m

end OpenMode

namespace DatabaseLocation

/-- The number of bytes of the end of the name of a journal, which stands beside a file. -/
def journalEnding : Nat := 8

/-- The path that a file has after the names that lead back; nothing if a name is too long for it or for
    its journal. -/
def filePath? (path : String) : Option String :=
  let path := path.toList
  let isLong (name : List Char) := Path.longestName < Path.byteLength name
  match (Path.directElements path).getLast? with
  | none => none
  | some name =>
    if name == Path.parent || Path.longestName < Path.byteLength name + journalEnding
      || (Path.elements path).any isLong then none
    else some (String.ofList (Path.direct path))

/-- Where a database of a name is kept. A database in memory is new in every run and has to be written. -/
def ofName? (name : FileName) (mode : OpenMode) : Option DatabaseLocation := do
  let mode ← name.options.foldlM OpenMode.with? mode
  let layer ← FileLayer.names.lookup (mode.layer.getD "unix")
  let reads := mode.access = some .read
  if name.path.isEmpty then
    if reads then none else some (.memory false)
  else if mode.inMemory ∨ name.path = DatabaseUrl.memoryName then
    if reads then none else some (.memory (name.isUri && mode.isShared))
  else if layer = .memory then
    if reads ∨ name.grants "immutable" then none
    else some (.memory (mode.isShared || Path.isAbsolute name.path.toList))
  else
    let layer := if name.grants "nolock" then .plain else layer
    return .file (← filePath? name.path) (mode.access.getD .change) layer (name.grants "immutable")

/-- The location that a URL names. -/
def ofUrl (url : String) : Option DatabaseLocation := do
  let (name, mode) ← DatabaseUrl.read? url
  ofName? name mode

end DatabaseLocation

end IdentityServer
