import IdentityServer.Toml.Basic

/-!
# Tables under construction

A document names the places of its tables one after the other, and a table may be named once. What stands
at a name is a closed value, a table with how it came to be, or the tables of an array of tables; from this
it follows which later lines may add to it.
-/

namespace IdentityServer.Toml

/-- How a table came to be. -/
inductive Origin where
  /-- By a header of its own. -/
  | header
  /-- On the way to the table of a header. -/
  | implied
  /-- By a key of several parts. -/
  | dotted
  deriving DecidableEq, Repr

/-- What stands at a name. -/
inductive Node where
  | value (value : Value)
  | table (origin : Origin) (entries : List (String × Node))
  /-- The tables of an array of tables, the last one first. -/
  | tables (elements : List (List (String × Node)))

/-- The entries of a table in the order in which their names first occur. -/
abbrev Entries := List (String × Node)

namespace Entries

/-- The entries with this node at a name: in its place, or behind the others if there is none. -/
def put (name : String) (node : Node) : Entries → Entries
  | [] => [(name, node)]
  | (k, old) :: rest => if k = name then (name, node) :: rest else (k, old) :: put name node rest

/-- Puts a value at a key within a table. `reached` says how the table was reached: not at all, or through
    the first parts of the key and with this origin, if it has one. Keys of several parts add to tables that
    such keys made, and pass through tables without a header of their own. -/
def insertAt : Option Origin → Bool → List String → Value → Entries → Option Entries
  | _, _, [], _, _ => none
  | origin, passed, [name], value, entries =>
    if passed && origin != some .dotted then none
    else if (Fields.get? name entries).isSome then none
    else some (put name (.value value) entries)
  | _, _, name :: rest, value, entries =>
    match Fields.get? name entries with
    | none =>
      (insertAt (some .dotted) true rest value []).map fun sub =>
        put name (.table .dotted sub) entries
    | some (.table .header _) => none
    | some (.table origin sub) =>
      (insertAt (some origin) true rest value sub).map fun sub => put name (.table origin sub) entries
    | some (.tables (last :: earlier)) =>
      (insertAt none true rest value last).map fun last =>
        put name (.tables (last :: earlier)) entries
    | some _ => none

/-- Puts a value at a key of the table itself. -/
def insert (key : List String) (value : Value) (entries : Entries) : Option Entries :=
  insertAt none false key value entries

/-- Changes the table at a path of headers; of an array of tables it is the last one. Tables on the way
    that are missing are made. -/
def within : List String → (Entries → Option Entries) → Entries → Option Entries
  | [], change, entries => change entries
  | name :: rest, change, entries =>
    match Fields.get? name entries with
    | none => (within rest change []).map fun sub => put name (.table .implied sub) entries
    | some (.table origin sub) =>
      (within rest change sub).map fun sub => put name (.table origin sub) entries
    | some (.tables (last :: earlier)) =>
      (within rest change last).map fun last => put name (.tables (last :: earlier)) entries
    | some _ => none

/-- Makes the table of a header, which may have been implied but not made before. Its name counts from
    here on. -/
def openTable (name : String) (entries : Entries) : Option Entries :=
  match Fields.get? name entries with
  | none => some (put name (.table .header []) entries)
  | some (.table .implied sub) => some (put name (.table .header sub) (Fields.erase name entries))
  | some _ => none

/-- Adds a table to an array of tables. -/
def openElement (name : String) (entries : Entries) : Option Entries :=
  match Fields.get? name entries with
  | none => some (put name (.tables [[]]) entries)
  | some (.tables elements) => some (put name (.tables ([] :: elements)) entries)
  | some _ => none

/-- Opens the table at a path of headers. -/
def openAt (openLast : String → Entries → Option Entries) : List String → Entries → Option Entries
  | path, entries => path.getLast?.bind fun name => within path.dropLast (openLast name) entries

end Entries

mutual

/-- The value that a node is in the end. -/
def Node.toValue : Node → Value
  | .value value => value
  | .table _ entries => .table (entryValues entries)
  | .tables elements => .array (elementValues [] elements)

/-- The values of entries. -/
def entryValues : List (String × Node) → List (String × Value)
  | [] => []
  | (name, node) :: rest => (name, node.toValue) :: entryValues rest

/-- The tables of an array of tables, the first one first, before the tables `later`. -/
def elementValues (later : List Value) : List (List (String × Node)) → List Value
  | [] => later
  | entries :: rest => elementValues (.table (entryValues entries) :: later) rest

end

end IdentityServer.Toml
