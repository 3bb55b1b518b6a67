import IdentityServer.Configuration.Setting

/-!
# Places of settings

A source names the place of a setting by the names of the groups around it with points between them, and
by the numbers of items between brackets. A name that is no such path is a name on its own.
-/

namespace IdentityServer.Setting

/-- A step from a setting to one within it. -/
inductive Step where
  | child (name : String)
  /-- An item by its number; negative numbers count from the end. -/
  | item (index : Int64)
  deriving DecidableEq, Repr

/-- The characters of names in a path. -/
def isNameChar (c : Char) : Bool :=
  c.isAlphanum || c = ' ' || c = '_' || c = '-'

/-- A name in a path, and what follows it. -/
def readName (s : List Char) : Option (String × List Char) :=
  let (name, rest) := s.span isNameChar
  if name.isEmpty then none else some (String.ofList name, rest)

/-- The number of an item with its closing bracket, and what follows it. -/
def readIndex (s : List Char) : Option (Int64 × List Char) := do
  let isSpace (c : Char) : Bool := c = ' ' || c = '\t'
  let s := s.dropWhile isSpace
  let (sign, s) := match s with
    | '-' :: rest => (['-'], rest)
    | _ => ([], s)
  let (digits, s) := s.span Char.isDigit
  let index ← Text.readInt64 (sign ++ digits)
  return (index, ← Text.dropStart? [']'] (s.dropWhile isSpace))

/-- The steps of a path after its first name. Every step takes a character, so the length bounds them. -/
def readSteps : Nat → List Char → Option (List Step)
  | _, [] => some []
  | fuel + 1, '.' :: rest => do
    let (name, rest) ← readName rest
    return .child name :: (← readSteps fuel rest)
  | fuel + 1, '[' :: rest => do
    let (index, rest) ← readIndex rest
    return .item index :: (← readSteps fuel rest)
  | _, _ => none

/-- The first name of a path and its steps. -/
def readPath (s : List Char) : Option (String × List Step) := do
  let (name, rest) ← readName s
  return (name, ← readSteps rest.length rest)

/-- The position of an item in a list of some length. -/
def position (index : Int64) (length : Nat) : Nat :=
  if 0 ≤ index then index.toInt.toNat else (length + index.toInt).toNat

/-- The items of a list with this one at a position; items that are missing before it are unset. -/
def putItem (items : List Setting) (i : Nat) (item : Setting) : List Setting :=
  (items ++ List.replicate (i + 1 - items.length) Setting.unset).set i item

/-- Says `s` at the end of steps. Groups and lists on the way are made where there are none. An item is
    replaced as a whole, and the names in it stay as they are written. -/
def overAt (s : Setting) : List Step → Option Setting → Setting
  | [], old => s.laidOn old
  | .child name :: rest, old => (old.getD (.group [])).update name (overAt s rest)
  | .item index :: rest, old =>
    let items := (old.bind items?).getD []
    let i := position index items.length
    .list (putItem items i (if rest.isEmpty then s else overAt s rest items[i]?))

/-- Says `s` after `old` at the place that a source names. -/
def overPlace (place : String) (s old : Setting) : Setting :=
  match readPath place.toList with
  | some (name, steps) => old.update name (overAt s steps)
  | none => old.update place (overAt s [])

/-- Says what a source says, place by place. -/
def overPlaces (source : List (String × Setting)) (old : Setting) : Setting :=
  source.foldl (fun old entry => overPlace entry.1 entry.2 old) old

end IdentityServer.Setting
