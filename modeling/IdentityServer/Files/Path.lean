import IdentityServer.Text.Bytes
import IdentityServer.Text.Split

/-!
# Paths

Names of files with the names of directories before them and slashes between. A path that starts with a
slash is absolute, any other starts at the directory of the program. An empty element and a single point
lead nowhere, two points lead back.
-/

namespace IdentityServer.Path

/-- Whether a path does not depend on the directory of the program. -/
def isAbsolute (path : List Char) : Bool :=
  path.head? == some '/'

/-- The elements of a path between its slashes. -/
def elements (path : List Char) : List (List Char) :=
  Text.splitAt '/' path

/-- The element that leads back. -/
def parent : List Char := ['.', '.']

/-- Whether an element leads nowhere. -/
def isIdle (element : List Char) : Bool :=
  element.isEmpty || element == ['.']

/-! ### Direct paths -/

/-- The elements passed before, the last one first, after one more. Two points take back the element before
    them; before the first one they stay, unless the path is absolute. -/
def pass (absolute : Bool) (passed : List (List Char)) (element : List Char) : List (List Char) :=
  if isIdle element then passed
  else if element == parent then
    match passed with
    | [] => if absolute then [] else [parent]
    | last :: before => if last == parent then parent :: passed else before
  else element :: passed

/-- The elements of a path without those that lead nowhere or back. -/
def directElements (path : List Char) : List (List Char) :=
  ((elements path).foldl (pass (isAbsolute path)) []).reverse

/-- The shortest path that leads to the same place if every name before the last one is a directory. -/
def direct (path : List Char) : List Char :=
  (if isAbsolute path then ['/'] else []) ++ Text.join ['/'] (directElements path)

/-! ### Last names -/

/-- The elements of a path before the last name, and this name. What leads nowhere may follow it. -/
def lastName? (path : List Char) : Option (List (List Char) × List Char) :=
  match (elements path).reverse.dropWhile isIdle with
  | [] => none
  | name :: before => if name == parent then none else some (before.reverse, name)

/-- The part of a name after its last point, unless the name starts there. -/
def extension? (name : List Char) : Option (List Char) :=
  match Text.cutLast '.' name with
  | some (stem, extension) => if stem.isEmpty then none else some extension
  | none => none

/-- The path with a point and an extension behind its last name. -/
def extended? (path : List Char) (extension : List Char) : Option (List Char) :=
  (lastName? path).map fun p => Text.join ['/'] (p.1 ++ [p.2 ++ '.' :: extension])

/-! ### Lengths -/

/-- The number of bytes that encode a name. -/
def byteLength (name : List Char) : Nat :=
  (utf8 (String.ofList name)).length

/-- The greatest number of bytes of a name. -/
def longestName : Nat := 255

end IdentityServer.Path
