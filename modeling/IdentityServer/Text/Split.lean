/-!
# Dividing texts

Cuts at the first or last occurrence of a character, and divisions at every occurrence of a character or
of a separator text. Joining the pieces with what they were divided at gives the text back.
-/

namespace IdentityServer.Text

/-- What stands before and after the first `c`. -/
def cut (c : Char) : List Char → Option (List Char × List Char)
  | [] => none
  | x :: rest =>
    if x = c then some ([], rest)
    else (cut c rest).map fun p => (x :: p.1, p.2)

/-- What stands before and after the last `c`. -/
def cutLast (c : Char) : List Char → Option (List Char × List Char)
  | [] => none
  | x :: rest =>
    match cutLast c rest with
    | some p => some (x :: p.1, p.2)
    | none => if x = c then some ([], rest) else none

/-- A character put before the first piece. -/
def consHead (x : Char) : List (List Char) → List (List Char)
  | [] => [[x]]
  | piece :: rest => (x :: piece) :: rest

/-- The pieces between the occurrences of `c`: always at least one. -/
def splitAt (c : Char) : List Char → List (List Char)
  | [] => [[]]
  | x :: rest => if x = c then [] :: splitAt c rest else consHead x (splitAt c rest)

/-- The pieces between the occurrences of the text `sep`, found from the left and not overlapping, after
    `skip` characters that still belong to an occurrence. -/
def splitOnFrom (sep : List Char) : Nat → List Char → List (List Char)
  | _, [] => [[]]
  | skip + 1, _ :: rest => splitOnFrom sep skip rest
  | 0, x :: rest =>
    if sep.isPrefixOf (x :: rest) then [] :: splitOnFrom sep (sep.length - 1) rest
    else consHead x (splitOnFrom sep 0 rest)

/-- The pieces between the occurrences of the nonempty text `sep`. -/
def splitOn (sep s : List Char) : List (List Char) :=
  splitOnFrom sep 0 s

/-- The pieces with `sep` between each two. -/
def join (sep : List Char) : List (List Char) → List Char
  | [] => []
  | [piece] => piece
  | piece :: rest => piece ++ sep ++ join sep rest

/-- What follows `start`, if the text starts with it. -/
def dropStart? : List Char → List Char → Option (List Char)
  | [], s => some s
  | _ :: _, [] => none
  | c :: start, x :: rest => if c = x then dropStart? start rest else none

end IdentityServer.Text
