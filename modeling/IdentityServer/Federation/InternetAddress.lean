import IdentityServer.Text.Hex
import IdentityServer.Text.Integer
import IdentityServer.Text.Split

/-!
# Addresses in the place of host names

A host that ends in a number is an address of four bytes, written in decimal, octal or hexadecimal parts;
one between brackets is an address of eight groups, of which one run of zeros may be left out. Both have
one usual spelling.
-/

namespace IdentityServer.InternetAddress
open Text

/-- The number of one part of a four-byte address; nothing stands for zero after the mark of a base. -/
def part? : List Char → Option Nat
  | [] => none
  | '0' :: 'x' :: rest | '0' :: 'X' :: rest => Hex.number? 16 rest
  | '0' :: c :: rest => Hex.number? 8 (c :: rest)
  | s => Hex.number? 10 s

/-- The parts of a host between dots, without an empty one at the end. -/
def parts (host : List Char) : List (List Char) :=
  let all := splitAt '.' host
  if all.getLast? = some [] && 1 < all.length then all.dropLast else all

/-- Whether a host ends in a number, so that it has to be an address. -/
def endsInNumber (host : List Char) : Bool :=
  match (parts host).getLast? with
  | some last => !last.isEmpty && (last.all Char.isDigit || (part? last).isSome)
  | none => false

/-- The value of the parts of an address: all but the last are bytes, the last fills the rest. -/
def valueOf (numbers : List Nat) : Option Nat :=
  match numbers.getLast? with
  | none => none
  | some last =>
    let bytes := numbers.dropLast
    if 3 < bytes.length || bytes.any (255 < ·) || Nat.pow 256 (4 - bytes.length) ≤ last then none
    else some (bytes.foldl (fun n b => n * 256 + b) 0 * Nat.pow 256 (4 - bytes.length) + last)

/-- The usual spelling of a four-byte address. -/
def fourBytes? (host : List Char) : Option (List Char) := do
  let value ← valueOf (← (parts host).mapM part?)
  return join ['.'] [showNat (value / 16777216), showNat (value / 65536 % 256), showNat (value / 256 % 256),
    showNat (value % 256)]

/-- The number of a group of one to four hexadecimal digits. -/
def group? (s : List Char) : Option Nat :=
  if s.isEmpty || 4 < s.length then none else Hex.number? 16 s

/-- The number of at most three decimal digits without zeros in front. -/
def decimal? (s : List Char) : Option Nat :=
  if s.length ≤ 3 && (s.length = 1 || s.head? ≠ some '0') then readNat s else none

/-- The two groups that four decimal bytes at the end of an address stand for. -/
def tail? (s : List Char) : Option (List Nat) :=
  match (splitAt '.' s).mapM decimal? with
  | some [a, b, c, d] => if [a, b, c, d].all (· ≤ 255) then some [a * 256 + b, c * 256 + d] else none
  | _ => none

/-- The groups of one side of an address; `ending` says whether the address ends here. -/
def side? (ending : Bool) (s : List Char) : Option (List Nat) :=
  if s.isEmpty then some []
  else
    let groups := splitAt ':' s
    match groups.getLast? with
    | some last =>
      if ending && last.contains '.' then do
        return (← groups.dropLast.mapM group?) ++ (← tail? last)
      else groups.mapM group?
    | none => none

/-- The eight groups of an address. -/
def groups? (s : List Char) : Option (List Nat) :=
  match splitOn [':', ':'] s with
  | [only] => (side? true only).bind fun g => if g.length = 8 then some g else none
  | [left, right] => do
    let left ← side? false left
    let right ← side? true right
    if left.length + right.length < 8 then
      return left ++ List.replicate (8 - left.length - right.length) 0 ++ right
    else none
  | _ => none

/-- The number of zeros at the start of each rest of a list. -/
def zeroRuns : List Nat → List Nat
  | [] => []
  | g :: rest => (((g :: rest).takeWhile (· = 0)).length) :: zeroRuns rest

/-- The hexadecimal digits of a group. -/
def showGroup (g : Nat) : List Char :=
  Nat.toDigits 16 g

/-- The usual spelling of eight groups: the first of the longest runs of at least two zeros is left out. -/
def showGroups (groups : List Nat) : List Char :=
  let runs := zeroRuns groups
  let longest := runs.foldl max 0
  if longest < 2 then join [':'] (groups.map showGroup)
  else
    let start := runs.findIdx (· = longest)
    join [':'] ((groups.take start).map showGroup) ++ [':', ':'] ++
      join [':'] ((groups.drop (start + longest)).map showGroup)

end IdentityServer.InternetAddress
