import IdentityServer.Decimal.Shortest
import IdentityServer.Fields
import IdentityServer.Text.Case
import IdentityServer.Text.Integer
import IdentityServer.Text.Split

/-!
# Raw settings

What sources say about settings before it is known what each setting takes. Sources are put over one
another: groups are joined name by name, whatever the case of the names, and anything else replaces what
stood there. A reading of a value is generous: texts are taken from numbers, numbers from texts, and groups
from lists.
-/

namespace IdentityServer

/-- What a source says. -/
inductive Setting where
  | unset
  | flag (value : Bool)
  | int (value : Int64)
  | float (value : Binary64)
  | text (value : String)
  | list (items : List Setting)
  | group (entries : List (String × Setting))
  deriving Inhabited

namespace Setting

/-! ### Groups -/

/-- The entries of a group; other values have none. -/
def entries : Setting → List (String × Setting)
  | .group entries => entries
  | _ => []

/-- What a group says under a name. -/
def get? (name : String) (s : Setting) : Option Setting :=
  Fields.get? name s.entries

/-- Changes what is said under a name, in lower case; what is no group becomes one. -/
def update (name : String) (change : Option Setting → Setting) (s : Setting) : Setting :=
  let name := Text.lowerText name
  .group (Fields.insert name (change (s.get? name)) s.entries)

mutual

/-- What is said in the end if `s` is said after `old`. A group without entries leaves what it finds. -/
def laidOn : Setting → Option Setting → Setting
  | .group entries, old => entriesLaidOn entries (old.getD (.group []))
  | s, _ => s

/-- What is said in the end if entries are said after `old`. -/
def entriesLaidOn : List (String × Setting) → Setting → Setting
  | [], old => old
  | (name, s) :: rest, old => entriesLaidOn rest (old.update name (fun found => s.laidOn found))

end

/-! ### Values -/

/-- Doubles as texts: always in positional notation, and integral ones without a point. -/
def floatLayout : FloatLayout where
  positional := none
  pointZero := false
  infinity := "inf"
  undefined := "NaN"

/-- The text that a value stands for. -/
def text? : Setting → Option String
  | .text s => some s
  | .flag true => some "true"
  | .flag false => some "false"
  | .int n => some (String.ofList (Text.showInt n.toInt))
  | .float x => some (String.ofList (floatLayout.text x))
  | _ => none

/-- The truth value that a value stands for. -/
def flag? : Setting → Option Bool
  | .flag b => some b
  | .int n => some (n != 0)
  | .float x => some (x.magnitude != 0)
  | .text s =>
    match Text.lowerText s with
    | "1" | "true" | "on" | "yes" => some true
    | "0" | "false" | "off" | "no" => some false
    | _ => none
  | _ => none

/-- The unsigned word that decimal digits after an optional plus sign denote. -/
def readWord (s : List Char) : Option UInt64 :=
  (Text.readNat ((Text.dropStart? ['+'] s).getD s)).bind fun n =>
    if n < UInt64.size then some (.ofNat n) else none

/-- The unsigned word that a value stands for. Doubles are rounded and held between the least and the
    greatest word. -/
def word? : Setting → Option UInt64
  | .int n => if 0 ≤ n then some n.toUInt64 else none
  | .flag b => some (if b then 1 else 0)
  | .float x => some x.nearestWord
  | .text s =>
    match Text.lowerText s with
    | "true" | "on" | "yes" => some 1
    | "false" | "off" | "no" => some 0
    | _ => readWord s.toList
  | _ => none

/-- The unsigned word of 32 bits that a value stands for. -/
def shortWord? (s : Setting) : Option UInt32 :=
  s.word?.bind fun n => if n.toNat < UInt32.size then some n.toUInt32 else none

/-- The alternative that a value names in any case. A group of one entry counts as the name of the entry. -/
def choice? {α : Type} (alternatives : List (String × α)) : Setting → Option α
  | .text s => alternatives.lookup (Text.lowerText s)
  | .group [(name, _)] => alternatives.lookup (Text.lowerText name)
  | _ => none

/-- The items of a list. -/
def items? : Setting → Option (List Setting)
  | .list items => some items
  | _ => none

/-- What is said under a name, which has to be there. -/
def required {α : Type} (read : Setting → Option α) (name : String) (s : Setting) : Option α :=
  (s.get? name).bind read

/-- What is said under a name, if anything is. -/
def optional {α : Type} (read : Setting → Option α) (name : String) (s : Setting) : Option (Option α) :=
  match s.get? name with
  | none | some .unset => some none
  | some value => (read value).map some

/-- What a group stands for. A list stands for the group whose entries have the names in turn, if it has at
    least the first `needed` of them. -/
def group? {α : Type} (needed : Nat) (names : List String) (read : Setting → Option α) : Setting → Option α
  | .group entries => read (.group entries)
  | .list items => if needed ≤ items.length then read (.group (names.zip items)) else none
  | _ => none

/-- What is said under a name, and `default` if nothing is. -/
def orElse {α : Type} (default : α) (read : Setting → Option α) (name : String) (s : Setting) : Option α :=
  match s.get? name with
  | none => some default
  | some value => read value

end Setting

end IdentityServer
