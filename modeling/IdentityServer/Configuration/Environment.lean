import IdentityServer.Configuration.Setting
import IdentityServer.Decimal.Reading

/-!
# Settings in the environment

A variable whose name starts with `SIGIL` and two underscores, in any case, is a setting; two underscores
divide the names of groups. Its text stands for a truth value, an integer or a double if it can, in this
order.
-/

namespace IdentityServer.Environment

/-- What the names of settings start with, in lower case. -/
def start : String := "sigil__"

/-- What divides the names of groups. -/
def separator : List Char := ['_', '_']

/-- What the text of a variable says. -/
def setting (s : String) : Setting :=
  match Text.lowerText s with
  | "true" => .flag true
  | "false" => .flag false
  | _ =>
    match Text.readInt64 s.toList, Binary64.read s.toList with
    | some n, _ => .int n
    | none, some x => .float x
    | none, none => .text s

/-- The place that the name of a variable stands for, if it is one of a setting. -/
def place? (name : String) : Option String :=
  (Text.dropStart? start.toList (Text.lowerText name).toList).map fun rest =>
    String.ofList (Text.join ['.'] (Text.splitOn separator rest))

/-- What the variables say about settings. -/
def settings (given : Dictionary String) : List (String × Setting) :=
  given.entries.filterMap fun entry => (place? entry.1).map fun place => (place, setting entry.2)

end IdentityServer.Environment
