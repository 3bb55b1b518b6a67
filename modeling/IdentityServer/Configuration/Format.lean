import IdentityServer.Configuration.Ini
import IdentityServer.Configuration.Json5
import IdentityServer.Configuration.Ron
import IdentityServer.Configuration.Setting
import IdentityServer.Configuration.Settings
import IdentityServer.Json.Parser
import IdentityServer.Toml.Document
import IdentityServer.Yaml.Document

/-!
# Formats of settings files

The formats that settings files may have, by the extensions of their names. Whatever the format, a file is
a group of entries.
-/

namespace IdentityServer

/-- A format of settings files. -/
inductive SettingsFormat where
  | toml
  | json
  | yaml
  | ini
  | ron
  | json5
  deriving DecidableEq, Repr

/-! ### Values -/

namespace Setting

mutual

/-- What a TOML value says; moments count as texts. -/
def ofToml : Toml.Value → Setting
  | .text s => .text s
  | .int n => .int n
  | .float x => .float x
  | .bool b => .flag b
  | .moment m => .text (String.ofList m.text)
  | .array items => .list (itemsOfToml items)
  | .table entries => .group (entriesOfToml entries)

/-- What the items of an array say. -/
def itemsOfToml : List Toml.Value → List Setting
  | [] => []
  | item :: rest => ofToml item :: itemsOfToml rest

/-- What the entries of a table say. -/
def entriesOfToml : List (String × Toml.Value) → Fields Setting
  | [] => []
  | (name, value) :: rest => Fields.insert name (ofToml value) (entriesOfToml rest)

end

/-- What an integer says; one that no signed word holds is a double. -/
def ofInt (n : Int) : Setting :=
  match Text.toInt64? n with
  | some n => .int n
  | none => .float (Binary64.ofDecimal (n < 0) n.natAbs 0)

mutual

/-- What a JSON value says. -/
def ofJson : Json → Setting
  | .null => .unset
  | .bool b => .flag b
  | .int n => ofInt n
  | .float x => .float x
  | .str s => .text s
  | .arr items => .list (itemsOfJson items)
  | .obj fields => .group (fieldsOfJson fields)

/-- What the items of an array say. -/
def itemsOfJson : List Json → List Setting
  | [] => []
  | item :: rest => ofJson item :: itemsOfJson rest

/-- What the fields of an object say. -/
def fieldsOfJson : List (String × Json) → Fields Setting
  | [] => []
  | (name, value) :: rest => (name, ofJson value) :: fieldsOfJson rest

end

/-- The name that a YAML node is. -/
def nameOfYaml? : Yaml.Node → Option String
  | .text s => some s
  | .int n => some (String.ofList (Text.showInt n.toInt))
  | _ => none

mutual

/-- What a YAML node says. Named doubles are not read, and an invalid node says nothing. -/
def ofYaml : Yaml.Node → Except SettingsFault Setting
  | .null | .invalid => .ok .unset
  | .bool b => .ok (.flag b)
  | .int n => .ok (.int n)
  | .text s => .ok (.text s)
  | .real written =>
    match Binary64.read written.toList with
    | some x => .ok (.float x)
    | none => .error .unreadable
  | .seq items => (itemsOfYaml items).map .list
  | .map entries => (entriesOfYaml [] entries).map .group

/-- What the items of a sequence say. -/
def itemsOfYaml : List Yaml.Node → Except SettingsFault (List Setting)
  | [] => .ok []
  | item :: rest => (ofYaml item).bind fun item => (itemsOfYaml rest).map (item :: ·)

/-- What the entries of a mapping say in addition to what is said. -/
def entriesOfYaml : Fields Setting → List (Yaml.Node × Yaml.Node) → Except SettingsFault (Fields Setting)
  | said, [] => .ok said
  | said, (key, value) :: rest =>
    match nameOfYaml? key with
    | none => .error .strangeName
    | some name => (ofYaml value).bind fun value => entriesOfYaml (Fields.insert name value said) rest

end

/-- The entries of a group; what is no group is no file. -/
def asFile : Setting → Except SettingsFault (Fields Setting)
  | .group entries => .ok entries
  | _ => .error .unreadable

end Setting

/-! ### Files -/

namespace SettingsFormat

/-- The extensions of the names of files. -/
def extensions : List (String × SettingsFormat) :=
  [("toml", .toml), ("json", .json), ("yaml", .yaml), ("yml", .yaml), ("ini", .ini), ("ron", .ron),
   ("json5", .json5)]

/-- The setting that is there, or the refusal of the file. -/
def orRefuse {α : Type} : Option α → Except SettingsFault α
  | some a => .ok a
  | none => .error .unreadable

/-- What a file of a format says. -/
def read (format : SettingsFormat) (text : String) : Except SettingsFault (Fields Setting) := do
  match format with
  | .toml => return Setting.entriesOfToml (← orRefuse (Toml.parse text))
  | .json => (Setting.ofJson (← orRefuse (Json.parse text))).asFile
  | .ini => return Ini.settings (← orRefuse (Ini.parse text))
  | .json5 => (← orRefuse (Json5.parse text)).asFile
  | .ron => (← orRefuse (Ron.parse text)).asFile
  | .yaml =>
    match ← orRefuse (Yaml.parse text) with
    | some root => (← Setting.ofYaml root).asFile
    | none => return []

end SettingsFormat

end IdentityServer
