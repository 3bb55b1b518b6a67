import IdentityServer.Configuration.Format
import IdentityServer.Files.Path

/-!
# The file of settings

A file is named with its extension or without it. The extension tells the format; a name without one of the
known extensions stands for a file with one of them.
-/

namespace IdentityServer.SettingsFile

/-- The name of the file that is read if none is named and there is such a file. -/
def usualName : String := "sigil"

/-- The format that the name at the end of a path tells. -/
def format? (path : String) : Option SettingsFormat := do
  let (_, name) ← Path.lastName? path.toList
  SettingsFormat.extensions.lookup (String.ofList (← Path.extension? name))

variable {m : Type → Type} [Monad m]

/-- The first file whose path has one of these extensions behind it, with its format. -/
def findExtended? (read : String → m (Option String)) (path : String) :
    List (String × SettingsFormat) → m (Option (SettingsFormat × String))
  | [] => return none
  | (extension, format) :: rest => do
    match Path.extended? path.toList extension.toList with
    | none => return none
    | some extended =>
      match ← read (String.ofList extended) with
      | some text => return some (format, text)
      | none => findExtended? read path rest

/-- The text of the file that a path stands for, with its format. A file at the path itself has to have
    one. -/
def find? (read : String → m (Option String)) (path : String) : m (Option (SettingsFormat × String)) := do
  match ← read path with
  | some text => return (format? path).map fun format => (format, text)
  | none => findExtended? read path SettingsFormat.extensions

/-- The byte order mark, which may stand before a text. -/
def byteOrderMark : Char := Char.ofNat 0xFEFF

/-- The entries of the file of a path. A file that is named has to be there. -/
def entries (read : String → m (Option String)) (path : Option String) :
    m (Except SettingsFault (Fields Setting)) := do
  match ← find? read (path.getD usualName) with
  | some (format, text) =>
    return format.read (String.ofList ((Text.dropStart? [byteOrderMark] text.toList).getD text.toList))
  | none => return if path.isSome then .error .unreadable else .ok []

end IdentityServer.SettingsFile
