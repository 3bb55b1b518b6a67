import IdentityServer.Text.Integer
import IdentityServer.Text.Percent
import IdentityServer.Text.Split

/-!
# Names of database files

A name that starts with `file:` is a URI: after it comes a path, a question mark and options with
ampersands between, and a number sign and a remark. Escapes stand for bytes, and a zero byte ends the path,
the name or the value that it stands in. Any other name is a path.
-/

namespace IdentityServer

/-- The name of a database file. -/
structure FileName where
  path : String
  /-- The options of a URI with their values, those of a path are none. -/
  options : List (String × String)
  /-- Whether the name is a URI. -/
  isUri : Bool
  deriving DecidableEq, Repr

namespace FileName

/-- The text that bytes encode up to the first zero byte. Bytes that encode no text have one name in
    common. -/
def textOf (bytes : Bytes) : String :=
  (ofUtf8? (bytes.takeWhile (· ≠ 0))).getD (String.singleton (Char.ofNat 0xFFFD))

/-- A part of a URI without its escapes. -/
def part (s : List Char) : String :=
  textOf (Percent.decodeBytes (utf8 (String.ofList s)))

/-- The host before the path of a URI, and what follows it. The only host is this machine. -/
def dropAuthority? : List Char → Option (List Char)
  | '/' :: '/' :: rest =>
    let host := rest.takeWhile (· ≠ '/')
    if host.isEmpty || host == "localhost".toList then some (rest.drop host.length) else none
  | s => some s

/-- The option of a part of a URI between ampersands. One without a name is none. -/
def option? (s : List Char) : Option (String × String) :=
  let (name, value) := (Text.cut '=' s).getD (s, [])
  if (part name).isEmpty then none else some (part name, part value)

/-- The name that a URI is after `file:`. -/
def ofUri? (s : List Char) : Option FileName := do
  let s := (← dropAuthority? s).takeWhile (· ≠ '#')
  let (path, options) := (Text.cut '?' s).getD (s, [])
  return ⟨part path, (Text.splitAt '&' options).filterMap option?, true⟩

/-- The name that a text is. Zero characters stand in none. -/
def ofText? (s : String) : Option FileName :=
  let s := s.toList
  if s.contains '\x00' then none
  else
    match Text.dropStart? "file:".toList s with
    | some rest => ofUri? rest
    | none => some ⟨String.ofList s, [], false⟩

/-- The name that a path and options are as a URI. -/
def ofOptions (path : String) (options : List (String × String)) : FileName :=
  ⟨textOf (utf8 path), options.map fun option => (option.1, textOf (utf8 option.2)), true⟩

/-- Whether a value stands for yes: a number that is no multiple of 256, or a word in any case. -/
def isYes (value : String) : Bool :=
  let digits := value.toList.takeWhile Char.isDigit
  if digits.isEmpty then ["on", "yes", "true"].contains (String.ofList (value.toList.map Char.toLower))
  else ((Text.readNat digits).getD 0) % 256 ≠ 0

/-- Whether the first option of a name says yes. -/
def grants (name : FileName) (option : String) : Bool :=
  ((name.options.lookup option).map isYes).getD false

end FileName

end IdentityServer
