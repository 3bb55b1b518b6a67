import IdentityServer.Federation.InternetAddress
import IdentityServer.HostName.Basic
import IdentityServer.Text.Percent

/-!
# Hosts of URLs

The host that a URL names, in its usual spelling. The URLs of the web name a host in any script, or an
address; those of files may name one; what those of other schemes name is kept as it is. A text that is no
URL has no host at all.
-/

namespace IdentityServer.Url
open Text

/-! ### Schemes -/

/-- What the scheme of a URL says about the rest. -/
inductive Scheme where
  | web
  | file
  | other
  deriving DecidableEq, Repr

/-- The schemes of the web, whose URLs always name a host. -/
def webSchemes : List String := ["https", "http", "wss", "ws", "ftp"]

/-- The scheme of a name. -/
def Scheme.ofName (name : List Char) : Scheme :=
  let name := String.ofList (name.map Char.toLower)
  if webSchemes.contains name then .web
  else if name = "file" then .file
  else .other

/-- Whether a text can be the name of a scheme. -/
def isSchemeName (name : List Char) : Bool :=
  name.head?.any Char.isAlpha && name.all fun c => c.isAlphanum || c = '+' || c = '-' || c = '.'

/-- Whether a character divides the parts of a path. A backslash is as good as a slash, but for other
    schemes. -/
def Scheme.isSlash (scheme : Scheme) (c : Char) : Bool :=
  c = '/' || (scheme ≠ .other && c = '\\')

/-- Whether a character ends the part of a URL that names the host. -/
def Scheme.endsAuthority (scheme : Scheme) (c : Char) : Bool :=
  scheme.isSlash c || c = '?' || c = '#'

/-! ### Hosts -/

/-- The characters that no host of the web has. -/
def isForbidden (c : Char) : Bool :=
  c.toNat ≤ 0x20 || c.toNat = 0x7F || "#/:<>?@[\\]^|%".toList.contains c

/-- The host of the web with this name. -/
def webHost? (name : List Char) : Option (List Char) := do
  let name ← HostName.toAscii? (← Percent.decode? name).toList
  if name.isEmpty || name.any isForbidden then none
  else if InternetAddress.endsInNumber name then InternetAddress.fourBytes? name
  else some name

/-- The characters that hosts of other schemes do not have either. -/
def isForbiddenElsewhere (c : Char) : Bool :=
  c = Char.ofNat 0 || " #/:<>?@[\\]^|".toList.contains c

/-- The host of another scheme with this name; everything but printable ASCII is escaped. -/
def otherHost? (name : List Char) : Option (List Char) :=
  if name.any isForbiddenElsewhere then none
  else some ((utf8 (String.ofList name)).flatMap fun b =>
    if 0x20 ≤ b.toNat && b.toNat < 0x7F then [Char.ofNat b.toNat] else Percent.escaped b)

/-- The address between brackets. -/
def address? (inner : List Char) : Option (List Char) :=
  (InternetAddress.groups? inner).map fun groups => '[' :: (InternetAddress.showGroups groups ++ [']'])

/-- The host with this name, or the address between brackets. -/
def Scheme.host? (scheme : Scheme) (name : List Char) : Option (List Char) :=
  match name with
  | '[' :: rest =>
    match cut ']' rest with
    | some (inner, []) => address? inner
    | _ => none
  | name => if scheme = .other then otherHost? name else webHost? name

/-! ### Parts of URLs -/

/-- The name of a host, and the port behind the first colon that is not between brackets. `inside` says
    whether a bracket is open. -/
def splitPort : Bool → List Char → List Char × Option (List Char)
  | _, [] => ([], none)
  | inside, c :: rest =>
    if c = ':' && !inside then ([], some rest)
    else
      let (name, port) := splitPort (c = '[' || (inside && c ≠ ']')) rest
      (c :: name, port)

/-- Whether a text is a port, or empty. A backslash ends it. -/
def isPort (s : List Char) : Bool :=
  let s := s.takeWhile (· ≠ '\\')
  s.all Char.isDigit && (readNat s).all (· ≤ 65535)

/-- Whether a user or a password stands before the host. -/
def namesUser (user : List Char) : Bool :=
  !user.isEmpty && user ≠ [':']

/-- The host of the part of a URL that names it, if it names one; nothing stands for no URL. The part may
    hold a user before the host and a port behind it, which need a host. `ends` says whether the URL ends
    with the part. -/
def Scheme.authorityHost? (scheme : Scheme) (ends : Bool) (authority : List Char) :
    Option (Option (List Char)) := do
  let (user, rest) := match cutLast '@' authority with
    | some (user, rest) => (some user, rest)
    | none => (none, authority)
  let (name, port) := splitPort false rest
  if !(port.getD []).isEmpty && !isPort (port.getD []) then none
  else if !name.isEmpty then (scheme.host? name).map some
  else if scheme = .web || port.isSome || user.any namesUser || (user = some [] && !ends) then none
  else some none

/-- Whether a part of a path is the letter of a drive. -/
def isDrive (s : List Char) : Bool :=
  match s with
  | [letter, mark] => letter.isAlpha && (mark = ':' || mark = '|')
  | _ => false

/-- Whether the first part of a path that stays is the letter of a drive: parts of one point do not count,
    and one of two points takes back the part before, of which there are `kept`. -/
def startsWithDrive : Nat → List (List Char) → Bool
  | _, [] => false
  | kept, part :: rest =>
    match String.ofList (part.map Char.toLower) with
    | "." | "%2e" => startsWithDrive kept rest
    | ".." | ".%2e" | "%2e." | "%2e%2e" => startsWithDrive (kept - 1) rest
    | _ => (kept = 0 && isDrive part) || startsWithDrive (kept + 1) rest

/-- The parts of a text between slashes. -/
def Scheme.parts (scheme : Scheme) (s : List Char) : List (List Char) :=
  splitAt '/' (s.map fun c => if scheme.isSlash c then '/' else c)

/-- The host of the rest of a URL of a file, if it names one. The local host and drives need none. -/
def fileHost? (rest : List Char) : Option (Option (List Char)) :=
  match rest with
  | a :: b :: rest =>
    if Scheme.file.isSlash a && Scheme.file.isSlash b then
      let (name, rest) := rest.span fun c => !Scheme.file.endsAuthority c
      if name.isEmpty || isDrive name then some none
      else
        (Scheme.file.host? name).map fun host =>
          let path := (rest.drop 1).takeWhile fun c => c ≠ '?' && c ≠ '#'
          let isPath := rest.head?.any Scheme.file.isSlash
          if host = "localhost".toList || (isPath && startsWithDrive 0 (Scheme.file.parts path)) then none
          else some host
    else some none
  | _ => some none

/-- The host of the rest of a URL, if it names one. -/
def Scheme.restHost? (scheme : Scheme) (rest : List Char) : Option (Option (List Char)) :=
  let ofAuthority (s : List Char) :=
    let (authority, rest) := s.span fun c => !scheme.endsAuthority c
    scheme.authorityHost? rest.isEmpty authority
  match scheme, dropStart? ['/', '/'] rest with
  | .web, _ => ofAuthority (rest.dropWhile scheme.isSlash)
  | .file, _ => fileHost? rest
  | .other, some rest => ofAuthority rest
  | .other, none => some none

/-- The host that a URL names, if it names one; nothing stands for no URL. Blanks and controls around a URL
    and line breaks inside it do not count. -/
def host? (url : String) : Option (Option String) := do
  let outside (c : Char) : Bool := c.toNat ≤ 0x20
  let s := (dropTail outside (url.toList.dropWhile outside)).filter fun c =>
    c ≠ '\t' && c ≠ '\n' && c ≠ '\r'
  let (scheme, rest) ← cut ':' s
  if isSchemeName scheme then
    ((Scheme.ofName scheme).restHost? rest).map fun host => host.map String.ofList
  else none

/-- The host of a URL as it is shown: a mark for a URL without one, and nothing for what is no URL. -/
def shownHost (url : String) : String :=
  match host? url with
  | some (some host) => host
  | some none => "?"
  | none => ""

end IdentityServer.Url
