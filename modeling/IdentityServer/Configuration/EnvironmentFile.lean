import IdentityServer.Fields
import IdentityServer.Text.Alphanumeric
import IdentityServer.Text.Blank
import IdentityServer.Text.Split

/-!
# Environment files

Variables from a file, a name and a value on each line. Between apostrophes a value stands as it is; between
quotes and outside of both, a backslash escapes, and a dollar sign and a name stand for a variable. A value
in quotes may go over several lines. Variables that are there already are kept, and the first line that is
in no such form ends the file.
-/

namespace IdentityServer.EnvironmentFile
open Text

/-! ### Lines -/

/-- How a line goes on. -/
inductive Quoting where
  | bare
  | escaped
  /-- Behind a blank, where a comment can start. -/
  | blank
  | strong
  | strongEscaped
  | weak
  | weakEscaped
  deriving DecidableEq, Repr

/-- How a line goes on after a character. -/
def Quoting.next : Quoting → Char → Quoting
  | .bare, c | .blank, c =>
    if c = '\\' then .escaped
    else if c = '"' then .weak
    else if c = '\'' then .strong
    else .bare
  | .escaped, _ => .bare
  | .weak, c => if c = '\\' then .weakEscaped else if c = '"' then .bare else .weak
  | .weakEscaped, _ => .weak
  | .strong, c => if c = '\\' then .strongEscaped else if c = '\'' then .bare else .strong
  | .strongEscaped, _ => .strong

/-- How a line goes on after a character that may be a blank. -/
def Quoting.after (q : Quoting) (c : Char) : Quoting :=
  if q = .bare && isBlank c && c != '\n' && c != '\r' then .blank else q.next c

/-- The part of a line before its comment, and how the next line starts; nothing if the line has a
    comment. -/
def scanLine : Quoting → List Char → List Char × Option Quoting
  | q, [] => ([], some q)
  | q, c :: rest =>
    if q = .blank && c = '#' then ([], none)
    else
      let (kept, ending) := scanLine (q.after c) rest
      (c :: kept, ending)

/-- The lines of a text, each with its line break. -/
def lines : List Char → List (List Char)
  | [] => []
  | c :: rest =>
    if c = '\n' then [c] :: lines rest
    else
      match lines rest with
      | [] => [[c]]
      | line :: more => (c :: line) :: more

/-- Lines that belong together, joined, without comments; what was read of the current one is in `before`.
    Nothing stands for a last line that does not end. -/
def joinLines : Quoting → List Char → List (List Char) → List (Option (List Char))
  | .bare, _, [] => []
  | _, _, [] => [none]
  | q, before, line :: rest =>
    let whole := before ++ line
    if (whole.dropWhile isBlank).head? = some '#' then joinLines .bare [] rest
    else
      match scanLine q line with
      | (kept, none) => some (before ++ kept) :: joinLines .bare [] rest
      | (_, some .bare) => some whole :: joinLines .bare [] rest
      | (_, some q) => joinLines q whole rest

/-! ### Values -/

/-- Where in a value a character stands. -/
inductive Phase where
  | plain
  | escaped
  /-- Between apostrophes. -/
  | strong
  /-- In the name of a variable. -/
  | name
  /-- In the name of a variable between braces. -/
  | braced
  /-- Behind the value. -/
  | ended
  deriving DecidableEq, Repr

/-- What has been read of a value, with texts in reverse. -/
structure Reading where
  phase : Phase := .plain
  /-- Whether quotes are open. -/
  quoted : Bool := false
  name : List Char := []
  value : List Char := []

variable (known : Dictionary String)

/-- The reading with the value of the variable whose name was read. -/
def Reading.substitute (r : Reading) : Reading :=
  let found := (known.get? (String.ofList r.name.reverse)).getD ""
  { r with name := [], value := found.toList.reverse ++ r.value }

/-- The reading with a character of the value. -/
def Reading.push (r : Reading) (c : Char) : Reading :=
  { r with phase := .plain, value := c :: r.value }

/-- The character that a character after a backslash stands for. -/
def unescape? (c : Char) : Option Char :=
  if ['\\', '\'', '"', '$', ' '].contains c then some c
  else if c = 'n' then some '\n'
  else none

/-- The reading after a character of the value itself. -/
def Reading.plain (r : Reading) (c : Char) : Reading :=
  if c = '$' then { r with phase := .name }
  else if c = '\\' then { r with phase := .escaped }
  else if c = '"' then { r with quoted := !r.quoted }
  else if r.quoted then r.push c
  else if c = '\'' then { r with phase := .strong }
  else if c = ' ' || c = '\t' then { r with phase := .ended }
  else r.push c

/-- The value when a text ends, unless something is still open. -/
def Reading.finish? (r : Reading) : Option (List Char) :=
  if r.quoted || r.phase = .strong || r.phase = .braced then none else some (r.substitute known).value.reverse

/-- The value that starts a text, after what was read before. -/
def readValue : Reading → List Char → Option (List Char)
  | r, [] => r.finish? known
  | r, c :: rest =>
    match r.phase with
    | .ended =>
      if c = ' ' || c = '\t' then readValue r rest
      else if c = '#' then r.finish? known
      else none
    | .escaped => (unescape? c).bind fun c => readValue (r.push c) rest
    | .strong => readValue (if c = '\'' then { r with phase := .plain } else { r with value := c :: r.value }) rest
    | .name =>
      if isAlphanumeric c then readValue { r with name := c :: r.name } rest
      else if c = '{' && r.name.isEmpty then readValue { r with phase := .braced } rest
      else
        let r := r.substitute known
        readValue (if c = '$' then r else r.push c) rest
    | .braced =>
      if c = '}' then readValue { r.substitute known with phase := .plain } rest
      else readValue { r with name := c :: r.name } rest
    | .plain => readValue (r.plain c) rest

/-! ### Variables -/

/-- The name of a variable at the start of a text, and what follows it. -/
def readName (s : List Char) : Option (List Char × List Char) :=
  if s.head?.any fun c => c.isAlpha || c = '_' then
    some (s.span fun c => c.isAlphanum || c = '_' || c = '.')
  else none

/-- A name and what follows the equals sign. -/
def readAssignment (s : List Char) : Option (List Char × List Char) := do
  let (name, rest) ← readName s
  return (name, ← dropStart? ['='] (rest.dropWhile isBlank))

/-- A name and what follows the equals sign, with or without the word `export` before them. -/
def readStart (s : List Char) : Option (List Char × List Char) := do
  let (name, rest) ← readName s
  match dropStart? ['='] (rest.dropWhile isBlank) with
  | some rest => return (name, rest)
  | none => if name = "export".toList then readAssignment (rest.dropWhile isBlank) else none

/-- The variables after a line; nothing if the line has no such form. -/
def readLine (line : List Char) : Option (Dictionary String) := do
  let line := trim line
  if line.isEmpty || line.head? = some '#' then return known
  let (name, rest) ← readStart line
  let rest := rest.dropWhile isBlank
  let value ← if rest.isEmpty || rest.head? = some '#' then some [] else readValue known {} rest
  let name := String.ofList name
  if (known.get? name).isSome then return known
  return known.insert name (String.ofList value)

/-- The variables after lines. -/
def readLines : Dictionary String → List (Option (List Char)) → Dictionary String
  | known, some line :: rest =>
    match readLine known line with
    | some known => readLines known rest
    | none => known
  | known, _ => known

/-- The variables together with those of a file. -/
def apply (file : String) : Dictionary String :=
  let cs := match file.toList with
    | c :: rest => if c = Char.ofNat 0xFEFF then rest else c :: rest
    | [] => []
  readLines known (joinLines .bare [] (lines cs))

end IdentityServer.EnvironmentFile
