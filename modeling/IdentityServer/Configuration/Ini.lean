import IdentityServer.Configuration.Setting
import IdentityServer.Text.Blank
import IdentityServer.Text.Hex

/-!
# Settings in INI files

Sections of keys and values, one key on a line. A value may be put between quotes or apostrophes, and a
backslash escapes wherever a text stands. A comment takes a whole line, from its first character on. Keys
before the first section belong to the file itself, and of sections or keys with the same name the last one
stays.
-/

namespace IdentityServer.Ini
open Text

/-! ### Texts -/

/-- The character that a letter after a backslash stands for. -/
def unescape : Char → Char
  | '0' => '\x00'
  | 'a' => '\x07'
  | 'b' => '\x08'
  | 't' => '\t'
  | 'r' => '\r'
  | 'n' => '\n'
  | c => c

/-- The character of a hexadecimal number. -/
def charOf? (digits : List Char) : Option Char := do
  let n ← Hex.number? 16 ((dropStart? ['+'] digits).getD digits)
  if h : n.isValidChar then some (Char.ofNatAux n h) else none

/-- A text up to a character that ends it, and what follows with this character. Only some texts may end
    with the file. -/
def readUntil (ends : Char → Bool) (mayEnd : Bool) : List Char → Option (List Char × List Char)
  | [] => if mayEnd then some ([], []) else none
  | '\\' :: rest =>
    if ends '\\' then some ([], '\\' :: rest)
    else
      match rest with
      | [] => if mayEnd then some (['\\'], []) else none
      | '\n' :: rest => readUntil ends mayEnd rest
      | 'x' :: a :: b :: c :: d :: rest => do
        let x ← charOf? [a, b, c, d]
        let (text, rest) ← readUntil ends mayEnd rest
        return (x :: text, rest)
      | c :: rest =>
        if c = 'x' then none else (readUntil ends mayEnd rest).map fun p => (unescape c :: p.1, p.2)
  | c :: rest =>
    if ends c then some ([], c :: rest)
    else (readUntil ends mayEnd rest).map fun p => (c :: p.1, p.2)

/-- A text without the blanks at its end. -/
def trimEnd (s : List Char) : List Char :=
  dropTail isBlank s

/-- The rest of a value, with what follows its line: pieces between quotes or apostrophes, and a piece up to
    the end of the line without the blanks around it. `trims` is how the last piece loses blanks. -/
def readPieces : Nat → (List Char → List Char) → List Char → Option (List Char × List Char)
  | fuel + 1, trims, q :: rest =>
    if q = '"' ∨ q = '\'' then do
      let (piece, rest) ← readUntil (· == q) false rest
      let (more, rest) ← readPieces fuel trimEnd (rest.drop 1)
      return (piece ++ more, rest)
    else (readUntil (fun c => c == '\n' || c == '\r') true (q :: rest)).map fun p => (trims p.1, p.2)
  | _, _, _ => some ([], [])

/-- A value after its separator, with what follows its line. -/
def readValue (s : List Char) : Option (List Char × List Char) :=
  let s := s.dropWhile fun c => isBlank c && c ≠ '\n' && c ≠ '\r'
  readPieces (s.length + 1) trim s

/-! ### Sections -/

/-- A section. The keys before the first header have no name. -/
structure Section where
  name : Option String := none
  entries : List (String × String) := []

/-- Whether a character stands between a key and its value. -/
def isSeparator (c : Char) : Bool :=
  c = '=' || c = ':'

/-- The text without the blanks at its start, and whether a line starts behind them; `starts` tells this of
    the text itself. -/
def skipBlanks : Bool → List Char → Bool × List Char
  | starts, [] => (starts, [])
  | starts, c :: rest => if isBlank c then skipBlanks (c == '\n') rest else (starts, c :: rest)

/-- The name or the value that is written so. -/
def trimmed (s : List Char) : String :=
  String.ofList (trim s)

/-- The sections of a text after those read before, of which the first one is open. -/
def readSections : Nat → Section → List Section → Bool → List Char → Option (List Section)
  | 0, _, _, _, _ => none
  | fuel + 1, current, before, starts, s =>
    match skipBlanks starts s with
    | (_, []) => some (before ++ [current])
    | (starts, c :: rest) =>
      if c = ';' ∨ c = '#' then
        if starts then readSections fuel current before true ((rest.dropWhile (· ≠ '\n')).drop 1) else none
      else if c = '[' then
        (readUntil (· == ']') false rest).bind fun name =>
          readSections fuel { name := some (trimmed name.1) } (before ++ [current]) false (name.2.drop 1)
      else
        (readUntil isSeparator false (c :: rest)).bind fun key =>
          if (trim key.1).isEmpty then none
          else
            (readValue (key.2.drop 1)).bind fun value =>
              let entry := (trimmed key.1, String.ofList value.1)
              readSections fuel { current with entries := current.entries ++ [entry] } before false value.2

/-- The sections of a text. Every step of the reading takes a character. -/
def parse (s : String) : Option (List Section) :=
  readSections (s.length + 1) {} [] true s.toList

/-! ### Settings -/

/-- What entries say in addition to what is said. -/
def putEntries (entries : List (String × String)) (said : Fields Setting) : Fields Setting :=
  entries.foldl (fun said entry => Fields.insert entry.1 (.text entry.2) said) said

/-- What a section says in addition to what is said. -/
def putSection (said : Fields Setting) (s : Section) : Fields Setting :=
  match s.name with
  | none => putEntries s.entries said
  | some name => Fields.insert name (.group (putEntries s.entries [])) said

/-- What sections say. -/
def settings (sections : List Section) : Fields Setting :=
  sections.foldl putSection []

end IdentityServer.Ini
