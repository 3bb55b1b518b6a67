import IdentityServer.Text.Split
import IdentityServer.Toml.Node
import IdentityServer.Toml.Number
import IdentityServer.Toml.Quoted

/-!
# Reading TOML

A document is a list of lines: a header of a table or of an array of tables, or a key and its value, each
with a comment after it. Values in brackets may go over several lines, tables in braces may not.
-/

namespace IdentityServer.Toml

/-- The text without the blanks, line breaks and comments at its start; `comment` is set inside one. -/
def skipLayout : Bool → List Char → List Char
  | _, [] => []
  | _, '\n' :: rest | _, '\r' :: '\n' :: rest => skipLayout false rest
  | true, c :: rest => if isPlain c then skipLayout true rest else c :: rest
  | false, c :: rest =>
    if isSpace c then skipLayout false rest
    else if c = '#' then skipLayout true rest
    else c :: rest

/-- Whether a text starts like a moment. -/
def startsMoment (s : List Char) : Bool :=
  Moment.startsDate s || Moment.startsTime s

mutual

/-- A value at the start of a text, and what follows it, with `depth` more brackets allowed. -/
def readValue : Nat → Nat → List Char → Option (Value × List Char)
  | 0, _, _ => none
  | fuel + 1, depth, s =>
    match s with
    | '"' :: _ | '\'' :: _ => (readText s).map fun p => (.text (String.ofList p.1), p.2)
    | 't' :: 'r' :: 'u' :: 'e' :: rest => some (.bool true, rest)
    | 'f' :: 'a' :: 'l' :: 's' :: 'e' :: rest => some (.bool false, rest)
    | '[' :: rest =>
      match depth with
      | 0 => none
      | depth + 1 =>
        match rest with
        | ']' :: rest => some (.array [], rest)
        | _ => (readItems fuel depth (skipLayout false rest)).map fun p => (.array p.1, p.2)
    | '{' :: rest =>
      match depth with
      | 0 => none
      | depth + 1 =>
        match skipSpaces rest with
        | '}' :: rest => some (.table [], rest)
        | rest => (readEntries fuel depth [] rest).map fun p => (.table (entryValues p.1), p.2)
    | _ => if startsMoment s then (Moment.read s).map fun p => (.moment p.1, p.2) else readNumber s

/-- Items with commas between them, perhaps one more, and the closing bracket. -/
def readItems : Nat → Nat → List Char → Option (List Value × List Char)
  | 0, _, _ => none
  | _ + 1, _, ']' :: rest => some ([], rest)
  | fuel + 1, depth, s =>
    (readValue fuel depth s).bind fun p =>
      match skipLayout false p.2 with
      | ']' :: rest => some ([p.1], rest)
      | ',' :: rest => (readItems fuel depth (skipLayout false rest)).map fun q => (p.1 :: q.1, q.2)
      | _ => none

/-- One or more entries with commas between them and the closing brace, added to the entries read before. -/
def readEntries : Nat → Nat → Entries → List Char → Option (Entries × List Char)
  | 0, _, _, _ => none
  | fuel + 1, depth, read, s =>
    (readKey depthLimit s).bind fun key =>
      match key.2 with
      | '=' :: rest =>
        (readValue fuel depth (skipSpaces rest)).bind fun p =>
          (read.insert key.1 p.1).bind fun read =>
            match skipSpaces p.2 with
            | '}' :: rest => some (read, rest)
            | ',' :: rest => readEntries fuel depth read rest
            | _ => none
      | _ => none

end

/-- What follows the end of a line; only blanks and a comment may stand before it. -/
def endLine (s : List Char) : Option (List Char) :=
  let rest := match skipSpaces s with
    | '#' :: rest => rest.dropWhile isPlain
    | rest => rest
  match rest with
  | [] => some []
  | rest => lineBreak? rest

/-- The path of a header after its opening brackets, and what follows the line. -/
def readHeader (closing : List Char) (s : List Char) : Option (List String × List Char) := do
  let (path, rest) ← readKey depthLimit s
  return (path, ← endLine (← Text.dropStart? closing rest))

/-- A key and its value, and what follows the line. -/
def readPair (s : List Char) : Option (List String × Value × List Char) := do
  let (key, rest) ← readKey depthLimit s
  let rest := skipSpaces (← expect '=' rest)
  let (value, rest) ← readValue (2 * rest.length + 2) depthLimit rest
  return (key, value, ← endLine rest)

/-- Adds lines to the entries of a document, the pairs to the table at `path`. -/
def readLines : Nat → List String → Entries → List Char → Option Entries
  | 0, _, _, _ => none
  | fuel + 1, path, entries, s =>
    match skipSpaces s with
    | [] => some entries
    | '#' :: rest => (endLine ('#' :: rest)).bind (readLines fuel path entries)
    | '\n' :: rest | '\r' :: '\n' :: rest => readLines fuel path entries rest
    | '[' :: '[' :: rest => do
      let (path, rest) ← readHeader [']', ']'] rest
      readLines fuel path (← entries.openAt Entries.openElement path) rest
    | '[' :: rest => do
      let (path, rest) ← readHeader [']'] rest
      readLines fuel path (← entries.openAt Entries.openTable path) rest
    | s => do
      let (key, value, rest) ← readPair s
      readLines fuel path (← entries.within path (Entries.insert key value)) rest

/-- The byte order mark. -/
def byteOrderMark : Char := Char.ofNat 0xFEFF

/-! ### Moments in tables -/

/-- The name that marks a table as a moment. -/
def momentName : String := "$__toml_private_datetime"

mutual

/-- A value with its marked tables replaced by moments; nothing if a marked table holds none. -/
def Value.settled? : Value → Option Value
  | .array items => (itemsSettled? items).map .array
  | .table ((name, value) :: rest) =>
    if name = momentName then
      match value with
      | .text s => (Moment.ofText? s.toList).map .moment
      | _ => none
    else
      value.settled?.bind fun value =>
        (entriesSettled? rest).map fun rest => .table ((name, value) :: rest)
  | value => some value

/-- Items with their marked tables replaced by moments. -/
def itemsSettled? : List Value → Option (List Value)
  | [] => some []
  | item :: rest => item.settled?.bind fun item => (itemsSettled? rest).map (item :: ·)

/-- Entries with their marked tables replaced by moments. -/
def entriesSettled? : List (String × Value) → Option (List (String × Value))
  | [] => some []
  | (name, value) :: rest =>
    value.settled?.bind fun value => (entriesSettled? rest).map ((name, value) :: ·)

end

/-- The entries of a document. A byte order mark may stand before it. A table whose first name is the one
    for moments is a moment, which the document itself cannot be. -/
def parse (s : String) : Option (List (String × Value)) := do
  let cs := match s.toList with
    | c :: rest => if c = byteOrderMark then rest else c :: rest
    | [] => []
  let entries ← readLines (cs.length + 1) [] [] cs
  match ← (Value.table (entryValues entries)).settled? with
  | .table entries => return entries
  | _ => none

end IdentityServer.Toml
