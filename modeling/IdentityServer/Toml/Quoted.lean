import IdentityServer.Text.Hex

/-!
# Texts and keys in TOML

Texts between quotes, with escapes, or between apostrophes, as they stand; of both there is a form of one
line and one of several lines, which opens and closes with three marks and keeps up to two of them before
the closing ones. A line break of two characters counts as one. Keys are parts with points between them.
-/

namespace IdentityServer.Toml

/-- Characters that may stand for themselves: all but the controls, and the tabulator. -/
def isPlain (c : Char) : Bool :=
  c = '\t' || (0x20 ≤ c.toNat && c.toNat ≠ 0x7F)

/-- Blanks within a line. -/
def isSpace (c : Char) : Bool :=
  c = ' ' || c = '\t'

/-- The text without the blanks of the line at its start. -/
def skipSpaces (s : List Char) : List Char :=
  s.dropWhile isSpace

/-- What follows a line break at the start of a text. -/
def lineBreak? : List Char → Option (List Char)
  | '\n' :: rest | '\r' :: '\n' :: rest => some rest
  | _ => none

/-- The text without the line break that may stand at its start. -/
def dropLineBreak (s : List Char) : List Char :=
  (lineBreak? s).getD s

/-! ### Escapes -/

/-- The character with a number, if there is one. -/
def scalar? (n : Nat) : Option Char :=
  if n < 0xD800 ∨ (0xE000 ≤ n ∧ n < 0x110000) then some (Char.ofNat n) else none

/-- The character that a letter after a backslash stands for. -/
def unescape? : Char → Option Char
  | 'b' => some '\x08'
  | 't' => some '\t'
  | 'n' => some '\n'
  | 'f' => some '\x0c'
  | 'r' => some '\r'
  | '"' => some '"'
  | '\\' => some '\\'
  | _ => none

/-- A character put before what was read, if there is one. -/
def withChar (c : Option Char) (read : Option (List Char × List Char)) : Option (List Char × List Char) :=
  c.bind fun c => read.map fun p => (c :: p.1, p.2)

/-! ### Texts of one line -/

/-- The rest of a text between quotes, and what follows the closing quote. -/
def readQuoted : List Char → Option (List Char × List Char)
  | [] => none
  | '"' :: rest => some ([], rest)
  | '\\' :: 'u' :: a :: b :: c :: d :: rest =>
    withChar ((Hex.number? 16 [a, b, c, d]).bind scalar?) (readQuoted rest)
  | '\\' :: 'U' :: a :: b :: c :: d :: e :: f :: g :: h :: rest =>
    withChar ((Hex.number? 16 [a, b, c, d, e, f, g, h]).bind scalar?) (readQuoted rest)
  | '\\' :: c :: rest => withChar (unescape? c) (readQuoted rest)
  | c :: rest => withChar (if isPlain c then some c else none) (readQuoted rest)

/-- The rest of a text between apostrophes, and what follows the closing one. -/
def readLiteral : List Char → Option (List Char × List Char)
  | [] => none
  | '\'' :: rest => some ([], rest)
  | c :: rest => withChar (if isPlain c then some c else none) (readLiteral rest)

/-! ### Texts of several lines -/

/-- What follows three closing marks: up to two marks more belong to the text. -/
def closeBlock (mark : Char) : List Char → Option (List Char × List Char)
  | a :: b :: c :: rest =>
    if a = mark ∧ b = mark ∧ c = mark then none
    else if a = mark ∧ b = mark then some ([mark, mark], c :: rest)
    else if a = mark then some ([mark], b :: c :: rest)
    else some ([], a :: b :: c :: rest)
  | [a, b] =>
    if a = mark ∧ b = mark then some ([mark, mark], [])
    else if a = mark then some ([mark], [b])
    else some ([], [a, b])
  | [a] => if a = mark then some ([mark], []) else some ([], [a])
  | [] => some ([], [])

/-- Whether only blanks stand before the end of the line. -/
def endsLine (s : List Char) : Bool :=
  (lineBreak? (skipSpaces s)).isSome

/-- The rest of a text of several lines between quotes, and what follows it. A backslash at the end of a
    line joins the lines: `joining` is set while blanks and line breaks are left out. -/
def readQuotedBlock : Bool → List Char → Option (List Char × List Char)
  | _, [] => none
  | true, ' ' :: rest | true, '\t' :: rest | true, '\n' :: rest | true, '\r' :: '\n' :: rest =>
    readQuotedBlock true rest
  | _, '"' :: '"' :: '"' :: rest => closeBlock '"' rest
  | _, '\n' :: rest | _, '\r' :: '\n' :: rest => withChar (some '\n') (readQuotedBlock false rest)
  | _, '\\' :: 'u' :: a :: b :: c :: d :: rest =>
    withChar ((Hex.number? 16 [a, b, c, d]).bind scalar?) (readQuotedBlock false rest)
  | _, '\\' :: 'U' :: a :: b :: c :: d :: e :: f :: g :: h :: rest =>
    withChar ((Hex.number? 16 [a, b, c, d, e, f, g, h]).bind scalar?) (readQuotedBlock false rest)
  | _, '\\' :: c :: rest =>
    if endsLine (c :: rest) then readQuotedBlock true (c :: rest)
    else withChar (unescape? c) (readQuotedBlock false rest)
  | _, c :: rest => withChar (if isPlain c then some c else none) (readQuotedBlock false rest)

/-- The rest of a text of several lines between apostrophes, and what follows it. -/
def readLiteralBlock : List Char → Option (List Char × List Char)
  | [] => none
  | '\'' :: '\'' :: '\'' :: rest => closeBlock '\'' rest
  | '\n' :: rest | '\r' :: '\n' :: rest => withChar (some '\n') (readLiteralBlock rest)
  | c :: rest => withChar (if isPlain c then some c else none) (readLiteralBlock rest)

/-- A text at the start of what is read, and what follows it. -/
def readText : List Char → Option (List Char × List Char)
  | '"' :: '"' :: '"' :: rest => readQuotedBlock false (dropLineBreak rest)
  | '"' :: rest => readQuoted rest
  | '\'' :: '\'' :: '\'' :: rest => readLiteralBlock (dropLineBreak rest)
  | '\'' :: rest => readLiteral rest
  | _ => none

/-! ### Keys -/

/-- Characters of a part without quotes. -/
def isBare (c : Char) : Bool :=
  c.isAlphanum || c = '_' || c = '-'

/-- A part of a key, and what follows it. -/
def readPart : List Char → Option (List Char × List Char)
  | '"' :: rest => readQuoted rest
  | '\'' :: rest => readLiteral rest
  | s =>
    let (part, rest) := s.span isBare
    if part.isEmpty then none else some (part, rest)

/-- A key of at most `parts` parts with blanks around each, and what follows it. -/
def readKey : Nat → List Char → Option (List String × List Char)
  | 0, _ => none
  | parts + 1, s =>
    (readPart (skipSpaces s)).bind fun p =>
      match skipSpaces p.2 with
      | '.' :: rest => (readKey parts rest).map fun q => (String.ofList p.1 :: q.1, q.2)
      | rest => some ([String.ofList p.1], rest)

/-- The greatest number of parts of a key, and of brackets inside one another. -/
def depthLimit : Nat := 79

end IdentityServer.Toml
