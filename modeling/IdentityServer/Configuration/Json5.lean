import IdentityServer.Configuration.Setting
import IdentityServer.Decimal.Reading
import IdentityServer.Text.Hex
import IdentityServer.Text.Letter

/-!
# Settings in JSON5

JSON with comments, names without quotes, texts between apostrophes, commas after the last item, and more
ways to write numbers. A number without a point and an exponent is an integer, which fits a signed word, or
an unsigned one of 32 bits if it is hexadecimal. Of entries with the same name the last one stays.
-/

namespace IdentityServer.Json5

/-! ### Layout -/

/-- The characters that end a line. -/
def isLineEnd (c : Char) : Bool :=
  c = '\n' || c = '\r' || c.toNat = 0x2028 || c.toNat = 0x2029

/-- The characters that may stand between tokens. -/
def isSpace (c : Char) : Bool :=
  c.toNat = 0xFEFF || (Text.isBlank c && c.toNat ≠ 0x85)

/-- What stands between tokens. -/
inductive Layout where
  | spaces
  | lineComment
  | blockComment
  deriving DecidableEq, Repr

/-- The text without the spaces and comments at its start, inside of one of which it may start. A comment
    without its end is left with its first character. -/
def skipLayout : Layout → List Char → List Char
  | .blockComment, [] => ['/']
  | .lineComment, [] | .spaces, [] => []
  | .spaces, '/' :: '/' :: rest => skipLayout .lineComment rest
  | .spaces, '/' :: '*' :: rest => skipLayout .blockComment rest
  | .spaces, c :: rest => if isSpace c then skipLayout .spaces rest else c :: rest
  | .lineComment, c :: rest => skipLayout (if isLineEnd c then .spaces else .lineComment) rest
  | .blockComment, '*' :: '/' :: rest => skipLayout .spaces rest
  | .blockComment, _ :: rest => skipLayout .blockComment rest

/-- The text without what stands before the next token. -/
def skip (s : List Char) : List Char :=
  skipLayout .spaces s

/-! ### Texts -/

/-- A piece of a text: a character, or a number that an escape gives, which may be half a character. -/
inductive Piece where
  | char (c : Char)
  | unit (n : Nat)
  deriving DecidableEq, Repr

/-- The text that pieces make; the halves of a character stand side by side. -/
def joinPieces? : List Piece → Option (List Char)
  | [] => some []
  | .char c :: rest => (joinPieces? rest).map (c :: ·)
  | .unit high :: rest =>
    if 0xDC00 ≤ high && high < 0xE000 then none
    else if 0xD800 ≤ high && high < 0xDC00 then
      match rest with
      | .unit low :: rest =>
        if 0xDC00 ≤ low && low < 0xE000 then
          (joinPieces? rest).map (Char.ofNat (0x10000 + (high - 0xD800) * 0x400 + (low - 0xDC00)) :: ·)
        else none
      | _ => none
    else (joinPieces? rest).map (Char.ofNat high :: ·)

/-- The character that a letter after a backslash stands for, by default itself. -/
def unescape : Char → Char
  | '0' => '\x00'
  | 'b' => '\x08'
  | 'f' => '\x0c'
  | 'n' => '\n'
  | 'r' => '\r'
  | 't' => '\t'
  | 'v' => '\x0b'
  | c => c

/-- A piece put before a text. -/
def putBefore (piece : Piece) (p : List Piece × List Char) : List Piece × List Char :=
  (piece :: p.1, p.2)

/-- The pieces of a text up to its quote, and what follows the quote. A backslash takes a line end out of
    the text; a digit other than zero does not follow one. -/
def readPieces (quote : Char) : List Char → Option (List Piece × List Char)
  | [] => none
  | '\\' :: 'x' :: a :: b :: rest =>
    (Hex.number? 16 [a, b]).bind fun n => (readPieces quote rest).map (putBefore (.char (Char.ofNat n)))
  | '\\' :: 'u' :: a :: b :: c :: d :: rest =>
    (Hex.number? 16 [a, b, c, d]).bind fun n => (readPieces quote rest).map (putBefore (.unit n))
  | '\\' :: '\r' :: '\n' :: rest => readPieces quote rest
  | '\\' :: c :: rest =>
    if isLineEnd c then readPieces quote rest
    else if c = 'x' || c = 'u' || (c.isDigit && c ≠ '0') then none
    else (readPieces quote rest).map (putBefore (.char (unescape c)))
  | c :: rest =>
    if c = quote then some ([], rest)
    else if isLineEnd c || c = '\\' then none
    else (readPieces quote rest).map (putBefore (.char c))

/-- A text after its first quote, and what follows it. -/
def readText (quote : Char) (s : List Char) : Option (String × List Char) := do
  let (pieces, rest) ← readPieces quote s
  return (String.ofList (← joinPieces? pieces), rest)

/-- The pieces of a name without quotes after its first one, and what follows it. -/
def readNamePieces : List Char → List Piece × List Char
  | '\\' :: 'u' :: a :: b :: c :: d :: rest =>
    match Hex.number? 16 [a, b, c, d] with
    | some n => putBefore (.unit n) (readNamePieces rest)
    | none => ([], '\\' :: 'u' :: a :: b :: c :: d :: rest)
  | c :: rest =>
    if c = '$' || Text.isWordChar c then putBefore (.char c) (readNamePieces rest) else ([], c :: rest)
  | [] => ([], [])

/-- A name, and what follows it. One without quotes starts with a letter, a dollar sign, an underscore or an
    escape. -/
def readName : List Char → Option (String × List Char)
  | '"' :: rest => readText '"' rest
  | '\'' :: rest => readText '\'' rest
  | s => do
    let (pieces, rest) := readNamePieces s
    let starts := match pieces with
      | [] => false
      | .unit _ :: _ => true
      | .char c :: _ => c = '$' || c = '_' || Text.isLetter c
    if starts then return (String.ofList (← joinPieces? pieces), rest) else none

/-! ### Numbers -/

/-- The digits of a decimal integer without a leading zero, and what follows them. -/
def readWhole : List Char → List Char × List Char
  | '0' :: rest => (['0'], rest)
  | s => s.span Char.isDigit

/-- The exponent, if there is one, and what follows it. -/
def readExponent (s : List Char) : List Char × List Char :=
  match s with
  | c :: rest =>
    let (sign, digits) := match rest with
      | '+' :: rest => (['+'], rest)
      | '-' :: rest => (['-'], rest)
      | _ => ([], rest)
    let (power, after) := digits.span Char.isDigit
    if (c = 'e' || c = 'E') && !power.isEmpty then ('e' :: sign ++ power, after) else ([], s)
  | [] => ([], [])

/-- The point and the digits after it, if there are any, and what follows them. A digit has to stand before
    or after the point. -/
def readFraction (whole : List Char) : List Char → List Char × List Char
  | '.' :: rest =>
    let (digits, after) := rest.span Char.isDigit
    if whole.isEmpty && digits.isEmpty then ([], '.' :: rest) else ('.' :: digits, after)
  | s => ([], s)

/-- A decimal number after a sign, and what follows it. -/
def readDecimal (sign s : List Char) : Option (Setting × List Char) := do
  let (whole, s) := readWhole s
  let (fraction, s) := readFraction whole s
  if whole.isEmpty && fraction.isEmpty then none
  else
    let (power, s) := readExponent s
    if fraction.isEmpty && power.isEmpty then return (.int (← Text.readInt64 (sign ++ whole)), s)
    let x ← Binary64.read (sign ++ whole ++ fraction ++ power)
    if x.isFinite then return (.float x, s) else none

/-- Whether a text starts with a hexadecimal number, and its digits with what follows them. -/
def readHex? : List Char → Option (List Char × List Char)
  | '0' :: x :: rest =>
    let (digits, after) := rest.span fun c => (Hex.value? c).isSome
    if (x = 'x' || x = 'X') && !digits.isEmpty then some (digits, after) else none
  | _ => none

/-- A number, and what follows it. Signs are not for hexadecimal numbers, and a plus sign is only for
    decimal ones. -/
def readNumber (s : List Char) : Option (Setting × List Char) := do
  let (sign, s) := match s with
    | '+' :: rest => (['+'], rest)
    | '-' :: rest => (['-'], rest)
    | _ => ([], s)
  match readHex? s with
  | some (digits, rest) =>
    let n ← Hex.number? 16 digits
    if sign.isEmpty && n < UInt32.size then return (.int (.ofNat n), rest) else none
  | none =>
    match Text.dropStart? "Infinity".toList s, Text.dropStart? "NaN".toList s with
    | some rest, _ =>
      if sign == ['+'] then none else return (.float (Binary64.infinity (sign == ['-'])), rest)
    | _, some rest => if sign == ['+'] then none else return (.float Binary64.undefined, rest)
    | none, none => readDecimal sign s

/-! ### Values -/

mutual

/-- A value, and what follows it. -/
def readValue : Nat → List Char → Option (Setting × List Char)
  | 0, _ => none
  | fuel + 1, s =>
    match skip s with
    | 'n' :: 'u' :: 'l' :: 'l' :: rest => some (.unset, rest)
    | 't' :: 'r' :: 'u' :: 'e' :: rest => some (.flag true, rest)
    | 'f' :: 'a' :: 'l' :: 's' :: 'e' :: rest => some (.flag false, rest)
    | '"' :: rest => (readText '"' rest).map fun p => (.text p.1, p.2)
    | '\'' :: rest => (readText '\'' rest).map fun p => (.text p.1, p.2)
    | '[' :: rest =>
      match skip rest with
      | ']' :: rest => some (.list [], rest)
      | rest => (readItems fuel rest).map fun p => (.list p.1, p.2)
    | '{' :: rest =>
      match skip rest with
      | '}' :: rest => some (.group [], rest)
      | rest => (readEntries fuel [] rest).map fun p => (.group p.1, p.2)
    | s => readNumber s

/-- One or more items, perhaps a comma, and the closing bracket. -/
def readItems : Nat → List Char → Option (List Setting × List Char)
  | 0, _ => none
  | fuel + 1, s =>
    (readValue fuel s).bind fun p =>
      match skip p.2 with
      | ']' :: rest => some ([p.1], rest)
      | ',' :: rest =>
        match skip rest with
        | ']' :: rest => some ([p.1], rest)
        | rest => (readItems fuel rest).map fun q => (p.1 :: q.1, q.2)
      | _ => none

/-- One or more entries, perhaps a comma, and the closing brace, added to the entries read before. -/
def readEntries : Nat → Fields Setting → List Char → Option (Fields Setting × List Char)
  | 0, _, _ => none
  | fuel + 1, read, s =>
    (readName (skip s)).bind fun name =>
      match skip name.2 with
      | ':' :: rest =>
        (readValue fuel rest).bind fun p =>
          let read := Fields.insert name.1 p.1 read
          match skip p.2 with
          | '}' :: rest => some (read, rest)
          | ',' :: rest =>
            match skip rest with
            | '}' :: rest => some (read, rest)
            | rest => readEntries fuel read rest
          | _ => none
      | _ => none

end

/-- What a text says. Each call of a reader takes a character or ends, so twice the length of the text
    bounds their nesting. -/
def parse (s : String) : Option Setting :=
  let cs := s.toList
  (readValue (2 * cs.length + 2) cs).bind fun p => if (skip p.2).isEmpty then some p.1 else none

end IdentityServer.Json5
