import IdentityServer.Decimal.Reading
import IdentityServer.Text.Hex
import IdentityServer.Toml.Basic

/-!
# Numbers in TOML

Integers in four bases and doubles. An underscore may stand between two digits, a decimal integer has no
leading zero, and signs are for decimal numbers only. Integers fit a signed word; a double may be too small
for its format but, unless it is negative, not too great.
-/

namespace IdentityServer.Toml

/-- The digits at the start of a text without the underscores between them, and what follows them; nothing
    if an underscore has no digit after it. -/
def readDigits (isDigit : Char → Bool) : List Char → Option (List Char × List Char)
  | '_' :: c :: rest =>
    if isDigit c then (readDigits isDigit rest).map fun p => (c :: p.1, p.2) else none
  | c :: rest =>
    if isDigit c then (readDigits isDigit rest).map fun p => (c :: p.1, p.2)
    else if c = '_' then none
    else some ([], c :: rest)
  | [] => some ([], [])

/-- One or more digits, and what follows them. -/
def readSomeDigits (isDigit : Char → Bool) (s : List Char) : Option (List Char × List Char) :=
  if s.head?.any isDigit then readDigits isDigit s else none

/-- The sign at the start of a text, and what follows it. -/
def readSign : List Char → List Char × List Char
  | '+' :: rest => (['+'], rest)
  | '-' :: rest => (['-'], rest)
  | s => ([], s)

/-- The digits of a decimal integer without a leading zero, and what follows them. -/
def readWhole : List Char → Option (List Char × List Char)
  | '0' :: rest => some (['0'], rest)
  | s => readSomeDigits Char.isDigit s

/-- The point and the digits after it, if there are any. -/
def readFraction : List Char → Option (List Char × List Char)
  | '.' :: rest => (readSomeDigits Char.isDigit rest).map fun p => ('.' :: p.1, p.2)
  | s => some ([], s)

/-- The exponent, if there is one. -/
def readPower : List Char → Option (List Char × List Char)
  | 'e' :: rest | 'E' :: rest =>
    let (sign, rest) := readSign rest
    (readSomeDigits Char.isDigit rest).map fun p => ('e' :: sign ++ p.1, p.2)
  | s => some ([], s)

/-- Whether a character is a digit of a base up to 16. -/
def isDigitOf (base : Nat) (c : Char) : Bool :=
  (Hex.number? base [c]).isSome

/-- An integer in a base up to 16, after its mark. -/
def readBased (base : Nat) (s : List Char) : Option (Value × List Char) := do
  let (digits, rest) ← readSomeDigits (isDigitOf base) s
  return (.int (← Text.toInt64? (← Hex.number? base digits)), rest)

/-- A decimal number: an integer if it has neither a fraction nor an exponent. -/
def readDecimal (s : List Char) : Option (Value × List Char) := do
  let (sign, s) := readSign s
  let (whole, s) ← readWhole s
  let (fraction, s) ← readFraction s
  let (power, s) ← readPower s
  if fraction.isEmpty && power.isEmpty then return (.int (← Text.readInt64 (sign ++ whole)), s)
  let x ← Binary64.read (sign ++ whole ++ fraction ++ power)
  if x = Binary64.infinity false then none else return (.float x, s)

/-- Infinity or the undefined value after a sign, and what follows it. -/
def readNamed (sign : List Char) : List Char → Option (Value × List Char)
  | 'i' :: 'n' :: 'f' :: rest => (Binary64.read (sign ++ ['i', 'n', 'f'])).map (.float ·, rest)
  | 'n' :: 'a' :: 'n' :: rest => (Binary64.read (sign ++ ['n', 'a', 'n'])).map (.float ·, rest)
  | _ => none

/-- A number at the start of a text, and what follows it. -/
def readNumber : List Char → Option (Value × List Char)
  | '0' :: 'x' :: rest => readBased 16 rest
  | '0' :: 'o' :: rest => readBased 8 rest
  | '0' :: 'b' :: rest => readBased 2 rest
  | s =>
    let (sign, rest) := readSign s
    if rest.head?.any Char.isDigit then readDecimal s else readNamed sign rest

end IdentityServer.Toml
