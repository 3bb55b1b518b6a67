import IdentityServer.Configuration.Setting
import IdentityServer.Decimal.Reading
import IdentityServer.Text.Hex

/-!
# Settings in RON

Groups as structures with named fields or as maps with texts for keys, lists as brackets or as structures
without names, texts, characters, numbers, and options, which stand for what is in them. Comments may be
nested. A number that is no integer of 64 bits is a double.
-/

namespace IdentityServer.Ron

/-! ### Layout -/

/-- Whether a character may stand between tokens. -/
def isSpace (c : Char) : Bool :=
  c = ' ' || c = '\t' || c = '\n' || c = '\r'

/-- The text without the spaces and comments at its start. It may start in a comment: in one that ends with
    the line, or in `depth` comments inside one another. A comment without its end is left with its first
    character. -/
def skipLayout : (line : Bool) → (depth : Nat) → List Char → List Char
  | true, _, [] | false, 0, [] => []
  | true, _, c :: rest => skipLayout (c ≠ '\n') 0 rest
  | false, 0, '/' :: '/' :: rest => skipLayout true 0 rest
  | false, 0, '/' :: '*' :: rest => skipLayout false 1 rest
  | false, 0, c :: rest => if isSpace c then skipLayout false 0 rest else c :: rest
  | false, _ + 1, [] => ['/']
  | false, depth + 1, '/' :: '*' :: rest => skipLayout false (depth + 2) rest
  | false, depth + 1, '*' :: '/' :: rest => skipLayout false depth rest
  | false, depth + 1, _ :: rest => skipLayout false (depth + 1) rest

/-- The text without what stands before the next token. -/
def skip (s : List Char) : List Char :=
  skipLayout false 0 s

/-! ### Names -/

/-- Whether a character starts a name. -/
def startsName (c : Char) : Bool :=
  c.isAlpha || c = '_'

/-- Whether a character continues a name. -/
def isNameChar (c : Char) : Bool :=
  c.isAlphanum || c = '_'

/-- Whether a character stands in a raw name. -/
def isRawNameChar (c : Char) : Bool :=
  isNameChar c || c = '.' || c = '+' || c = '-'

/-- A name at the start of a text, and what follows it. Behind `r#`, a raw name may hold points and signs; a
    plain one has none after it. -/
def readName (s : List Char) : Option (List Char × List Char) :=
  match s with
  | 'r' :: '"' :: _ => none
  | 'r' :: '#' :: rest =>
    let (name, rest) := rest.span isRawNameChar
    if name.isEmpty then none else some (name, rest)
  | c :: _ =>
    let (name, rest) := s.span isNameChar
    if startsName c && !rest.head?.any isRawNameChar then some (name, rest) else none
  | [] => none

/-- What follows a word that stands at the start of a text as a whole. -/
def dropWord? (word : String) (s : List Char) : Option (List Char) :=
  (Text.dropStart? word.toList s).bind fun rest => if rest.head?.any isNameChar then none else some rest

/-! ### Texts -/

/-- The character that an escape of a letter alone stands for. -/
def unescape? : Char → Option Char
  | '\'' => some '\''
  | '"' => some '"'
  | '\\' => some '\\'
  | 'n' => some '\n'
  | 'r' => some '\r'
  | 't' => some '\t'
  | '0' => some '\x00'
  | _ => none

/-- The character of a hexadecimal number of one to six digits. -/
def charOf? (digits : List Char) : Option Char := do
  if digits.isEmpty || 6 < digits.length then none
  else
    let n ← Hex.number? 16 digits
    if h : n.isValidChar then some (Char.ofNatAux n h) else none

/-- The character of an escape after its backslash, and what follows it. -/
def readEscape : List Char → Option (Char × List Char)
  | 'x' :: a :: b :: rest => (charOf? [a, b]).map (·, rest)
  | 'u' :: '\x7b' :: rest => do
    let (digits, after) := rest.span (· ≠ '\x7d')
    return (← charOf? digits, ← Text.dropStart? ['\x7d'] after)
  | c :: rest => (unescape? c).map (·, rest)
  | [] => none

/-- A text up to its quote, and what follows the quote. Every step takes a character. -/
def readText : Nat → List Char → Option (List Char × List Char)
  | fuel + 1, '"' :: rest => if fuel = 0 then none else some ([], rest)
  | fuel + 1, '\\' :: rest => do
    let (c, rest) ← readEscape rest
    let (text, rest) ← readText fuel rest
    return (c :: text, rest)
  | fuel + 1, c :: rest => (readText fuel rest).map fun p => (c :: p.1, p.2)
  | _, _ => none

/-- A raw text up to a quote with the number signs behind it that stood before the text, and what follows
    them. -/
def readRaw (signs : List Char) : List Char → Option (List Char × List Char)
  | [] => none
  | c :: rest =>
    match Text.dropStart? ('"' :: signs) (c :: rest) with
    | some after => some ([], after)
    | none => (readRaw signs rest).map fun p => (c :: p.1, p.2)

/-- A text or a character with its quotes, and what follows it. -/
def readQuoted : List Char → Option (Setting × List Char)
  | '"' :: rest => (readText (rest.length + 2) rest).map fun p => (.text (String.ofList p.1), p.2)
  | 'r' :: rest => do
    let (signs, rest) := rest.span (· = '#')
    let (text, rest) ← readRaw signs (← Text.dropStart? ['"'] rest)
    return (.text (String.ofList text), rest)
  | '\'' :: '\\' :: rest => do
    let (c, rest) ← readEscape rest
    return (.text c.toString, ← Text.dropStart? ['\''] rest)
  | '\'' :: c :: '\'' :: rest => if c = '\'' then none else some (.text c.toString, rest)
  | _ => none

/-! ### Numbers -/

/-- Whether a character stands in a double. -/
def isFloatChar (c : Char) : Bool :=
  c.isDigit || c = 'e' || c = 'E' || c = '.' || c = '+' || c = '-' || c = '_'

/-- Whether a character stands in an integer of any base. -/
def isIntegerChar (c : Char) : Bool :=
  (Hex.value? c).isSome || c = '_'

/-- A double, and what follows it. -/
def readFloat (s : List Char) : Option (Setting × List Char) :=
  match dropWord? "inf" s, dropWord? "+inf" s, dropWord? "+NaN" s, dropWord? "-NaN" s with
  | some rest, _, _, _ | _, some rest, _, _ => some (.float (Binary64.infinity false), rest)
  | _, _, some rest, _ | _, _, _, some rest => some (.float Binary64.undefined, rest)
  | none, none, none, none =>
    let (literal, rest) := s.span isFloatChar
    if literal.contains '_' then none else (Binary64.read literal).map (.float ·, rest)

/-- The base of an integer by its first characters, and its digits. -/
def readBase : List Char → Nat × List Char
  | '0' :: 'x' :: rest => (16, rest)
  | '0' :: 'o' :: rest => (8, rest)
  | '0' :: 'b' :: rest => (2, rest)
  | s => (10, s)

/-- The number of digits with underscores behind them, and what follows it. -/
def readDigits (s : List Char) : Option (Nat × List Char) := do
  let (base, s) := readBase s
  let (digits, rest) := s.span isIntegerChar
  if digits.isEmpty || digits.head? == some '_' then none
  else return (← Hex.number? base (digits.filter (· ≠ '_')), rest)

/-- An integer, and what follows it. One with a sign fits a signed word; one without a sign fits an unsigned
    word, and is a double if no signed word holds it. -/
def readInteger : List Char → Option (Setting × List Char)
  | '-' :: s => do
    let (n, rest) ← readDigits s
    return (.int (← Text.toInt64? (-(n : Int))), rest)
  | '+' :: s => do
    let (n, rest) ← readDigits s
    return (.int (← Text.toInt64? n), rest)
  | s => do
    let (n, rest) ← readDigits s
    match Text.toInt64? n with
    | some n => return (.int n, rest)
    | none => if n < UInt64.size then return (.float (Binary64.ofDecimal false n 0), rest) else none

/-- Whether a number looks like a double: more characters of one stand in it than of an integer. -/
def looksFloat (s : List Char) : Bool :=
  let s := match s with
    | '+' :: rest | '-' :: rest => rest
    | _ => s
  (s.takeWhile isIntegerChar).length < (s.takeWhile isFloatChar).length

/-- A number, and what follows it. -/
def readNumber (s : List Char) : Option (Setting × List Char) :=
  if looksFloat s then readFloat s else (readInteger s).or (readFloat s)

/-! ### Values -/

/-- The text without a comma and what stands around it, and whether there was one. -/
def dropComma (s : List Char) : Bool × List Char :=
  match skip s with
  | ',' :: rest => (true, skip rest)
  | s => (false, s)

/-- Whether the first field of a structure has a name, from what follows its parenthesis. -/
def hasNames (s : List Char) : Bool :=
  match readName s with
  | some (_, rest) => (skip rest).head? == some ':'
  | none => false

/-- The name of an entry of a map. -/
def keyOf? : Setting → Option String
  | .text s => some s
  | _ => none

mutual

/-- A value, and what follows it, with `depth` more values around one another. -/
def readValue : Nat → Nat → List Char → Option (Setting × List Char)
  | 0, _, _ => none
  | fuel + 1, depth, s =>
    match dropWord? "true" s, dropWord? "false" s, dropWord? "Some" s, dropWord? "None" s with
    | some rest, _, _, _ => some (.flag true, rest)
    | _, some rest, _, _ => some (.flag false, rest)
    | _, _, some rest, _ =>
      match depth, skip rest with
      | depth + 1, '(' :: rest =>
        (readValue fuel depth (skip rest)).bind fun p =>
          (Text.dropStart? [')'] (dropComma p.2).2).map fun rest => (p.1, rest)
      | _, _ => none
    | _, _, _, some rest => some (.unset, rest)
    | none, none, none, none =>
      match s, dropWord? "inf" s, dropWord? "-inf" s, dropWord? "NaN" s with
      | '(' :: ')' :: rest, _, _, _ => some (.unset, rest)
      | _, some rest, _, _ => some (.float (Binary64.infinity false), rest)
      | _, _, some rest, _ => some (.float (Binary64.infinity true), rest)
      | _, _, _, some rest => some (.float Binary64.undefined, rest)
      | _, none, none, none =>
        match readName s with
        | some (_, rest) => readStructure fuel depth (skip rest)
        | none =>
          match s with
          | '(' :: _ => readStructure fuel depth s
          | '[' :: rest => (readItems fuel depth ']' rest).map fun p => (.list p.1, p.2)
          | '\x7b' :: rest => (readEntries fuel depth '\x7d' [] rest).map fun p => (.group p.1, p.2)
          | c :: _ =>
            if c.isDigit || c = '+' || c = '-' || c = '.' then readNumber s else readQuoted s
          | [] => none

/-- A structure after its name, and what follows it. One without parentheses says nothing. -/
def readStructure : Nat → Nat → List Char → Option (Setting × List Char)
  | fuel + 1, depth, '(' :: rest =>
    if hasNames (skip rest) then (readEntries fuel depth ')' [] rest).map fun p => (.group p.1, p.2)
    else (readItems fuel depth ')' rest).map fun p => (.list p.1, p.2)
  | 0, _, _ => none
  | _, _, s => some (.unset, s)

/-- Items with commas between them, perhaps one more, and the closing bracket. -/
def readItems : Nat → Nat → Char → List Char → Option (List Setting × List Char)
  | 0, _, _, _ => none
  | fuel + 1, depth, closing, s =>
    match skip s, depth with
    | [], _ => none
    | c :: rest, depth =>
      if c = closing then some ([], rest)
      else
        match depth with
        | 0 => none
        | inner + 1 =>
          (readValue fuel inner (c :: rest)).bind fun p =>
            match dropComma p.2 with
            | (true, rest) => (readItems fuel depth closing rest).map fun q => (p.1 :: q.1, q.2)
            | (false, rest) => (Text.dropStart? [closing] rest).map fun rest => ([p.1], rest)

/-- Entries with commas between them, perhaps one more, and the closing bracket, added to the entries read
    before. In parentheses their keys are names, in braces they are values. -/
def readEntries : Nat → Nat → Char → Fields Setting → List Char → Option (Fields Setting × List Char)
  | 0, _, _, _, _ => none
  | fuel + 1, depth, closing, read, s =>
    match skip s, depth with
    | [], _ => none
    | c :: rest, depth =>
      if c = closing then some (read, rest)
      else
        match depth with
        | 0 => none
        | inner + 1 =>
          let key :=
            if closing = ')' then (readName (c :: rest)).map fun p => (String.ofList p.1, p.2)
            else (readValue fuel inner (c :: rest)).bind fun p => (keyOf? p.1).map (·, p.2)
          key.bind fun key =>
            (Text.dropStart? [':'] (skip key.2)).bind fun rest =>
              (readValue fuel inner (skip rest)).bind fun p =>
                let read := Fields.insert key.1 p.1 read
                match dropComma p.2 with
                | (true, rest) => readEntries fuel depth closing read rest
                | (false, rest) => (Text.dropStart? [closing] rest).map fun rest => (read, rest)

end

/-! ### Files -/

/-- The ways of reading that a file may ask for. They concern what no setting is. -/
def extensions : List String :=
  ["unwrap_newtypes", "implicit_some", "unwrap_variant_newtypes"]

/-- What follows tokens with layout between them and after them. -/
def dropTokens? : List String → List Char → Option (List Char)
  | [], s => some s
  | token :: rest, s => (Text.dropStart? token.toList s).bind fun s => dropTokens? rest (skip s)

/-- What follows a list of extensions, without its closing parenthesis. -/
def dropExtensions? : Nat → List Char → Option (List Char)
  | 0, _ => none
  | fuel + 1, s => do
    let (name, rest) ← readName s
    if !extensions.contains (String.ofList name) then none
    else
      match dropComma rest with
      | (true, rest) => if rest.head?.any isNameChar then dropExtensions? fuel rest else some rest
      | (false, rest) => some rest

/-- The text without the attributes at its start. -/
def dropAttributes? : Nat → List Char → Option (List Char)
  | fuel + 1, '#' :: rest => do
    let s ← dropTokens? ["#", "!", "[", "enable", "("] ('#' :: rest)
    let s ← dropTokens? [")", "]"] (skip (← dropExtensions? s.length s))
    dropAttributes? fuel s
  | 0, _ => none
  | _, s => some s

/-- How many values may be around a value. -/
def depthLimit : Nat := 128

/-- What a text says. Each call of a reader takes a character or ends within two more calls, so three times
    the length of the text bounds their nesting. -/
def parse (s : String) : Option Setting := do
  let s ← dropAttributes? (s.length + 1) (skip s.toList)
  let (value, rest) ← readValue (3 * s.length + 3) depthLimit s
  if (skip rest).isEmpty then some value else none

end IdentityServer.Ron
