import IdentityServer.Json.Number
import IdentityServer.Text.Hex

/-!
# Written JSON

What a JSON text consists of, before it is known which value it denotes: literals are kept as they are
written, and fields in their order with their repetitions. The grammar is strict: one value with blanks
around it, no trailing comma, no leading zero, no control characters in texts.
-/

namespace IdentityServer.Json

/-- A value as it is written. Texts stand as between their quotes, escapes included. -/
inductive Source where
  | null
  | bool (value : Bool)
  | number (literal : NumberLiteral)
  | text (written : List Char)
  | arr (items : List Source)
  | obj (fields : List (List Char × Source))

/-! ### Texts -/

/-- The number of four hexadecimal digits. -/
def hex4? (a b c d : Char) : Option Nat := do
  let a ← Hex.value? a
  let b ← Hex.value? b
  let c ← Hex.value? c
  let d ← Hex.value? d
  return ((a * 16 + b) * 16 + c) * 16 + d

/-- The character that a letter after a backslash stands for. -/
def unescape? : Char → Option Char
  | '"' => some '"'
  | '\\' => some '\\'
  | '/' => some '/'
  | 'b' => some '\x08'
  | 'f' => some '\x0c'
  | 'n' => some '\n'
  | 'r' => some '\r'
  | 't' => some '\t'
  | _ => none

/-- What is written up to a closing quote, and what follows the quote. -/
def readWritten : List Char → Option (List Char × List Char)
  | [] => none
  | '"' :: rest => some ([], rest)
  | '\\' :: 'u' :: a :: b :: c :: d :: rest =>
    if (hex4? a b c d).isSome then
      (readWritten rest).map fun p => ('\\' :: 'u' :: a :: b :: c :: d :: p.1, p.2)
    else none
  | '\\' :: c :: rest =>
    if (unescape? c).isSome then (readWritten rest).map fun p => ('\\' :: c :: p.1, p.2) else none
  | c :: rest =>
    if c.toNat < 0x20 || c = '\\' then none
    else (readWritten rest).map fun p => (c :: p.1, p.2)

/-- The text that is written so. After the escape of a high surrogate, `high` holds its number, and the
    escape of a low surrogate has to follow; a low one does not stand elsewhere. -/
def textFrom? : Option Nat → List Char → Option (List Char)
  | some high, '\\' :: 'u' :: a :: b :: c :: d :: rest =>
    (hex4? a b c d).bind fun low =>
      if 0xDC00 ≤ low && low < 0xE000 then
        (textFrom? none rest).map (Char.ofNat (0x10000 + (high - 0xD800) * 0x400 + (low - 0xDC00)) :: ·)
      else none
  | some _, _ => none
  | none, [] => some []
  | none, '\\' :: 'u' :: a :: b :: c :: d :: rest =>
    (hex4? a b c d).bind fun n =>
      if 0xD800 ≤ n && n < 0xDC00 then textFrom? (some n) rest
      else if 0xDC00 ≤ n && n < 0xE000 then none
      else (textFrom? none rest).map (Char.ofNat n :: ·)
  | none, '\\' :: c :: rest => (unescape? c).bind fun c => (textFrom? none rest).map (c :: ·)
  | none, c :: rest => (textFrom? none rest).map (c :: ·)

/-- The text that is written so between quotes. -/
def textOf? (written : List Char) : Option String :=
  (textFrom? none written).map String.ofList

/-! ### The grammar -/

/-- The text without the blanks that may stand between tokens at its start. -/
def skipBlanks : List Char → List Char
  | ' ' :: rest | '\n' :: rest | '\t' :: rest | '\r' :: rest => skipBlanks rest
  | s => s

namespace Source

mutual

/-- A value at the start of a text, and what follows it, with `depth` more brackets allowed. -/
def readValue : Nat → Nat → List Char → Option (Source × List Char)
  | 0, _, _ => none
  | fuel + 1, depth, s =>
    match skipBlanks s with
    | 'n' :: 'u' :: 'l' :: 'l' :: rest => some (.null, rest)
    | 't' :: 'r' :: 'u' :: 'e' :: rest => some (.bool true, rest)
    | 'f' :: 'a' :: 'l' :: 's' :: 'e' :: rest => some (.bool false, rest)
    | '"' :: rest => (readWritten rest).map fun p => (.text p.1, p.2)
    | '[' :: rest =>
      match depth with
      | 0 => none
      | depth + 1 =>
        match skipBlanks rest with
        | ']' :: rest => some (.arr [], rest)
        | rest => (readItems fuel depth rest).map fun p => (.arr p.1, p.2)
    | '{' :: rest =>
      match depth with
      | 0 => none
      | depth + 1 =>
        match skipBlanks rest with
        | '}' :: rest => some (.obj [], rest)
        | rest => (readFields fuel depth rest).map fun p => (.obj p.1, p.2)
    | s => (literal? s).map fun p => (.number p.1, p.2)

/-- One or more items and the closing bracket. -/
def readItems : Nat → Nat → List Char → Option (List Source × List Char)
  | 0, _, _ => none
  | fuel + 1, depth, s =>
    (readValue fuel depth s).bind fun p =>
      match skipBlanks p.2 with
      | ']' :: rest => some ([p.1], rest)
      | ',' :: rest => (readItems fuel depth rest).map fun q => (p.1 :: q.1, q.2)
      | _ => none

/-- One or more fields and the closing brace. -/
def readFields : Nat → Nat → List Char → Option (List (List Char × Source) × List Char)
  | 0, _, _ => none
  | fuel + 1, depth, s =>
    match skipBlanks s with
    | '"' :: rest =>
      (readWritten rest).bind fun name =>
        match skipBlanks name.2 with
        | ':' :: rest =>
          (readValue fuel depth rest).bind fun p =>
            match skipBlanks p.2 with
            | '}' :: rest => some ([(name.1, p.1)], rest)
            | ',' :: rest => (readFields fuel depth rest).map fun q => ((name.1, p.1) :: q.1, q.2)
            | _ => none
        | _ => none
    | _ => none

end

/-- What a whole text consists of, with at most `depth` brackets inside one another. Each call below reads
    at least one character or ends, so twice the length of the text bounds their nesting. -/
def read (depth : Nat) (s : String) : Option Source :=
  let cs := s.toList
  (readValue (2 * cs.length + 2) depth cs).bind fun p =>
    if (skipBlanks p.2).isEmpty then some p.1 else none

/-! ### Values -/

mutual

/-- The greatest number of brackets inside one another. -/
def depth : Source → Nat
  | .arr items => itemsDepth items + 1
  | .obj fields => fieldsDepth fields + 1
  | _ => 0

/-- The greatest depth of items. -/
def itemsDepth : List Source → Nat
  | [] => 0
  | item :: rest => max item.depth (itemsDepth rest)

/-- The greatest depth of the values of fields. -/
def fieldsDepth : List (List Char × Source) → Nat
  | [] => 0
  | (_, value) :: rest => max value.depth (fieldsDepth rest)

end

mutual

/-- The value that is denoted, unless a number is too great or a surrogate stands alone. Of fields with the
    same name the last one stays. -/
def value? : Source → Option Json
  | .null => some .null
  | .bool b => some (.bool b)
  | .number l => l.value?
  | .text written => (textOf? written).map .str
  | .arr items => (itemValues? items).map .arr
  | .obj fields => (fieldValues? fields).map .ofFields

/-- The values of items. -/
def itemValues? : List Source → Option (List Json)
  | [] => some []
  | item :: rest => item.value?.bind fun v => (itemValues? rest).map (v :: ·)

/-- The names and values of fields. -/
def fieldValues? : List (List Char × Source) → Option (List (String × Json))
  | [] => some []
  | (name, value) :: rest =>
    (textOf? name).bind fun name => value.value?.bind fun v => (fieldValues? rest).map ((name, v) :: ·)

end

end Source

end IdentityServer.Json
