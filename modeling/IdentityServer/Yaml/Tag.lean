import IdentityServer.Text.Bytes
import IdentityServer.Text.Hex
import IdentityServer.Yaml.Token

/-!
# Directives, tags and anchors in YAML

The tokens that say something about a document or about the node behind them.
-/

namespace IdentityServer.Yaml

/-! ### Characters of tags -/

/-- The characters of a URI. -/
def isUriChar (c : Char) : Bool :=
  c.isAlphanum || "-#;/?:@&=+$,_.!~*'()[]%".toList.contains c

/-- The characters of the end of a tag. -/
def isTagChar (c : Char) : Bool :=
  isUriChar c && !isFlowMark c && c ≠ '!'

/-- The number of bytes of the character that starts with a byte. -/
def encodedLength? (first : Nat) : Option Nat :=
  if first < 0x80 then some 1
  else if 0xC0 ≤ first ∧ first < 0xE0 then some 2
  else if 0xE0 ≤ first ∧ first < 0xF0 then some 3
  else if 0xF0 ≤ first ∧ first < 0xF8 then some 4
  else none

/-- The bytes of a number of escapes, and what follows them. -/
def readEscapes : Nat → List Char → Option (Bytes × List Char)
  | 0, s => some ([], s)
  | n + 1, '%' :: a :: b :: rest => do
    let byte ← Hex.number? 16 [a, b]
    let (bytes, rest) ← readEscapes n rest
    return (.ofNat byte :: bytes, rest)
  | _, _ => none

/-- The character whose bytes stand as escapes at the start of a text, and what follows them. -/
def readEscaped (s : List Char) : Option (Char × List Char) := do
  let (first, _) ← readEscapes 1 s
  let (bytes, rest) ← readEscapes (← first.head?.bind fun b => encodedLength? b.toNat) s
  return (← (← ofUtf8? bytes).toList.head?, rest)

/-- The characters that satisfy `p` at the start of a text without escapes, and what follows them. -/
def readUri (p : Char → Bool) : Nat → List Char → Option (List Char × List Char)
  | 0, _ => none
  | fuel + 1, s =>
    match s with
    | '%' :: _ => do
      let (c, rest) ← readEscaped s
      let (more, rest) ← readUri p fuel rest
      return (c :: more, rest)
    | c :: rest =>
      if p c then (readUri p fuel rest).map fun q => (c :: q.1, q.2) else some ([], s)
    | [] => some ([], [])

/-- What satisfies `p` at the start of a text, without escapes, and what follows it. -/
def readUriText (p : Char → Bool) (s : List Char) : Option (List Char × List Char) :=
  readUri p (s.length + 1) s

/-- The cursor in front of the rest of its line. -/
def Cursor.passTo (rest : List Char) (c : Cursor) : Cursor :=
  c.pass (c.rest.length - rest.length)

/-! ### Tags -/

/-- The handle of a tag: two exclamation marks with a name between them, or a single one with what follows
    it. -/
def readHandle : List Char → Option (List Char × List Char)
  | '!' :: rest =>
    let (name, rest) := rest.span isNameChar
    match rest with
    | '!' :: rest => some ('!' :: name ++ ['!'], rest)
    | rest => some ('!' :: name, rest)
  | _ => none

/-- Whether a handle has its two exclamation marks. -/
def isFullHandle (handle : List Char) : Bool :=
  2 ≤ handle.length && handle.getLast? = some '!'

/-- A tag without the check of what follows it. -/
def readTagParts : List Char → Option (Token × List Char)
  | '!' :: '<' :: rest => do
    let (uri, rest) ← readUriText isUriChar rest
    return (.tag "" (String.ofList uri), ← Text.dropStart? ['>'] rest)
  | s => do
    let (handle, rest) ← readHandle s
    let (suffix, rest) ← readUriText isTagChar rest
    if isFullHandle handle then
      if suffix.isEmpty then none else return (.tag (String.ofList handle) (String.ofList suffix), rest)
    else
      let suffix := handle.drop 1 ++ suffix
      if suffix.isEmpty then return (.tag "" "!", rest) else return (.tag "!" (String.ofList suffix), rest)

/-- A tag, and the cursor behind it. -/
def readTag (inFlow : Bool) (c : Cursor) : Option (Token × Cursor) := do
  let (tag, rest) ← readTagParts c.rest
  if atWordEnd rest || (inFlow && rest.head?.any isFlowMark) then return (tag, c.passTo rest) else none

/-! ### Anchors and aliases -/

/-- Whether a character stands in the name of an anchor. -/
def isAnchorChar (c : Char) : Bool :=
  !(isBlank c || isBreak c || isFlowMark c || c.toNat = 0xFEFF)

/-- The name of an anchor behind its mark, and the cursor behind it. -/
def readAnchor (c : Cursor) : Option (String × Cursor) :=
  let name := (c.rest.drop 1).takeWhile isAnchorChar
  if name.isEmpty then none else some (String.ofList name, c.pass (name.length + 1))

/-! ### Directives -/

/-- What follows the two numbers of a version with a point between them. A number has up to nine digits. -/
def dropVersion? (s : List Char) : Option (List Char) := do
  let isShort (digits : List Char) := !digits.isEmpty && digits.length ≤ 9
  let (major, rest) := s.span Char.isDigit
  let (minor, rest) := (← Text.dropStart? ['.'] rest).span Char.isDigit
  if isShort major && isShort minor then return rest else none

/-- The start that a handle stands for, and what follows it. -/
def readTagStart (s : List Char) : Option (List Char × List Char) := do
  let (first, rest) ← match s with
    | '!' :: rest => some (['!'], rest)
    | c :: _ => if isTagChar c then some ([], s) else none
    | [] => none
  let (more, rest) ← readUriText isUriChar rest
  return (first ++ more, rest)

/-- The token of a directive behind its mark, if it has one, and what follows it on the line. -/
def readDirectiveParts (s : List Char) : Option (Option Token × List Char) := do
  let (name, rest) := s.span isNameChar
  if name.isEmpty || !atWordEnd rest then none
  else if name == "YAML".toList then
    return (some .version, ← dropVersion? (rest.dropWhile isBlank))
  else if name == "TAG".toList then
    let (handle, rest) ← readHandle (rest.dropWhile isBlank)
    if handle ≠ ['!'] && !isFullHandle handle then none
    let (start, rest) ← readTagStart (rest.dropWhile isBlank)
    if !atWordEnd rest then none
    return (some (.tagHandle (String.ofList handle) (String.ofList start)), rest)
  else return (none, rest.dropWhile fun c => !isBreak c)

/-- The token of a directive, if it has one, and the cursor behind its line. -/
def readDirective (c : Cursor) : Option (Option Token × Cursor) := do
  let (token, rest) ← readDirectiveParts (c.rest.drop 1)
  let (c, _) ← (c.passTo rest).passToLineEnd?
  if c.next?.any isBreak then return (token, c.passBreak) else none

end IdentityServer.Yaml
