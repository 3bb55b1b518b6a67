import IdentityServer.Yaml.Scalar
import IdentityServer.Yaml.Tag

/-!
# Reading the tokens of YAML

Tokens are read from left to right. What turns out to be a key is known only at the colon behind it, so the
tokens that open a key are put in front of what was read as a text before. The indentation of a block opens
and closes its collection.
-/

namespace IdentityServer.Yaml

/-! ### State -/

/-- A token that becomes a key if a colon follows. -/
structure PossibleKey where
  isPossible : Bool := false
  /-- Whether it has to be a key, for nothing else may stand there. -/
  isRequired : Bool := false
  /-- The number of tokens before it. -/
  token : Nat := 0
  line : Nat := 0
  column : Nat := 0
  index : Nat := 0

/-- An indentation. -/
structure Indentation where
  /-- The indentation around it. -/
  outer : Int
  /-- Whether a collection starts with it. -/
  isBlock : Bool

/-- How far a text is read. -/
structure Reading where
  cursor : Cursor
  tokens : Array Token := #[]
  /-- The column of the last token, if it is an anchor or a tag. -/
  property : Option Nat := none
  /-- Where a colon may stand without a blank behind it. -/
  adjacent : Nat := 0
  keyAllowed : Bool := true
  /-- The possible key of each collection in brackets that is open, and of what is around them. -/
  keys : List PossibleKey := [{}]
  indent : Int := -1
  indents : List Indentation := []
  /-- Whether a key in brackets belongs to braces, or to a mapping that has its token already. -/
  inMapping : Bool := false
  /-- Whether a mapping without braces is open in a sequence. -/
  inPair : Bool := false

namespace Reading

/-- Whether a collection in brackets is open. -/
def inFlow (s : Reading) : Bool :=
  1 < s.keys.length

/-- The state with one more token. -/
def push (token : Token) (s : Reading) : Reading :=
  { s with tokens := s.tokens.push token, property := none }

/-- The state with a token before those from a number on. -/
def insert (n : Nat) (token : Token) (s : Reading) : Reading :=
  { s with tokens := s.tokens.insertIdxIfInBounds n token }

/-- The next character and the one behind it. -/
def next? (s : Reading) : Option Char :=
  s.cursor.next?

/-- What follows the next character. -/
def behind (s : Reading) : List Char :=
  s.cursor.rest.drop 1

/-- The state behind the next character. -/
def skip (s : Reading) : Reading :=
  { s with cursor := s.cursor.pass 1 }

/-- The state behind blanks and a comment. -/
def skipToLineEnd? (s : Reading) : Option Reading :=
  s.cursor.passToLineEnd?.map fun p => { s with cursor := p.1 }

/-! ### Keys -/

/-- The state after the possible keys have changed. A key that is required stays possible. -/
def dropKeys? (drops : PossibleKey → Bool) (s : Reading) : Option Reading :=
  if s.keys.any fun k => drops k && k.isPossible && k.isRequired then none
  else
    some { s with keys := s.keys.map fun k => if drops k then { k with isPossible := false } else k }

/-- How many characters a key has at most. -/
def longestKey : Nat := 1024

/-- Outside of brackets, a key stands on one line and is not long. -/
def dropOldKeys? (s : Reading) : Option Reading :=
  if s.inFlow then some s
  else s.dropKeys? fun k => k.line < s.cursor.line || k.index + longestKey < s.cursor.index

/-- What was read in the innermost collection is no key. -/
def dropKey? (s : Reading) : Option Reading :=
  match s.keys with
  | [] => some s
  | k :: rest =>
    if k.isPossible && k.isRequired then none else some { s with keys := { k with isPossible := false } :: rest }

/-- The next token may be a key, if one may stand here. -/
def saveKey (s : Reading) : Reading :=
  if s.keyAllowed then
    let required := !s.inFlow && s.indent = s.cursor.column && s.indents.head?.any Indentation.isBlock
    let key := ⟨true, required, s.tokens.size, s.cursor.line, s.cursor.column, s.cursor.index⟩
    { s with keys := key :: s.keys.drop 1 }
  else s

/-- The state in which a key may stand next, or not. -/
def allowKey (keyAllowed : Bool) (s : Reading) : Reading :=
  { s with keyAllowed }

/-! ### Indentation -/

/-- Closes the blocks that are indented further than a column. -/
def unroll (column : Int) (s : Reading) : List Indentation → Reading
  | [] => s
  | i :: rest =>
    if s.indent ≤ column then { s with indents := i :: rest }
    else
      let s := { s with indent := i.outer, indents := rest }
      unroll column (if i.isBlock then s.push .blockEnd else s) rest

/-- Closes the blocks that are indented further than a column; in brackets there are none. -/
def unrollTo (column : Int) (s : Reading) : Reading :=
  if s.inFlow then s else s.unroll column s.indents

/-- Forgets the indentations at the end that start no collection. -/
def unrollPlain (s : Reading) : Reading :=
  let plain := s.indents.takeWhile fun i => !i.isBlock
  { s with indent := (plain.getLast?.map Indentation.outer).getD s.indent, indents := s.indents.drop plain.length }

/-- Opens a block with a token at a column, in front of the tokens from a number on, unless it is open. -/
def roll (column : Int) (n : Nat) (token : Token) (s : Reading) : Reading :=
  if s.inFlow then s
  else
    let s := match s.indents with
      | i :: rest => if s.indent ≤ column && !i.isBlock then { s with indent := i.outer, indents := rest } else s
      | [] => s
    if s.indent < column then
      { s with indents := ⟨s.indent, true⟩ :: s.indents, indent := column }.insert n token
    else s

/-- What follows is indented by one more column. -/
def rollOne (s : Reading) : Reading :=
  if !s.inFlow && s.indents.head?.any Indentation.isBlock then
    { s with indents := ⟨s.indent, false⟩ :: s.indents, indent := s.indent + 1 }
  else s

/-! ### Tokens -/

/-- Passes what stands before the next token. -/
def skipToToken? : Nat → Reading → Option Reading
  | 0, _ => none
  | fuel + 1, s =>
    match s.next? with
    | none => some s
    | some x =>
      if x = '\t' && !s.indents.isEmpty && s.cursor.leads && s.cursor.column < s.indent then
        match s.skipToLineEnd? with
        | some s => if s.cursor.atLineEnd then skipToToken? fuel s else none
        | none => none
      else if isBlank x then skipToToken? fuel { s with cursor := s.cursor.passBlanks 1 }
      else if isBreak x then
        let s := { s with cursor := s.cursor.passBreak }
        skipToToken? fuel (if s.inFlow then s else s.allowKey true)
      else if x = '#' then skipToToken? fuel { s with cursor := s.cursor.passLine }
      else some s

/-- Closes a mapping without braces. -/
def endPair (s : Reading) : Reading :=
  if s.inPair then { s with inPair := false, inMapping := false }.push .flowMappingEnd else s

/-- Reads a directive. -/
def directive? (s : Reading) : Option Reading := do
  let s ← (s.unrollTo (-1)).dropKey?
  let (token, cursor) ← readDirective s.cursor
  let s := { s.allowKey false with cursor }
  return match token with
    | some token => s.push token
    | none => s

/-- Reads the marks that start or end a document. -/
def document? (token : Token) (s : Reading) : Option Reading := do
  let s ← (s.unrollTo (-1)).dropKey?
  return { s.allowKey false with cursor := s.cursor.pass 3 }.push token

/-- Reads the start of a collection in brackets. -/
def flowStart? (token : Token) (s : Reading) : Option Reading := do
  let s := s.saveKey.rollOne
  let s := { s with keys := {} :: s.keys, keyAllowed := true, inMapping := s.inMapping || token = Token.flowMapping }
  let s ← s.skip.skipToLineEnd?
  return s.push token

/-- Reads the end of a collection in brackets. -/
def flowEnd? (token : Token) (s : Reading) : Option Reading := do
  let s ← s.dropKey?
  let s := if s.inFlow then { s with keys := s.keys.drop 1 } else s
  let s ← (s.allowKey false).endPair.skip.skipToLineEnd?
  return { s with adjacent := if s.inFlow then s.cursor.index else s.adjacent }.push token

/-- Reads a comma. -/
def flowEntry? (s : Reading) : Option Reading := do
  let s ← s.dropKey?
  let s ← (s.allowKey true).endPair.skip.skipToLineEnd?
  return s.push .flowEntry

/-- Reads the hyphen of an entry. -/
def blockEntry? (s : Reading) : Option Reading := do
  let column := s.cursor.column
  if s.inFlow || !s.keyAllowed then none
  if s.property = some 0 && column = 0 && -1 < s.indent then none
  let s := s.skip.roll column s.tokens.size .blockSequence
  let (cursor, blanks) ← s.cursor.passToLineEnd?
  let s := { s with cursor }
  if blanks.contains '\t' && s.next? = some '-' && atWordEnd s.behind then none
  let s := if s.next?.any fun c => isBreak c || isFlowMark c then s.rollOne else s
  return ((← s.dropKey?).allowKey true).push .blockEntry

/-- Reads the question mark of a key. -/
def key? (s : Reading) : Option Reading := do
  if !s.inFlow && !s.keyAllowed then none
  let s := if s.inFlow then { s with inMapping := true } else s.roll s.cursor.column s.tokens.size .blockMapping
  let s := ((← s.dropKey?).allowKey !s.inFlow).skip
  let spaces := (s.cursor.rest.takeWhile (· = ' ')).length
  let s := { s with cursor := s.cursor.passBlanks spaces }
  if s.next? = some '\t' then none
  return s.push .key

/-- Reads the colon of a value. What may be a key before it is one. -/
def value? (s : Reading) : Option Reading := do
  let key := s.keys.headD {}
  let start := s.cursor
  let isPair := s.inFlow && !s.inMapping
  let s := { s with inPair := isPair }.skip
  let s ← if s.next? = some '\t' then do
      let (cursor, blanks) ← s.cursor.passToLineEnd?
      if !blanks.contains ' ' && cursor.next?.any isNameChar then none
      pure { s with cursor }
    else pure s
  if key.isPossible then
    if isPair && key.line < start.line then none
    let s := s.insert key.token .key
    let s := if isPair then s.insert key.token .flowMapping else s
    let s := (s.roll key.column key.token .blockMapping).rollOne
    return ({ s with keys := { key with isPossible := false } :: s.keys.drop 1 }.allowKey false).push .value
  else
    let s := if isPair then s.push .flowMapping else s
    if !s.inFlow && !s.keyAllowed then none
    let s := (s.roll start.column s.tokens.size .blockMapping).rollOne
    return (s.allowKey !s.inFlow).push .value

/-- Reads an anchor, an alias or a tag. -/
def property? (read : Cursor → Option (Token × Cursor)) (s : Reading) : Option Reading := do
  let column := s.cursor.column
  let s := s.saveKey.allowKey false
  let (token, cursor) ← read s.cursor
  let isProperty := !(token matches .alias _)
  return { s.push token with cursor, property := if isProperty then some column else none }

/-- Reads a block of lines. -/
def block? (folds : Bool) (s : Reading) : Option Reading := do
  let s := (s.saveKey.allowKey true).skip.unrollPlain
  let (text, cursor) ← readBlock folds s.indent s.cursor
  return { s with cursor }.push (.scalar false (String.ofList text))

/-- Whether something else than a text may stand behind a text in quotes. -/
def mayFollowQuote (line : Nat) (s : Reading) : Bool :=
  match s.next? with
  | none => true
  | some ':' => s.inFlow || line = s.cursor.line
  | some c => isBreak c || (s.inFlow && (c = ',' || c = ']' || c = '\x7d'))

/-- Reads a text in quotes. -/
def quoted? (quote : Char) (s : Reading) : Option Reading := do
  let line := s.cursor.line
  let s := s.saveKey.allowKey false
  let (text, cursor) ← readQuoted quote s.indent (s.cursor.rest.length + 1) (s.cursor.pass 1)
  let s ← { s with cursor }.skipToLineEnd?
  if !s.mayFollowQuote line then none
  let s ← s.skipToToken? (s.cursor.rest.length + 1)
  return { s with adjacent := s.cursor.index }.push (.scalar false (String.ofList text))

/-- Reads a text without quotes. -/
def plain? (s : Reading) : Option Reading := do
  let s := (s.saveKey.allowKey false).unrollPlain
  let (text, cursor) ← readPlain s.inFlow (s.indent + 1) s.cursor
  let s := if cursor.leads then s.allowKey true else s
  return { s with cursor }.push (.scalar true (String.ofList text))

/-- Reads the token that starts with a character. -/
def token? (c : Char) (s : Reading) : Option Reading :=
  let wordEnds := atWordEnd s.behind
  match c with
  | '[' => s.flowStart? .flowSequence
  | '\x7b' => s.flowStart? .flowMapping
  | ']' => s.flowEnd? .flowSequenceEnd
  | '\x7d' => s.flowEnd? .flowMappingEnd
  | ',' => s.flowEntry?
  | '*' => s.property? fun c => (readAnchor c).map fun p => (.alias p.1, p.2)
  | '&' => s.property? fun c => (readAnchor c).map fun p => (.anchor p.1, p.2)
  | '!' => s.property? (readTag s.inFlow)
  | '\'' | '"' => s.quoted? c
  | '%' | '@' => none
  | _ =>
    if c = Char.ofNat 0x60 then none
    else if c = '-' && wordEnds then s.blockEntry?
    else if c = '?' && wordEnds then s.key?
    else if c = ':' && (wordEnds || (s.inFlow && (s.behind.head?.any isFlowMark || s.cursor.index = s.adjacent)))
      then s.value?
    else if c = '|' && !s.inFlow then s.block? false
    else if c = '>' && !s.inFlow then s.block? true
    else s.plain?

/-- Reads the next token with what stands before it. At the end, all blocks are closed. -/
def step? (s : Reading) : Option Reading := do
  let s ← (← s.skipToToken? (s.cursor.rest.length + 1)).dropOldKeys?
  let s := s.unrollTo s.cursor.column
  match s.next? with
  | none =>
    let s ← s.dropKeys? fun _ => true
    return s.unrollTo (-1)
  | some c =>
    if s.cursor.column = 0 && c = '%' then s.directive?
    else if s.cursor.atMarks '-' then s.document? .documentStart
    else if s.cursor.atMarks '.' then
      let s ← (← s.document? .documentEnd).skipToLineEnd?
      if s.cursor.atLineEnd then return s else none
    else if s.cursor.column < s.indent then none
    else s.token? c

/-- Reads all tokens. -/
def run? : Nat → Reading → Option (Array Token)
  | 0, _ => none
  | fuel + 1, s =>
    s.step?.bind fun after =>
      if after.cursor.rest.isEmpty then after.step?.map Reading.tokens else run? fuel after

end Reading

/-- The tokens of a text, which ends at the first zero character. Each step takes a character. -/
def tokens? (s : String) : Option (List Token) :=
  let rest := s.toList.takeWhile (· ≠ '\x00')
  (Reading.run? (rest.length + 1) { cursor := { rest } }).map Array.toList

end IdentityServer.Yaml
