import IdentityServer.Text.Hex
import IdentityServer.Yaml.Cursor

/-!
# Texts in YAML

Texts without quotes, with quotes, and in blocks of indented lines. Where a text goes over several lines, a
single line end between two of them counts as a blank, and of several the first one does not count.
-/

namespace IdentityServer.Yaml

/-! ### Gaps -/

/-- What stands between two words of a text: blanks, or line ends. -/
structure Gap where
  /-- The blanks before the first line end, the last one first. -/
  blanks : List Char := []
  /-- Whether there was a line end that counts as a blank if no other follows. -/
  folds : Bool := false
  /-- The number of other line ends. -/
  breaks : Nat := 0

/-- The text that the line ends of a gap stand for. -/
def Gap.lines (g : Gap) : List Char :=
  if g.folds && g.breaks = 0 then [' '] else List.replicate g.breaks '\n'

/-! ### Without quotes -/

/-- Whether a text without quotes goes on with the next character. A colon at the end of a word ends it, and
    so do the marks of collections in brackets. -/
def goesOn (inFlow : Bool) (s : List Char) : Bool :=
  match s with
  | [] => false
  | ':' :: rest => !(atWordEnd rest || (inFlow && rest.head?.any isFlowMark))
  | c :: _ => !(inFlow && isFlowMark c)

/-- The characters of a word of a text without quotes. -/
def plainWord (inFlow : Bool) : List Char → List Char
  | [] => []
  | c :: rest =>
    if atWordEnd (c :: rest) || !goesOn inFlow (c :: rest) then [] else c :: plainWord inFlow rest

/-- Passes the gap after a word of a text without quotes. A tab before the indentation stands only on a line
    without words. -/
def passPlainGap (indent : Int) : Nat → Cursor → Gap → Option (Cursor × Gap)
  | 0, _, _ => none
  | fuel + 1, c, g =>
    match c.next? with
    | none => some (c, g)
    | some x =>
      if isBlank x then
        if !c.leads then passPlainGap indent fuel (c.passBlanks 1) { g with blanks := x :: g.blanks }
        else if c.column < indent && x = '\t' then
          match c.passToLineEnd? with
          | some (c, _) => if c.atLineEnd then passPlainGap indent fuel c g else none
          | none => none
        else passPlainGap indent fuel (c.passBlanks 1) g
      else if isBreak x then
        if c.leads then passPlainGap indent fuel c.passBreak { g with breaks := g.breaks + 1 }
        else passPlainGap indent fuel c.passBreak { g with blanks := [], folds := true }
      else some (c, g)

/-- The rest of a text without quotes, whose lines have at least this indentation, after a gap. -/
def readPlainFrom (inFlow : Bool) (indent : Int) : Nat → Cursor → Gap → Option (List Char × Cursor)
  | 0, _, _ => none
  | fuel + 1, c, g =>
    if (c.leads && c.atDocumentMarks) || c.next? = some '#' then some ([], c)
    else if inFlow && c.next? = some '-' && (c.rest.drop 1).head?.any isFlowMark then none
    else
      let word := plainWord inFlow c.rest
      let before := if word.isEmpty then [] else if c.leads then g.lines else g.blanks.reverse
      let g := if word.isEmpty then g else {}
      let c := c.pass word.length
      if c.next?.all fun x => !isBlank x && !isBreak x then some (before ++ word, c)
      else
        (passPlainGap indent (c.rest.length + 1) c g).bind fun (c, g) =>
          if !inFlow && c.column < indent then some (before ++ word, c)
          else (readPlainFrom inFlow indent fuel c g).map fun p => (before ++ word ++ p.1, p.2)

/-- A text without quotes, and the cursor behind it. It is not empty. -/
def readPlain (inFlow : Bool) (indent : Int) (c : Cursor) : Option (List Char × Cursor) :=
  if inFlow && c.column < indent then none
  else (readPlainFrom inFlow indent (c.rest.length + 1) c {}).bind fun p =>
    if p.1.isEmpty then none else some p

/-! ### In quotes -/

/-- The character that a letter after a backslash stands for. -/
def unescape? : Char → Option Char
  | '0' => some '\x00'
  | 'a' => some '\x07'
  | 'b' => some '\x08'
  | 't' | '\t' => some '\t'
  | 'n' => some '\n'
  | 'v' => some '\x0b'
  | 'f' => some '\x0c'
  | 'r' => some '\r'
  | 'e' => some '\x1b'
  | ' ' => some ' '
  | '"' => some '"'
  | '/' => some '/'
  | '\\' => some '\\'
  | 'N' => some (Char.ofNat 0x85)
  | '_' => some (Char.ofNat 0xA0)
  | 'L' => some (Char.ofNat 0x2028)
  | 'P' => some (Char.ofNat 0x2029)
  | _ => none

/-- The number of hexadecimal digits after a letter after a backslash. -/
def escapeDigits? : Char → Option Nat
  | 'x' => some 2
  | 'u' => some 4
  | 'U' => some 8
  | _ => none

/-- The character of an escape after its backslash, and the number of its characters. -/
def readEscape (s : List Char) : Option (Char × Nat) := do
  let letter ← s.head?
  match escapeDigits? letter with
  | some count =>
    let digits := (s.drop 1).take count
    let n ← Hex.number? 16 digits
    if h : digits.length = count ∧ n.isValidChar then some (Char.ofNatAux n h.2, count + 1) else none
  | none => return (← unescape? letter, 1)

/-- A word of a text in quotes, the cursor behind it, and whether it ends with an escaped line end. -/
def readQuotedWord (quote : Char) : Nat → Cursor → Option (List Char × Cursor × Bool)
  | 0, _ => none
  | fuel + 1, c =>
    match c.rest with
    | [] => some ([], c, false)
    | x :: rest =>
      if isBlank x || isBreak x then some ([], c, false)
      else if x = quote then
        if quote = '\'' && rest.head? = some '\'' then
          (readQuotedWord quote fuel (c.pass 2)).map fun p => ('\'' :: p.1, p.2)
        else some ([], c, false)
      else if x = '\\' && quote = '"' then
        if rest.head?.any isBreak then some ([], (c.pass 1).passBreak, true)
        else
          (readEscape rest).bind fun escape =>
            (readQuotedWord quote fuel (c.pass (escape.2 + 1))).map fun p => (escape.1 :: p.1, p.2)
      else (readQuotedWord quote fuel (c.pass 1)).map fun p => (x :: p.1, p.2)

/-- Passes the gap after a word of a text in quotes; `leads` tells whether it is behind a line end. -/
def passQuotedGap (indent : Int) : Nat → Cursor → Bool → Gap → Option (Cursor × Bool × Gap)
  | 0, _, _, _ => none
  | fuel + 1, c, leads, g =>
    match c.next? with
    | none => some (c, leads, g)
    | some x =>
      if isBlank x then
        if !leads then passQuotedGap indent fuel (c.passBlanks 1) leads { g with blanks := x :: g.blanks }
        else if x = '\t' && c.column < indent then none
        else passQuotedGap indent fuel (c.passBlanks 1) leads g
      else if isBreak x then
        if leads then passQuotedGap indent fuel c.passBreak true { g with breaks := g.breaks + 1 }
        else passQuotedGap indent fuel c.passBreak true { g with blanks := [], folds := true }
      else some (c, leads, g)

/-- The rest of a text in quotes, whose lines have at least this indentation, and the cursor behind the
    quote. -/
def readQuoted (quote : Char) (indent : Int) : Nat → Cursor → Option (List Char × Cursor)
  | 0, _ => none
  | fuel + 1, c =>
    if c.atDocumentMarks || c.rest.isEmpty || c.column < indent then none
    else
      (readQuotedWord quote (c.rest.length + 1) c).bind fun (word, c, leads) =>
        if c.next? = some quote then some (word, c.pass 1)
        else
          (passQuotedGap indent (c.rest.length + 1) c leads {}).bind fun (c, leads, g) =>
            let gap := if leads then g.lines else g.blanks.reverse
            (readQuoted quote indent fuel c).map fun p => (word ++ gap ++ p.1, p.2)

/-! ### In blocks -/

/-- What becomes of the line ends behind a block. -/
inductive Chomping where
  | strip
  | clip
  | keep
  deriving DecidableEq, Repr

/-- The chomping that a mark stands for. -/
def chomping? : Option Char → Option Chomping
  | some '+' => some .keep
  | some '-' => some .strip
  | _ => none

/-- The chomping and the indentation that stand behind the mark of a block, in either order, and the number
    of their characters. The indentation is not zero; nothing is said if it is. -/
def readBlockMarks (s : List Char) : Option (Chomping × Nat × Nat) :=
  let digit (s : List Char) : Nat × Nat :=
    match s with
    | d :: _ => if d.isDigit then (d.toNat - '0'.toNat, 1) else (0, 0)
    | [] => (0, 0)
  let checked (p : Chomping × Nat × Nat) (count : Nat) : Option (Chomping × Nat × Nat) :=
    if p.2.1 = 0 && count = 1 then none else some p
  match chomping? s.head? with
  | some chomping =>
    let (indent, count) := digit (s.drop 1)
    checked (chomping, indent, count + 1) count
  | none =>
    let (indent, count) := digit s
    match if count = 1 then chomping? (s.drop 1).head? else none with
    | some chomping => checked (chomping, indent, 2) count
    | none => checked (.clip, indent, count) count

/-- Passes the indentation of a line of a block and the empty lines before it, which are counted. -/
def passIndentation (indent : Nat) : Nat → Cursor → Nat → Cursor × Nat
  | 0, c, breaks => (c, breaks)
  | fuel + 1, c, breaks =>
    let spaces := (c.rest.takeWhile (· = ' ')).length
    let c := c.passBlanks (min spaces (indent - c.column))
    if c.next?.any isBreak then passIndentation indent fuel c.passBreak (breaks + 1) else (c, breaks)

/-- Passes the empty lines before the first line of a block, which are counted, and its indentation. The
    third part is the widest column that was reached. -/
def passFirstIndentation : Nat → Cursor → Nat → Nat → Cursor × Nat × Nat
  | 0, c, breaks, widest => (c, breaks, widest)
  | fuel + 1, c, breaks, widest =>
    let c := c.passBlanks (c.rest.takeWhile (· = ' ')).length
    let widest := max widest c.column
    if c.next?.any isBreak then passFirstIndentation fuel c.passBreak (breaks + 1) widest
    else (c, breaks, widest)

/-- The line ends that were read but not yet written in a block: whether the line before them has ended, and
    how many empty lines follow it. -/
structure Tail where
  ends : Bool := false
  breaks : Nat := 0

/-- The lines of a block with this indentation, the cursor behind them, and what follows the last one. A
    folded block joins lines that do not start with a blank; `after` tells whether the line before did. -/
def readLines (folds : Bool) (indent : Nat) : Nat → Cursor → Tail → (after : Bool) →
    List Char × Cursor × Tail
  | 0, c, t, _ => ([], c, t)
  | fuel + 1, c, t, after =>
    if c.column ≠ indent || c.rest.isEmpty || (indent = 0 && c.atMarks '.') then ([], c, t)
    else
      let starts := c.next?.any isBlank
      let empty := List.replicate t.breaks '\n'
      let before :=
        if folds && t.ends && !after && !starts then if t.breaks = 0 then [' '] else empty
        else (if t.ends then ['\n'] else []) ++ empty
      let line := c.rest.takeWhile fun x => !isBreak x
      let c := c.passLine
      if c.rest.isEmpty then (before ++ line, c, {})
      else
        let (c, breaks) := passIndentation indent (c.rest.length + 1) c.passBreak 0
        let (text, c, t) := readLines folds indent fuel c ⟨true, breaks⟩ starts
        (before ++ line ++ text, c, t)

/-- The text of a block after its mark, and the cursor behind it. The collection around it has the
    indentation `outer`, which is negative at the outside. -/
def readBlock (folds : Bool) (outer : Int) (c : Cursor) : Option (List Char × Cursor) := do
  let start := c.line
  let (chomping, more, count) ← readBlockMarks c.rest
  let (c, _) ← (c.pass count).passToLineEnd?
  if !c.atLineEnd then none
  let ends := c.next?.isSome
  let c := if ends then c.passBreak else c
  if c.next? = some '\t' then none
  let (c, breaks, indent) :=
    if more = 0 then
      let (c, breaks, widest) := passFirstIndentation (c.rest.length + 1) c 0 0
      let indent := max widest (outer + 1).toNat
      (c, breaks, if 0 < outer then max indent 1 else indent)
    else
      let indent := if 0 ≤ outer then outer.toNat + more else more
      let (c, breaks) := passIndentation indent (c.rest.length + 1) c 0
      (c, breaks, indent)
  if c.rest.isEmpty then
    if chomping = .strip ∨ c.line = start then return ([], c)
    else if chomping = .keep ∧ breaks ≠ 0 then return (List.replicate breaks '\n', c)
    else return (if ends then ['\n'] else [], c)
  if c.column < indent && outer < c.column then none
  let (text, c, t) := readLines folds indent (c.rest.length + 1) c ⟨false, breaks⟩ false
  let final :=
    (if chomping = .strip then []
      else (if t.ends then ['\n'] else []) ++
        if c.rest.isEmpty && max indent 1 ≤ c.column then ['\n'] else []) ++
    if chomping = .keep then List.replicate t.breaks '\n' else []
  return (text ++ final, c)

end IdentityServer.Yaml
