import IdentityServer.Text.Split

/-!
# Places in a YAML text

A cursor is what is left of a text with the place where it starts: lines and columns matter to YAML. The
functions here pass blanks, comments and line ends.
-/

namespace IdentityServer.Yaml

/-! ### Characters -/

/-- The characters that end a line. -/
def isBreak (c : Char) : Bool :=
  c = '\n' || c = '\r'

/-- The characters that stand between words on a line. -/
def isBlank (c : Char) : Bool :=
  c = ' ' || c = '\t'

/-- The marks of collections in brackets. -/
def isFlowMark (c : Char) : Bool :=
  c = ',' || c = '[' || c = ']' || c = '\x7b' || c = '\x7d'

/-- Whether a text starts with a line end, or is empty. -/
def atLineEnd (s : List Char) : Bool :=
  s.head?.all isBreak

/-- Whether a text starts with what ends a word: a blank or a line end. -/
def atWordEnd (s : List Char) : Bool :=
  s.head?.all fun c => isBlank c || isBreak c

/-- Letters, digits and two marks, of which names in directives and tags consist. -/
def isNameChar (c : Char) : Bool :=
  c.isAlphanum || c = '_' || c = '-'

/-! ### Cursors -/

/-- What is left of a text, and where this starts. -/
structure Cursor where
  rest : List Char
  line : Nat := 0
  column : Nat := 0
  /-- How many characters stand before it. -/
  index : Nat := 0
  /-- Whether only blanks stand before it on its line. -/
  leads : Bool := true

namespace Cursor

/-- The next character. -/
def next? (c : Cursor) : Option Char :=
  c.rest.head?

/-- The cursor behind blanks. -/
def passBlanks (n : Nat) (c : Cursor) : Cursor :=
  { c with rest := c.rest.drop n, column := c.column + n, index := c.index + n }

/-- The cursor behind characters of a line that are not all blanks. -/
def pass (n : Nat) (c : Cursor) : Cursor :=
  if n = 0 then c else { c.passBlanks n with leads := false }

/-- The cursor behind the characters that satisfy `p`. -/
def passWhile (p : Char → Bool) (c : Cursor) : Cursor :=
  c.pass (c.rest.takeWhile p).length

/-- The cursor behind a line end. -/
def passBreak (c : Cursor) : Cursor :=
  let n := if c.rest.take 2 == ['\r', '\n'] then 2 else 1
  { rest := c.rest.drop n, line := c.line + 1, column := 0, index := c.index + n, leads := true }

/-- The cursor at the end of the line. -/
def passLine (c : Cursor) : Cursor :=
  c.passWhile fun x => !isBreak x

/-- Whether the line ends here. -/
def atLineEnd (c : Cursor) : Bool :=
  Yaml.atLineEnd c.rest

/-- Whether a line of three such marks starts here, perhaps with more behind a blank. -/
def atMarks (mark : Char) (c : Cursor) : Bool :=
  c.column = 0 && c.rest.take 3 == [mark, mark, mark] && atWordEnd (c.rest.drop 3)

/-- Whether the line here starts or ends a document. -/
def atDocumentMarks (c : Cursor) : Bool :=
  c.atMarks '-' || c.atMarks '.'

/-- The cursor behind blanks and a comment, which has to stand behind a blank; and the blanks. -/
def passToLineEnd? (c : Cursor) : Option (Cursor × List Char) :=
  let blanks := c.rest.takeWhile isBlank
  let c := c.passBlanks blanks.length
  if c.next? = some '#' then
    if blanks.isEmpty then none else some (c.passLine, blanks)
  else some (c, blanks)

end Cursor

end IdentityServer.Yaml
