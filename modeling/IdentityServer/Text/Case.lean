import IdentityServer.Text.CaseTable
import IdentityServer.Text.Ranges

/-!
# Lower and upper case

The full case mappings of texts. Every character is mapped on its own, except for the capital sigma in
lower-casing: at the end of a word, after a cased character and not before one, it becomes the final sigma.
-/

namespace IdentityServer.Text

/-- Characters that have or are a case. -/
def isCased (c : Char) : Bool :=
  inRanges casedRanges c.toNat

/-- Characters that a word's case looks through, such as marks and apostrophes. -/
def isIgnorable (c : Char) : Bool :=
  inRanges ignorableRanges c.toNat

/-- The mapping of one code point by a table of specials and one of ranges; what neither holds maps to
    itself. -/
def mapCase (specials : List (Nat × List Nat)) (ranges : List CaseRange) (n : Nat) : List Nat :=
  match specials.find? (·.1 == n) with
  | some special => special.2
  | none =>
    match ranges.find? (·.holds n) with
    | some r => [(n + r.offset).toNat]
    | none => [n]

/-- The lower case of one character outside its text. -/
def lowerChar (c : Char) : List Char :=
  if c.toNat < 0x80 then
    if 'A' ≤ c && c ≤ 'Z' then [Char.ofNat (c.toNat + 32)] else [c]
  else (mapCase lowerSpecials lowerRanges c.toNat).map Char.ofNat

/-- The upper case of one character. -/
def upperChar (c : Char) : List Char :=
  if c.toNat < 0x80 then
    if 'a' ≤ c && c ≤ 'z' then [Char.ofNat (c.toNat - 32)] else [c]
  else (mapCase upperSpecials upperRanges c.toNat).map Char.ofNat

/-- The capital sigma. -/
def capitalSigma : Char := 'Σ'

/-- Whether the first character that is not looked through is cased. -/
def startsCased (s : List Char) : Bool :=
  match s.dropWhile isIgnorable with
  | c :: _ => isCased c
  | [] => false

/-- The lower case of the text `s`, which follows the characters `before`, nearest first. -/
def lowerFrom (before : List Char) : List Char → List Char
  | [] => []
  | c :: rest =>
    let low :=
      if c = capitalSigma then
        if startsCased before && !startsCased rest then ['ς'] else ['σ']
      else lowerChar c
    low ++ lowerFrom (c :: before) rest

/-- The lower case of a text. -/
def lower (s : List Char) : List Char :=
  lowerFrom [] s

/-- The upper case of a text. -/
def upper (s : List Char) : List Char :=
  s.flatMap upperChar

/-- The lower case of a text. -/
def lowerText (s : String) : String :=
  String.ofList (lower s.toList)

/-- The upper case of a text. -/
def upperText (s : String) : String :=
  String.ofList (upper s.toList)

end IdentityServer.Text
