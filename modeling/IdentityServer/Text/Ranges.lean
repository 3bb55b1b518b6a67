import IdentityServer.Text.Blank
import IdentityServer.Text.Hex
import IdentityServer.Text.Split

/-!
# Tables of characters

Sets of characters, and characters that stand for others. Large tables are written as texts of words with
hexadecimal code points in them, in ascending order.
-/

namespace IdentityServer.Text

/-- Whether one of the ranges holds the code point. -/
def inRanges (ranges : List (Nat × Nat)) (n : Nat) : Bool :=
  ranges.any fun r => r.1 ≤ n && n ≤ r.2

/-- The code point of hexadecimal digits. -/
def codePoint (digits : List Char) : Nat :=
  (Hex.number? 16 digits).getD 0

/-- A set of characters. A word is a code point or, with a hyphen, the first and the last of a range. -/
def readRanges (s : String) : List (Nat × Nat) :=
  (words s.toList).map fun word =>
    let (first, last) := (cut '-' word).getD (word, word)
    (codePoint first, codePoint last)

/-- What a word says of the code point `n`, put before what was said of earlier ones, and the code point
    that the next word is about. -/
def readMapped (n : Nat) (read : List (Nat × List Nat)) : List Char → Nat × List (Nat × List Nat)
  | '=' :: digits => (codePoint digits, read)
  | ['-'] => (n + 1, read)
  | word => (n + 1, (n, (splitAt '.' word).map codePoint) :: read)

/-- Characters with what they stand for. A word with an equals sign says which character the next one is
    about; the others are about one character after the other, and hold the code points with points between
    them, or a hyphen if the character is not in the table. -/
def readMapping (s : String) : List (Nat × List Nat) :=
  let said := (words s.toList).foldl (fun said word => readMapped said.1 said.2 word) (0, [])
  said.2.reverse

end IdentityServer.Text
