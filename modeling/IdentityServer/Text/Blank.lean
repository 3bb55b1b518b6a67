/-!
# Blanks

The characters with the property White_Space, and what is cut off or divided at them. Blanks around a
text never carry meaning in this project; blanks inside one always do.
-/

namespace IdentityServer.Text

/-- The characters with the property White_Space. Zero-width spaces, the byte order mark and the
    information separators are not among them. -/
def isBlank (c : Char) : Bool :=
  let n := c.toNat
  (0x09 ≤ n && n ≤ 0x0D) || n == 0x20 || n == 0x85 || n == 0xA0 || n == 0x1680 ||
    (0x2000 ≤ n && n ≤ 0x200A) || n == 0x2028 || n == 0x2029 || n == 0x202F || n == 0x205F || n == 0x3000

/-- The text without the characters at its end that satisfy `p`. -/
def dropTail (p : Char → Bool) (s : List Char) : List Char :=
  (s.reverse.dropWhile p).reverse

/-- The text without the blanks at both ends. -/
def trim (s : List Char) : List Char :=
  dropTail isBlank (s.dropWhile isBlank)

/-- The pieces of a text between blanks; no piece is empty. `word` holds what was read of the current
    piece, last character first. -/
def wordsFrom (word : List Char) : List Char → List (List Char)
  | [] => if word.isEmpty then [] else [word.reverse]
  | c :: rest =>
    if isBlank c then
      if word.isEmpty then wordsFrom [] rest else word.reverse :: wordsFrom [] rest
    else wordsFrom (c :: word) rest

/-- The pieces of a text between blanks. -/
def words (s : List Char) : List (List Char) :=
  wordsFrom [] s

/-- A text without the blanks at both ends. -/
def trimText (s : String) : String :=
  String.ofList (trim s.toList)

end IdentityServer.Text
