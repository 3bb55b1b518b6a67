import IdentityServer.Text.CompositionTable

/-!
# Composed texts

The usual form of a text whose characters can be written in several ways: as few characters as possible,
and marks in the order of their weights. Two texts that differ only in how their characters are written
have the same usual form.
-/

namespace IdentityServer.Text

/-! ### Syllables -/

/-- The first syllable of Hangul, and the number of all. -/
def firstSyllable : Nat := 0xAC00
def syllableCount : Nat := 11172

/-- The letters that a syllable consists of: a leading one, a vowel, and perhaps a trailing one. -/
def syllableLetters (n : Nat) : List Nat :=
  let i := n - firstSyllable
  let letters := [0x1100 + i / 588, 0x1161 + i % 588 / 28]
  if i % 28 = 0 then letters else letters ++ [0x11A7 + i % 28]

/-- The syllable of two letters, or of a syllable without a trailing letter and one. -/
def syllable? (a b : Nat) : Option Nat :=
  if 0x1100 ≤ a && a < 0x1113 && 0x1161 ≤ b && b < 0x1176 then
    some (firstSyllable + ((a - 0x1100) * 21 + (b - 0x1161)) * 28)
  else if firstSyllable ≤ a && a < firstSyllable + syllableCount && (a - firstSyllable) % 28 == 0 &&
      0x11A8 ≤ b && b < 0x11C3 then
    some (a + (b - 0x11A7))
  else none

/-! ### Marks -/

/-- The weight of a mark; other characters have none. -/
def weight (n : Nat) : Nat :=
  match markWeights.find? fun entry => inRanges entry.2 n with
  | some entry => entry.1
  | none => 0

/-- Puts a character before others, but behind the marks of lower weights that follow it. -/
def placeMark (n : Nat) : List Nat → List Nat
  | [] => [n]
  | m :: rest => if 0 < weight m && weight m < weight n then m :: placeMark n rest else n :: m :: rest

/-- The characters with their marks in order. -/
def orderMarks : List Nat → List Nat
  | [] => []
  | n :: rest => placeMark n (orderMarks rest)

/-! ### Taking apart and putting together -/

/-- What a character consists of. The first of two parts may itself consist of others, at most three times
    over. -/
def decomposed : Nat → Nat → List Nat
  | 0, n => [n]
  | fuel + 1, n =>
    if firstSyllable ≤ n && n < firstSyllable + syllableCount then syllableLetters n
    else
      match decompositions.lookup n, compositions.lookup n with
      | some parts, _ => parts
      | none, some (first :: rest) => decomposed fuel first ++ rest
      | none, _ => [n]

/-- The character that two others are written as. -/
def composed? (a b : Nat) : Option Nat :=
  match syllable? a b with
  | some n => some n
  | none => (compositions.find? (·.2 == [a, b])).map (·.1)

/-- Writes characters behind `base` with the marks `marks`, the last one first, as few characters. A mark
    joins its base unless one of the same or a greater weight stands between them. -/
def composeFrom (base : Nat) (marks : List Nat) : List Nat → List Nat
  | [] => base :: marks.reverse
  | n :: rest =>
    let joined := match marks with
      | [] => composed? base n
      | last :: _ => if weight last < weight n then composed? base n else none
    match joined with
    | some whole => composeFrom whole marks rest
    | none =>
      if weight n = 0 then base :: (marks.reverse ++ composeFrom n [] rest)
      else composeFrom base (n :: marks) rest

/-- The characters as few as possible. Marks at the start have no base. -/
def compose : List Nat → List Nat
  | [] => []
  | n :: rest => if weight n = 0 then composeFrom n [] rest else n :: compose rest

/-- The usual form of a text. -/
def composedForm (s : List Char) : List Char :=
  (compose (orderMarks (s.flatMap fun c => decomposed 4 c.toNat))).map Char.ofNat

end IdentityServer.Text
