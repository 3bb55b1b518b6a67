/-!
# Decimal integers

Integers in decimal notation: an optional sign and one or more ASCII digits. `readInt64` takes what fits a
signed word of 64 bits, and `showInt` writes no plus sign and no leading zero, so what it writes of a word
is read back as that word.
-/

namespace IdentityServer.Text

/-- The value of an ASCII digit. -/
def digit? (c : Char) : Option Nat :=
  if '0' ≤ c && c ≤ '9' then some (c.toNat - '0'.toNat) else none

/-- The number that continues `acc` by the digits of a text. -/
def digitsFrom (acc : Nat) : List Char → Option Nat
  | [] => some acc
  | c :: rest => (digit? c).bind fun d => digitsFrom (acc * 10 + d) rest

/-- The number that one or more ASCII digits denote. -/
def readNat : List Char → Option Nat
  | [] => none
  | s => digitsFrom 0 s

/-- The integer that an optional sign and one or more ASCII digits denote. -/
def readInt : List Char → Option Int
  | '+' :: rest => (readNat rest).map Int.ofNat
  | '-' :: rest => (readNat rest).map fun n => -(n : Int)
  | s => (readNat s).map Int.ofNat

/-- Whether a signed word of 64 bits holds the integer. -/
def fitsInt64 (n : Int) : Bool :=
  Int64.minValue.toInt ≤ n && n ≤ Int64.maxValue.toInt

/-- The word that holds exactly this integer. -/
def toInt64? (n : Int) : Option Int64 :=
  if fitsInt64 n then some (Int64.ofInt n) else none

/-- The word that a decimal integer denotes; nothing if it does not fit. -/
def readInt64 (s : List Char) : Option Int64 :=
  (readInt s).bind toInt64?

/-- The decimal digits of a number. -/
def showNat (n : Nat) : List Char :=
  Nat.toDigits 10 n

/-- The decimal notation of an integer. -/
def showInt : Int → List Char
  | .ofNat n => showNat n
  | .negSucc n => '-' :: showNat (n + 1)

/-- The sum, held at the least and the greatest word. -/
def saturatingAdd (a b : Int64) : Int64 :=
  Int64.ofIntClamp (a.toInt + b.toInt)

/-- The difference, held at the least and the greatest word. -/
def saturatingSub (a b : Int64) : Int64 :=
  Int64.ofIntClamp (a.toInt - b.toInt)

end IdentityServer.Text
