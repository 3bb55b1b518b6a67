import IdentityServer.Json.Basic

/-!
# JSON numbers

Number literals and their values. A literal without fraction and exponent is an integer if a word of 64
bits holds it, except for negative zero. Any other literal is a double: its leading digits that fit an
unsigned word are rounded to a double, which is then multiplied or divided by a power of ten, itself a
double, with a second rounding. A literal too great for a double is refused.
-/

namespace IdentityServer.Json

/-- The parts of a number literal. -/
structure NumberLiteral where
  negative : Bool
  /-- The digits before the point. -/
  whole : List Char
  /-- The digits after the point, if there is one. -/
  fraction : Option (List Char)
  /-- The exponent, if there is one. -/
  exponent : Option Int

/-- The leading digits of `digits` put behind `acc` as far as an unsigned word holds the result, and the
    number of digits left out. -/
def takeDigits (acc : Nat) : List Char → Nat × Nat
  | [] => (acc, 0)
  | c :: rest =>
    let next := acc * 10 + (c.toNat - 48)
    if next < UInt64.size then takeDigits next rest else (acc, rest.length + 1)

/-- The double of magnitude `magnitude · 10 ^ exponent`, rounded once more; a power beyond the greatest
    one that is a double is split off first. -/
def scaleTo : Nat → Nat → Int → Option Nat
  | 0, _, _ => some 0
  | fuel + 1, magnitude, exponent =>
    if exponent.natAbs ≤ 308 then
      (Binary64.roundDecimal 1 exponent.natAbs).bind fun power =>
        if 0 ≤ exponent then Binary64.multiply magnitude power else Binary64.divide magnitude power
    else if magnitude = 0 then some 0
    else if 0 ≤ exponent then none
    else
      (Binary64.roundDecimal 1 308).bind fun power =>
        (Binary64.divide magnitude power).bind fun next => scaleTo fuel next (exponent + 308)

/-- The magnitude of the double with these leading digits and exponent. Two divisions by the greatest
    power bring every word to zero, so three steps are enough. -/
def scaled (significand : Nat) (exponent : Int) : Option Nat :=
  (Binary64.roundRatio significand 1).bind fun magnitude => scaleTo 3 magnitude exponent

/-- The value of a literal; nothing if it is too great. -/
def NumberLiteral.value? (l : NumberLiteral) : Option Json :=
  let (whole, dropped) := takeDigits 0 l.whole
  match l.fraction, l.exponent, dropped with
  | none, none, 0 =>
    if !l.negative then some (.int whole)
    else if 0 < whole ∧ whole ≤ UInt64.size / 2 then some (.int (-(whole : Int)))
    else (scaled whole 0).map fun m => .float (Binary64.ofMagnitude true m)
  | fraction, exponent, dropped =>
    let digits := fraction.getD []
    let (significand, left) := takeDigits whole digits
    let shift := (dropped : Int) - ((digits.length - left : Nat) : Int) + exponent.getD 0
    (scaled significand shift).map fun m => .float (Binary64.ofMagnitude l.negative m)

/-- The digits at the start of a text, and what follows them. -/
def spanDigits (s : List Char) : List Char × List Char :=
  s.span Char.isDigit

/-- A number literal at the start of a text, and what follows it. The first of several digits before the
    point is not zero, and a point or an exponent mark is followed by a digit. -/
def literal? (s : List Char) : Option (NumberLiteral × List Char) :=
  let (negative, s) := match s with
    | '-' :: rest => (true, rest)
    | _ => (false, s)
  let (whole, s) := match s with
    | '0' :: rest => (['0'], rest)
    | _ => spanDigits s
  if whole.isEmpty || (whole == ['0'] && s.head?.any Char.isDigit) then none
  else
    let (fraction, s) : Option (List Char) × List Char := match s with
      | '.' :: rest => let (digits, rest) := spanDigits rest; (some digits, rest)
      | _ => (none, s)
    if fraction == some [] then none
    else
      match s with
      | 'e' :: rest | 'E' :: rest =>
        let (minus, rest) := match rest with
          | '-' :: rest => (true, rest)
          | '+' :: rest => (false, rest)
          | _ => (false, rest)
        let (digits, rest) := spanDigits rest
        (Text.readNat digits).map fun n =>
          (⟨negative, whole, fraction, some (if minus then -(n : Int) else n)⟩, rest)
      | _ => some (⟨negative, whole, fraction, none⟩, s)

end IdentityServer.Json
