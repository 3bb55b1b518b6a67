import IdentityServer.Decimal.Binary64

/-!
# Shortest decimal notation of doubles

The fewest digits that read back as the same double, and of those the nearest to its value. A layout says
how digits and exponent are written.
-/

namespace IdentityServer

/-- A positive decimal number `digits · 10 ^ exponent`. -/
structure DecimalNumber where
  digits : Nat
  exponent : Int
  deriving DecidableEq, Repr

namespace Shortest

/-- The decimal exponent of the first digit of `n / d`, for positive `n` and `d`. -/
def firstExponent (n d : Nat) : Int :=
  if d ≤ n then ((Nat.toDigits 10 (n / d)).length : Int) - 1
  else
    let length := (Nat.toDigits 10 (d / n)).length
    if d ≤ n * Nat.pow 10 (length - 1) then 1 - (length : Int) else -(length : Int)

/-- The interval of the reals that round to a magnitude, as three numerators over one denominator: the
    lower end, the value, the upper end. Below a power of two the gap to the next double is half as wide. -/
def interval (magnitude : Nat) : Nat × Nat × Nat × Nat :=
  let m := Binary64.significand magnitude
  let s := Nat.pow 2 (Binary64.scale magnitude)
  let narrow := m = Binary64.exponentWeight ∧ 0 < Binary64.scale magnitude
  ((4 * m - if narrow then 1 else 2) * s, 4 * m * s, (4 * m + 2) * s, 4 * Binary64.denominator)

/-- The number on the grid of `count` digits that reads back as `magnitude` and is nearest to its value,
    of two equally near ones the even one. -/
def onGrid (magnitude count : Nat) : Option DecimalNumber :=
  let (low, value, high, den) := interval magnitude
  let unit := firstExponent value den - (count - 1)
  let num (x : Nat) := if 0 ≤ unit then x else x * Nat.pow 10 (-unit).toNat
  let den := if 0 ≤ unit then den * Nat.pow 10 unit.toNat else den
  let inside (c : Nat) :=
    if Binary64.significand magnitude % 2 = 0 then num low ≤ c * den && c * den ≤ num high
    else num low < c * den && c * den < num high
  let c := num value / den
  let below := num value - c * den
  let above := (c + 1) * den - num value
  let down := inside c
  let up := inside (c + 1)
  if down && (!up || below < above || (below == above && c % 2 == 0)) then some ⟨c, unit⟩
  else if up then some ⟨c + 1, unit⟩
  else none

/-- The first grid from `count` digits on that has a number reading back as `magnitude`; seventeen digits
    always do. -/
def searchFrom (magnitude : Nat) : Nat → Nat → DecimalNumber
  | 0, count => (onGrid magnitude count).getD ⟨0, 0⟩
  | more + 1, count =>
    match onGrid magnitude count with
    | some d => d
    | none => searchFrom magnitude more (count + 1)

/-- The digits without zeros at their end. -/
def dropZeros : Nat → DecimalNumber → DecimalNumber
  | 0, d => d
  | fuel + 1, d =>
    if d.digits % 10 = 0 ∧ d.digits ≠ 0 then dropZeros fuel ⟨d.digits / 10, d.exponent + 1⟩ else d

/-- The shortest decimal number that reads back as a positive finite magnitude. -/
def decimal (magnitude : Nat) : DecimalNumber :=
  dropZeros 17 (searchFrom magnitude 16 1)

end Shortest

/-- How doubles are written: the exponents of the first digit that get positional notation (all, if there
    is no bound), whether an integral value shows a zero after the point, and the texts of infinity and of
    the undefined value. -/
structure FloatLayout where
  positional : Option (Int × Int)
  pointZero : Bool
  infinity : String
  undefined : String

namespace FloatLayout

/-- Digits in positional notation, the first one with exponent `first`. -/
def positionalText (layout : FloatLayout) (digits : List Char) (first : Int) : List Char :=
  if first < 0 then '0' :: '.' :: (List.replicate (-first - 1).toNat '0' ++ digits)
  else
    let whole := first.toNat + 1
    if digits.length ≤ whole then
      digits ++ List.replicate (whole - digits.length) '0' ++ (if layout.pointZero then ['.', '0'] else [])
    else digits.take whole ++ '.' :: digits.drop whole

/-- Digits with an exponent that always shows its sign. -/
def scientificText (digits : List Char) (first : Int) : List Char :=
  let mantissa := match digits with
    | d :: e :: rest => d :: '.' :: e :: rest
    | short => short
  let sign := if first < 0 then '-' else '+'
  mantissa ++ 'e' :: sign :: Nat.toDigits 10 first.natAbs

/-- The text of a finite magnitude. -/
def magnitudeText (layout : FloatLayout) (magnitude : Nat) : List Char :=
  if magnitude = 0 then layout.positionalText ['0'] 0
  else
    let d := Shortest.decimal magnitude
    let digits := Nat.toDigits 10 d.digits
    let first := d.exponent + (digits.length : Int) - 1
    let plain := match layout.positional with
      | none => true
      | some (least, greatest) => least ≤ first && first ≤ greatest
    if plain then layout.positionalText digits first else scientificText digits first

/-- The text of a double. -/
def text (layout : FloatLayout) (x : Binary64) : List Char :=
  if Binary64.infinityBits < x.magnitude then layout.undefined.toList
  else
    let body := if x.magnitude = Binary64.infinityBits then layout.infinity.toList
      else layout.magnitudeText x.magnitude
    if x.negative then '-' :: body else body

end FloatLayout

end IdentityServer
