/-!
# Double-precision numbers

Binary numbers of 64 bits: a sign, eleven bits of exponent and 52 of fraction. All arithmetic on them is
exact arithmetic on naturals followed by one rounding to the nearest double, ties to the even one. Two
doubles are the same exactly if their bits are, so zero and negative zero differ.
-/

namespace IdentityServer

/-- A double, given by its bits. -/
structure Binary64 where
  bits : UInt64
  deriving DecidableEq, Repr

namespace Binary64

/-- The weight of the sign bit. -/
def signWeight : Nat := Nat.pow 2 63

/-- The weight of the lowest exponent bit. -/
def exponentWeight : Nat := Nat.pow 2 52

/-- The magnitude bits of infinity: all magnitudes below are finite. -/
def infinityBits : Nat := 2047 * exponentWeight

/-- The bits without the sign. -/
def magnitude (x : Binary64) : Nat :=
  x.bits.toNat % signWeight

/-- Whether the sign bit is set. -/
def negative (x : Binary64) : Bool :=
  signWeight ≤ x.bits.toNat

/-- Neither infinite nor undefined. -/
def isFinite (x : Binary64) : Bool :=
  x.magnitude < infinityBits

/-- The double with this sign and these magnitude bits. -/
def ofMagnitude (negative : Bool) (magnitude : Nat) : Binary64 :=
  ⟨.ofNat (magnitude + if negative then signWeight else 0)⟩

/-- Positive infinity, or negative infinity. -/
def infinity (negative : Bool) : Binary64 :=
  ofMagnitude negative infinityBits

/-- The value that stands for no number. -/
def undefined : Binary64 :=
  ofMagnitude false (infinityBits + exponentWeight / 2)

/-! ### The number that magnitude bits denote -/

/-- The `m` of the value `m · 2 ^ q` of finite magnitude bits. -/
def significand (magnitude : Nat) : Nat :=
  if magnitude < exponentWeight then magnitude
  else magnitude % exponentWeight + exponentWeight

/-- The `q + 1074` of the value `m · 2 ^ q` of finite magnitude bits. -/
def scale (magnitude : Nat) : Nat :=
  magnitude / exponentWeight - 1

/-- The numerator of the value of finite magnitude bits, over `2 ^ 1074`. -/
def numerator (magnitude : Nat) : Nat :=
  significand magnitude * Nat.pow 2 (scale magnitude)

/-- The denominator of the value of every finite magnitude. -/
def denominator : Nat := Nat.pow 2 1074

/-! ### Rounding -/

/-- The natural nearest to `n / d`, an even one if two are. -/
def nearest (n d : Nat) : Nat :=
  let q := n / d
  let twice := 2 * (n % d)
  if twice < d then q
  else if d < twice then q + 1
  else q + q % 2

/-- The exponent `k` with `2 ^ k ≤ n / d < 2 ^ (k + 1)`, for positive `n` and `d`. -/
def binaryExponent (n d : Nat) : Int :=
  let k : Int := (n.log2 : Int) - d.log2
  let below := if 0 ≤ k then n < d * Nat.pow 2 k.toNat else n * Nat.pow 2 (-k).toNat < d
  if below then k - 1 else k

/-- The magnitude bits nearest to `n / d`; nothing if that is too great for a double. -/
def roundRatio (n d : Nat) : Option Nat :=
  if n = 0 then some 0
  else
    let q := max (binaryExponent n d - 52) (-1074)
    let m := if 0 ≤ q then nearest n (d * Nat.pow 2 q.toNat) else nearest (n * Nat.pow 2 (-q).toNat) d
    let bits := (q + 1074).toNat * exponentWeight + m
    if bits < infinityBits then some bits else none

/-- The magnitude bits nearest to `m · 10 ^ e`; nothing if that is too great for a double. Exponents that
    the number of digits puts out of reach are settled without computing the power. -/
def roundDecimal (m : Nat) (e : Int) : Option Nat :=
  if m = 0 then some 0
  else
    let top : Int := (Nat.toDigits 10 m).length + e
    if 310 < top then none
    else if top < -330 then some 0
    else if 0 ≤ e then roundRatio (m * Nat.pow 10 e.toNat) 1
    else roundRatio m (Nat.pow 10 (-e).toNat)

/-- The double nearest to `m · 10 ^ e`, infinite if that is too great. -/
def ofDecimal (negative : Bool) (m : Nat) (e : Int) : Binary64 :=
  ofMagnitude negative ((roundDecimal m e).getD infinityBits)

/-- The magnitude bits of the rounded product of two finite magnitudes. -/
def multiply (a b : Nat) : Option Nat :=
  roundRatio (numerator a * numerator b) (denominator * denominator)

/-- The magnitude bits of the rounded quotient of two finite magnitudes, the second not zero. -/
def divide (a b : Nat) : Option Nat :=
  roundRatio (numerator a) (numerator b)

/-- The integer nearest to a finite double, halves away from zero. -/
def toInt (x : Binary64) : Int :=
  let n := (2 * numerator x.magnitude + denominator) / (2 * denominator)
  if x.negative then -(n : Int) else n

/-- The unsigned word nearest to a double, halves upwards. Negative numbers and the undefined value count as
    zero, and what is too great gives the greatest word. -/
def nearestWord (x : Binary64) : UInt64 :=
  if x.negative || infinityBits < x.magnitude then 0
  else if x.magnitude = infinityBits then .ofNat (UInt64.size - 1)
  else .ofNat (min x.toInt.toNat (UInt64.size - 1))

end Binary64

end IdentityServer
