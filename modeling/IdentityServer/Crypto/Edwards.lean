import IdentityServer.Text.Base64

/-!
# The twisted Edwards curve of Ed25519

The curve `-x² + y² = 1 + d·x²·y²` over the integers modulo `2 ^ 255 - 19`. A point is kept as `X`, `Y`,
`Z` and `T` with `x = X / Z`, `y = Y / Z` and `x·y = T / Z`; its 32 bytes hold `y`, lowest byte first, and
in the highest bit whether `x` is odd.
-/

namespace IdentityServer.Edwards

/-- The order of the field. -/
def fieldOrder : Nat := Nat.pow 2 255 - 19

/-- The order of the base point. -/
def groupOrder : Nat := Nat.pow 2 252 + 27742317777372353535851937790883648493

/-- The constant of the curve. -/
def curveConstant : Nat :=
  37095705934669439343138083508754565189542113879843219016388785533085940283555

/-- A square root of -1. -/
def rootOfMinusOne : Nat :=
  19681161376707505956807079304988542015446066515923890162744021073123829784752

/-! ### The field -/

/-- The product of two residues. -/
def mul (a b : Nat) : Nat := a * b % fieldOrder

/-- The sum of two residues. -/
def add (a b : Nat) : Nat := (a + b) % fieldOrder

/-- The difference of two residues. -/
def sub (a b : Nat) : Nat := (a + (fieldOrder - b)) % fieldOrder

/-- The power of a residue, by the bits of the exponent; `bits` bounds their number. -/
def powBits : Nat → Nat → Nat → Nat
  | 0, _, _ => 1
  | bits + 1, a, n =>
    let half := powBits bits (mul a a) (n / 2)
    if n % 2 = 1 then mul a half else half

/-- The power of a residue by an exponent below `2 ^ 256`. -/
def pow (a n : Nat) : Nat := powBits 256 a n

/-- The inverse of a residue that is not zero. -/
def inverse (a : Nat) : Nat := pow a (fieldOrder - 2)

/-! ### Points -/

/-- A point of the curve. -/
structure Point where
  x : Nat
  y : Nat
  z : Nat
  t : Nat

namespace Point

/-- The neutral point. -/
def zero : Point := ⟨0, 1, 1, 0⟩

/-- The point with these coordinates. -/
def ofAffine (x y : Nat) : Point := ⟨x, y, 1, mul x y⟩

/-- The sum of two points. -/
def plus (p q : Point) : Point :=
  let a := mul (sub p.y p.x) (sub q.y q.x)
  let b := mul (add p.y p.x) (add q.y q.x)
  let c := mul (mul (add p.t p.t) curveConstant) q.t
  let d := mul (add p.z p.z) q.z
  let e := sub b a
  let f := sub d c
  let g := add d c
  let h := add b a
  ⟨mul e f, mul g h, mul f g, mul e h⟩

/-- The point on the other side. -/
def negate (p : Point) : Point := ⟨sub 0 p.x, p.y, p.z, sub 0 p.t⟩

/-- The multiple of a point, by the bits of the factor; `bits` bounds their number. -/
def timesBits : Nat → Nat → Point → Point
  | 0, _, _ => zero
  | bits + 1, n, p =>
    let half := timesBits bits (n / 2) (p.plus p)
    if n % 2 = 1 then p.plus half else half

/-- The multiple of a point by a factor below `2 ^ 256`. -/
def times (n : Nat) (p : Point) : Point := timesBits 256 n p

/-- The base point. -/
def base : Point :=
  ofAffine 15112221349535400772501151409588531511454012693041857206046113283949847762202
    46316835694926478169428394003475163141307993866256225615783033603165251855960

end Point

/-! ### Bytes -/

/-- The number whose bytes these are, lowest first. -/
def ofBytes : Bytes → Nat
  | [] => 0
  | b :: rest => b.toNat + 256 * ofBytes rest

/-- The bytes of a number, lowest first, in `count` bytes. -/
def toBytes : Nat → Nat → Bytes
  | 0, _ => []
  | count + 1, n => .ofNat n :: toBytes count (n / 256)

/-- The weight of the bit above `y`, which says whether `x` is odd. -/
def signWeight : Nat := Nat.pow 2 255

namespace Point

/-- The 32 bytes of a point. -/
def encode (p : Point) : Bytes :=
  let w := inverse p.z
  let x := mul p.x w
  let y := mul p.y w
  toBytes 32 (y + x % 2 * signWeight)

/-- The residue `x` with `x² · v = u`, if there is one. -/
def rootOfRatio (u v : Nat) : Option Nat :=
  let v3 := mul (mul v v) v
  let v7 := mul (mul v3 v3) v
  let x := mul (mul u v3) (pow (mul u v7) ((fieldOrder - 5) / 8))
  let check := mul v (mul x x)
  if check = u then some x
  else if check = sub 0 u then some (mul x rootOfMinusOne)
  else none

/-- The point that 32 bytes stand for. The `y` may be given unreduced, and a zero `x` with either sign. -/
def decode (bytes : Bytes) : Option Point :=
  if bytes.length ≠ 32 then none
  else
    let n := ofBytes bytes
    let y := n % signWeight % fieldOrder
    let odd := n / signWeight
    let y2 := mul y y
    (rootOfRatio (sub y2 1) (add (mul curveConstant y2) 1)).map fun x =>
      ofAffine (if x % 2 = odd then x else sub 0 x) y

end Point

end IdentityServer.Edwards
