import IdentityServer.Decimal.Binary64
import IdentityServer.Text.Integer

/-!
# Reading doubles

The double that a decimal text denotes: an optional sign, digits with at most one point among or beside
them, and an optional exponent; or the name of infinity or of the undefined value in any case. The value is
rounded once, and one that is too great is infinite.
-/

namespace IdentityServer.Binary64

/-- The exponent after the digits of a text; zero if there is none. -/
def readExponent : List Char → Option Int
  | [] => some 0
  | 'e' :: rest | 'E' :: rest => Text.readInt rest
  | _ => none

/-- The magnitude bits that a text without a sign denotes. At least one digit stands before or after the
    point. -/
def readMagnitude (s : List Char) : Option Nat :=
  let (whole, s) := s.span Char.isDigit
  let (fraction, s) := match s with
    | '.' :: rest => rest.span Char.isDigit
    | _ => ([], s)
  (Text.readNat (whole ++ fraction)).bind fun m =>
    (readExponent s).map fun exponent => (roundDecimal m (exponent - fraction.length)).getD infinityBits

/-- The double that a text denotes. -/
def read (s : List Char) : Option Binary64 :=
  let (negative, s) := match s with
    | '-' :: rest => (true, rest)
    | '+' :: rest => (false, rest)
    | _ => (false, s)
  match String.ofList (s.map Char.toLower) with
  | "inf" | "infinity" => some (infinity negative)
  | "nan" => some (ofMagnitude negative undefined.magnitude)
  | _ => (readMagnitude s).map (ofMagnitude negative)

end IdentityServer.Binary64
