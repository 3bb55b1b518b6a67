import IdentityServer.Text.Bytes

/-!
# Base64 without padding

The standard alphabet, three bytes to four characters, and two or three characters for a last group of one
or two bytes. `decode` drops every trailing equals sign first; after that it takes exactly what `encode`
writes: no blanks, no padding inside, and no bits set beyond the last byte.
-/

namespace IdentityServer.Base64

/-- The character of a value below 64. -/
def charOf (n : Nat) : Char :=
  if n < 26 then Char.ofNat (n + 65)
  else if n < 52 then Char.ofNat (n + 71)
  else if n < 62 then Char.ofNat (n - 4)
  else if n = 62 then '+'
  else '/'

/-- The value of a character of the alphabet. -/
def valueOf? (c : Char) : Option Nat :=
  let n := c.toNat
  if 65 ≤ n && n ≤ 90 then some (n - 65)
  else if 97 ≤ n && n ≤ 122 then some (n - 71)
  else if 48 ≤ n && n ≤ 57 then some (n + 4)
  else if c = '+' then some 62
  else if c = '/' then some 63
  else none

/-- The groups of six bits of a byte string, the last one filled up with zero bits. -/
def sextets : Bytes → List Nat
  | [] => []
  | [a] => [a.toNat / 4, a.toNat % 4 * 16]
  | [a, b] => [a.toNat / 4, a.toNat % 4 * 16 + b.toNat / 16, b.toNat % 16 * 4]
  | a :: b :: c :: rest =>
    a.toNat / 4 :: (a.toNat % 4 * 16 + b.toNat / 16) :: (b.toNat % 16 * 4 + c.toNat / 64) ::
      c.toNat % 64 :: sextets rest

/-- The bytes whose groups of six bits these are; nothing if a single group is left over or if the bits
    beyond the last byte are not zero. -/
def octets : List Nat → Option Bytes
  | [] => some []
  | [_] => none
  | [p, q] => if q % 16 = 0 then some [.ofNat (p * 4 + q / 16)] else none
  | [p, q, r] =>
    if r % 4 = 0 then some [.ofNat (p * 4 + q / 16), .ofNat (q % 16 * 16 + r / 4)] else none
  | p :: q :: r :: s :: rest =>
    (octets rest).map fun bytes =>
      .ofNat (p * 4 + q / 16) :: .ofNat (q % 16 * 16 + r / 4) :: .ofNat (r % 4 * 64 + s) :: bytes

/-- The text of a byte string. -/
def encode (bytes : Bytes) : String :=
  String.ofList ((sextets bytes).map charOf)

/-- The bytes that exactly the characters of `s` stand for. -/
def decodeExact (s : List Char) : Option Bytes :=
  (s.mapM valueOf?).bind octets

/-- The text without the equals signs at its end. -/
def stripPadding (s : List Char) : List Char :=
  (s.reverse.dropWhile (· == '=')).reverse

/-- The bytes that a text stands for, once its trailing equals signs are dropped. -/
def decode (s : String) : Option Bytes :=
  decodeExact (stripPadding s.toList)

end IdentityServer.Base64
