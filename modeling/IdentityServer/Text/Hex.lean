import IdentityServer.Text.Bytes

/-!
# Hexadecimal texts

Byte strings as pairs of hexadecimal digits, in lower case where they are written.
-/

namespace IdentityServer.Hex

/-- The lower-case digit of a value below 16. -/
def digit (n : Nat) : Char :=
  if n < 10 then Char.ofNat (n + 48) else Char.ofNat (n + 87)

/-- The value of a digit. -/
def value? (c : Char) : Option Nat :=
  if '0' ≤ c && c ≤ '9' then some (c.toNat - 48)
  else if 'a' ≤ c && c ≤ 'f' then some (c.toNat - 87)
  else if 'A' ≤ c && c ≤ 'F' then some (c.toNat - 55)
  else none

/-- The number that digits denote in a base up to 16. -/
def number? (base : Nat) (digits : List Char) : Option Nat :=
  digits.foldlM
    (fun n c => (value? c).bind fun d => if d < base then some (n * base + d) else none) 0

/-- The digits of a byte string. -/
def digits (bytes : Bytes) : List Char :=
  bytes.flatMap fun b => [digit (b.toNat / 16), digit (b.toNat % 16)]

/-- The text of a byte string. -/
def encode (bytes : Bytes) : String :=
  String.ofList (digits bytes)

/-- The bytes of pairs of digits. -/
def ofDigits? : List Char → Option Bytes
  | [] => some []
  | a :: b :: rest => do
    let high ← value? a
    let low ← value? b
    return .ofNat (high * 16 + low) :: (← ofDigits? rest)
  | _ => none

/-- The bytes that a text stands for. -/
def decode? (s : String) : Option Bytes :=
  ofDigits? s.toList

end IdentityServer.Hex
