import IdentityServer.Text.Hex

/-!
# Escapes in URLs

A percent sign and two hexadecimal digits stand for a byte. Reading leaves everything else as it is; writing
for a query keeps letters, digits and four marks, and turns a blank into a plus sign.
-/

namespace IdentityServer.Percent

/-- The bytes of a text in which escapes stand for bytes. -/
def decodeBytes : Bytes → Bytes
  | [] => []
  | 37 :: a :: b :: rest =>
    match Hex.value? (Char.ofNat a.toNat), Hex.value? (Char.ofNat b.toNat) with
    | some high, some low => .ofNat (high * 16 + low) :: decodeBytes rest
    | _, _ => 37 :: decodeBytes (a :: b :: rest)
  | b :: rest => b :: decodeBytes rest

/-- The text that stands behind escapes; nothing if it is none. -/
def decode? (s : List Char) : Option String :=
  ofUtf8? (decodeBytes (utf8 (String.ofList s)))

/-- Whether a byte stands for itself in a query. -/
def isPlainByte (b : UInt8) : Bool :=
  let n := b.toNat
  (48 ≤ n && n ≤ 57) || (65 ≤ n && n ≤ 90) || (97 ≤ n && n ≤ 122) || n = 42 || n = 45 || n = 46 || n = 95

/-- The hexadecimal digit of a value below 16, in upper case. -/
def upperDigit (n : Nat) : Char :=
  if n < 10 then Char.ofNat (n + 48) else Char.ofNat (n + 55)

/-- The escape of a byte. -/
def escaped (b : UInt8) : List Char :=
  ['%', upperDigit (b.toNat / 16), upperDigit (b.toNat % 16)]

/-- A byte as it stands in a query. -/
def queryByte (b : UInt8) : List Char :=
  if isPlainByte b then [Char.ofNat b.toNat]
  else if b = 32 then ['+']
  else escaped b

/-- A text as it stands in a query. -/
def queryEscape (s : String) : String :=
  String.ofList ((utf8 s).flatMap queryByte)

end IdentityServer.Percent
