/-!
# Byte strings

Byte strings as lists, and the bytes that encode texts.
-/

namespace IdentityServer

/-- Byte strings. -/
abbrev Bytes := List UInt8

/-- The bytes that encode a text. -/
def utf8 (s : String) : Bytes :=
  s.toUTF8.data.toList

/-- The text that bytes encode. -/
def ofUtf8? (bytes : Bytes) : Option String :=
  String.fromUTF8? ⟨bytes.toArray⟩

end IdentityServer
