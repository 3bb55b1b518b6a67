import IdentityServer.Text.Base64

/-!
# Signature schemes

What the service needs of signatures: a public key and signatures from a secret seed, and a check that
needs the public key only. Everything that signs or verifies is stated for any scheme; `Lawful` says what
a sound scheme promises.
-/

namespace IdentityServer

/-- A signature scheme over byte strings. -/
class SignatureScheme where
  /-- The public key of a seed. -/
  publicKey : Bytes → Bytes
  /-- The signature of a message under a seed. -/
  sign : Bytes → Bytes → Bytes
  /-- Whether a signature of a message is valid under a public key. -/
  verify : Bytes → Bytes → Bytes → Bool

namespace SignatureScheme

/-- The number of bytes of a seed. -/
def seedLength : Nat := 32

/-- A signature made under a seed is valid under the public key of that seed. -/
def Lawful [SignatureScheme] : Prop :=
  ∀ seed message, seed.length = seedLength → verify (publicKey seed) message (sign seed message) = true

end SignatureScheme

end IdentityServer
