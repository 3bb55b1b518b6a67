import IdentityServer.Crypto.Edwards
import IdentityServer.Crypto.Sha512
import IdentityServer.Crypto.SignatureScheme

/-!
# Ed25519

Signatures on the twisted Edwards curve with SHA-512. Verification compares the 32 bytes of the first half
with those of the recomputed point, without multiplying by the cofactor, so of several encodings of one
point only the usual one is accepted there.
-/

namespace IdentityServer.Ed25519
open Edwards

/-- The secret factor: the first half of the hash of the seed, with its three lowest bits and its highest
    bit cleared and the bit before that set. -/
def secretFactor (hash : Bytes) : Nat :=
  ofBytes (hash.take 32) / 8 * 8 % Nat.pow 2 254 + Nat.pow 2 254

/-- The factor that a hash stands for. -/
def factor (hash : Bytes) : Nat :=
  ofBytes hash % groupOrder

/-- The public key of a seed. -/
def publicKey (seed : Bytes) : Bytes :=
  (Point.times (secretFactor (Sha512.digest seed)) Point.base).encode

/-- The signature of a message under a seed: 64 bytes. -/
def sign (seed message : Bytes) : Bytes :=
  let hash := Sha512.digest seed
  let a := secretFactor hash
  let key := (Point.times a Point.base).encode
  let r := factor (Sha512.digest (hash.drop 32 ++ message))
  let first := (Point.times r Point.base).encode
  let k := factor (Sha512.digest (first ++ key ++ message))
  first ++ toBytes 32 ((r + k * a) % groupOrder)

/-- Whether a signature is valid: both halves have 32 bytes, the second is below the group order, the key
    is a point, and the first is the encoding of `[s]B - [k]A`. -/
def verify (key message signature : Bytes) : Bool :=
  let first := signature.take 32
  let s := ofBytes (signature.drop 32)
  if signature.length ≠ 64 || groupOrder ≤ s then false
  else
    match Point.decode key with
    | none => false
    | some a =>
      let k := factor (Sha512.digest (first ++ key ++ message))
      ((Point.times s Point.base).plus (Point.times k a.negate)).encode == first

/-- Ed25519 as a signature scheme. -/
@[reducible] def scheme : SignatureScheme where
  publicKey := publicKey
  sign := sign
  verify := verify

end IdentityServer.Ed25519
