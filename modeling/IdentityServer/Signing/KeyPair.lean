import IdentityServer.Crypto.SignatureScheme
import IdentityServer.Federation.Error
import IdentityServer.Text.Blank
import IdentityServer.Text.Integer

/-!
# Signing keys

A signing key is a seed of 32 bytes with a version. Other servers know it by its key id, the name of the
algorithm and the version, and by its public key. Seeds, public keys and signatures are written in base64.
-/

namespace IdentityServer

/-- A signing key. -/
structure KeyPair where
  version : Int64
  seed : Bytes
  seed_length : seed.length = SignatureScheme.seedLength
  deriving DecidableEq

namespace KeyPair

/-- The name of the algorithm. -/
def algorithm : String := "ed25519"

/-- The key id of a version. -/
def idOf (version : Int64) : String :=
  algorithm ++ ":" ++ String.ofList (Text.showInt version.toInt)

/-- The key id. -/
def id (key : KeyPair) : String :=
  idOf key.version

/-- The key with this version and seed. -/
def ofSeed (version : Int64) (seed : Bytes) : Except KeyFault KeyPair :=
  if h : seed.length = SignatureScheme.seedLength then .ok ⟨version, seed, h⟩
  else .error .seedLength

/-- The key with this version and encoded seed. -/
def ofEncodedSeed (version : Int64) (seed : List Char) : Except KeyFault KeyPair :=
  match Base64.decode (String.ofList seed) with
  | some bytes => ofSeed version bytes
  | none => .error .seedEncoding

/-- The key of a setting: an encoded seed, which gets version 0, or the name of the algorithm, a version and
    an encoded seed, divided by blanks. -/
def ofConfig (text : String) : Except KeyFault KeyPair :=
  match Text.words text.toList with
  | [seed] => ofEncodedSeed 0 seed
  | [name, version, seed] =>
    if String.ofList name = algorithm then
      match Text.readInt64 version with
      | some v => ofEncodedSeed v seed
      | none => .error (.version (String.ofList version))
    else .error .form
  | _ => .error .form

variable [SignatureScheme]

/-- The bytes of the public key. -/
def publicBytes (key : KeyPair) : Bytes :=
  SignatureScheme.publicKey key.seed

/-- The public key. -/
def publicKey (key : KeyPair) : String :=
  Base64.encode key.publicBytes

/-- The signature of a message. -/
def sign (key : KeyPair) (message : Bytes) : String :=
  Base64.encode (SignatureScheme.sign key.seed message)

end KeyPair

/-- Whether an encoded signature of a message is valid under an encoded public key. -/
def verifySignature [SignatureScheme] (publicKey signature : String) (message : Bytes) : Bool :=
  match Base64.decode publicKey, Base64.decode signature with
  | some key, some sig => SignatureScheme.verify key message sig
  | _, _ => false

end IdentityServer
