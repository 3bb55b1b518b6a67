import IdentityServer.Signing.SignedJson
import IdentityServer.Text.Case
import IdentityServer.Text.Split

/-!
# Request authorization

A server signs the canonical text of an object that names origin, destination, method, path and content of
a request, and sends the signature in a header of parameters divided by commas. Values are written between
quotes without escapes, so exactly the values without a comma survive.
-/

namespace IdentityServer

/-- The signature that a server claims to have made over a request. -/
structure ClaimedSignature where
  origin : String
  keyId : String
  signature : String
  deriving DecidableEq, Repr

/-- A request as it is signed. -/
structure SignedRequest where
  origin : String
  destination : String
  method : String
  uri : String
  content : Option Json

namespace SignedRequest

/-- The object whose canonical text is signed: the method in upper case, and the content only if there is
    one. -/
def toJson (r : SignedRequest) : Json :=
  let body : List (String × Json) := match r.content with
    | some content => [("content", content)]
    | none => []
  .ofFields (body ++ [("destination", .str r.destination), ("method", .str (Text.upperText r.method)),
    ("origin", .str r.origin), ("uri", .str r.uri)])

/-- The text that is signed. -/
def signedText (r : SignedRequest) : String :=
  r.toJson.canonical

/-- The claim that a key makes over a request. -/
def sign [SignatureScheme] (key : KeyPair) (r : SignedRequest) : ClaimedSignature :=
  ⟨r.origin, key.id, key.sign (utf8 r.signedText)⟩

end SignedRequest

namespace ClaimedSignature
open Text

/-- What a header starts with. -/
def scheme : String := "X-Matrix "

/-- The header that carries a claim. -/
def toHeader (c : ClaimedSignature) : String :=
  scheme ++ "origin=\"" ++ c.origin ++ "\",key=\"" ++ c.keyId ++ "\",sig=\"" ++ c.signature ++ "\""

/-- The value without the quotes around it, if it has both. -/
def unquote (value : List Char) : List Char :=
  match value with
  | '"' :: rest => if rest.getLast? = some '"' then rest.dropLast else value
  | _ => value

/-- The name and value of one parameter; a part without an equals sign is none. -/
def parameter? (part : List Char) : Option (List Char × List Char) :=
  (cut '=' (trim part)).map fun p => (trim p.1, unquote (trim p.2))

/-- The parameters of the text after the scheme. -/
def parameters (s : List Char) : List (List Char × List Char) :=
  (splitAt ',' s).filterMap parameter?

/-- The value of the last parameter of a name. -/
def lastValue (name : String) (ps : List (List Char × List Char)) : Except HeaderFault String :=
  match ps.reverse.find? (·.1 == name.toList) with
  | some p => .ok (String.ofList p.2)
  | none => .error (.missing name)

/-- The claim that a header carries. Unknown parameters are passed over. -/
def ofHeader (header : String) : Except HeaderFault ClaimedSignature :=
  match dropStart? scheme.toList (trim header.toList) with
  | none => .error .scheme
  | some rest => do
    let ps := parameters rest
    let origin ← lastValue "origin" ps
    let keyId ← lastValue "key" ps
    let signature ← lastValue "sig" ps
    return ⟨origin, keyId, signature⟩

end ClaimedSignature

end IdentityServer
