import IdentityServer.Error

/-!
# Media of identifiers

An identifier is an address in a medium: an email address or a phone number.
-/

namespace IdentityServer

/-- The medium of an address. -/
inductive Medium where
  | email
  | msisdn
  deriving DecidableEq, Repr

namespace Medium

/-- The name of a medium. -/
def name : Medium → String
  | .email => "email"
  | .msisdn => "msisdn"

/-- The medium of a name. -/
def ofName? (s : String) : Option Medium :=
  if s = "email" then some .email
  else if s = "msisdn" then some .msisdn
  else none

/-- The medium of a name, or the failure for every other name. -/
def ofName (s : String) : Except ServiceError Medium :=
  match ofName? s with
  | some m => .ok m
  | none => .error (.invalidIdentifier (.medium s))

/-- Emails come before phone numbers. -/
def rank : Medium → Nat
  | .email => 0
  | .msisdn => 1

end Medium

/-- An address in a medium. -/
structure Identifier where
  medium : Medium
  address : String
  deriving DecidableEq, Repr

/-- The order of identifiers: by medium, then by address. -/
def Identifier.before (a b : Identifier) : Bool :=
  a.medium.rank < b.medium.rank || (a.medium = b.medium && a.address < b.address)

end IdentityServer
