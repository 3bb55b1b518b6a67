import IdentityServer.Identifier.Medium
import IdentityServer.Text.Blank
import IdentityServer.Text.Case
import IdentityServer.Text.Split

/-!
# Canonical addresses

Addresses are compared character by character, so each is brought to one spelling first: emails are
trimmed and lower-cased, phone numbers lose their formatting and get one plus sign in front.
-/

namespace IdentityServer.Address
open Text

/-- The characters of an email address apart from its at sign. -/
def isPlain (c : Char) : Bool :=
  c ≠ '@' && !isBlank c

/-- Whether a dot stands between two other characters. -/
def hasInnerDot : List Char → Bool
  | [] => false
  | _ :: rest => rest.dropLast.contains '.'

/-- The shape of email addresses: one at sign, something before it, a dot inside what follows it, and no
    blanks. -/
def isEmail (s : List Char) : Bool :=
  match cut '@' s with
  | some (localPart, domain) =>
    !localPart.isEmpty && localPart.all isPlain && domain.all isPlain && hasInnerDot domain
  | none => false

/-- The shape of the digits of a phone number: 8 to 15 of them, the first not zero. -/
def isNumber (s : List Char) : Bool :=
  8 ≤ s.length && s.length ≤ 15 && s.all Char.isDigit && s.head? ≠ some '0'

/-- The characters that only format a phone number. -/
def isFormatting (c : Char) : Bool :=
  c = ' ' || c = '-' || c = '.' || c = '(' || c = ')'

/-- The digits of a spelling of a phone number: without surrounding blanks, leading plus signs and
    formatting. -/
def phoneDigits (s : List Char) : List Char :=
  ((trim s).dropWhile (· = '+')).filter fun c => !isFormatting c

/-- The canonical spelling of an address. -/
def canonicalize (medium : Medium) (raw : String) : Except IdentifierFault String :=
  match medium with
  | .email =>
    let email := lower (trim raw.toList)
    if isEmail email then .ok (String.ofList email) else .error .email
  | .msisdn =>
    let digits := phoneDigits raw.toList
    if isNumber digits then .ok (String.ofList ('+' :: digits)) else .error .phone

end IdentityServer.Address
