import IdentityServer.Identifier.Medium
import IdentityServer.Text.Split

/-!
# Redaction

What is left of an address in logs. Each segment keeps a few leading characters, never all of them, and
dots stand for the rest; an empty segment stays empty.
-/

namespace IdentityServer

/-- How much of an address is shown. -/
structure RedactionPolicy where
  /-- The number of characters shown of each segment of the part before the at sign. -/
  usernameReveal : Nat
  /-- The number of characters shown of the domain. -/
  domainReveal : Nat
  /-- What divides the part before the at sign into segments. -/
  separator : Option String
  deriving DecidableEq, Repr

namespace RedactionPolicy
open Text

/-- A segment with at most `reveal` characters shown, and at least one hidden. -/
def segment (reveal : Nat) (s : List Char) : List Char :=
  if s.isEmpty then [] else s.take (min reveal (s.length - 1)) ++ ['.', '.', '.']

/-- The part before the at sign, segment by segment. An empty separator divides nothing. -/
def username (policy : RedactionPolicy) (s : List Char) : List Char :=
  match policy.separator with
  | some separator =>
    let sep := separator.toList
    if sep.isEmpty then segment policy.usernameReveal s
    else join sep ((splitOn sep s).map (segment policy.usernameReveal))
  | none => segment policy.usernameReveal s

/-- An address divided at its last at sign; one without it is a single segment. -/
def redactEmail (policy : RedactionPolicy) (address : String) : String :=
  match cutLast '@' address.toList with
  | some (user, domain) =>
    String.ofList (policy.username user ++ '@' :: segment policy.domainReveal domain)
  | none => String.ofList (segment policy.usernameReveal address.toList)

/-- An address of any medium; a phone number is a single segment. -/
def redact (policy : RedactionPolicy) : Medium → String → String
  | .email, address => policy.redactEmail address
  | .msisdn, address => String.ofList (segment policy.usernameReveal address.toList)

end RedactionPolicy

end IdentityServer
