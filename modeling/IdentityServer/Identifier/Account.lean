import IdentityServer.Error
import IdentityServer.Text.Blank
import IdentityServer.Text.Split

/-!
# Accounts

An account is named by an at sign, a local part, a colon and the name of the server that owns it, which
may itself hold colons.
-/

namespace IdentityServer.Account
open Text

/-- The characters of server names. -/
def isServerCharacter (c : Char) : Bool :=
  ('A' ≤ c && c ≤ 'Z') || ('a' ≤ c && c ≤ 'z') || ('0' ≤ c && c ≤ '9') ||
    c = '.' || c = '-' || c = '[' || c = ']' || c = ':'

/-- The server of an account, for a text that has the shape of one. -/
def server? (account : String) : Option String :=
  match account.toList with
  | '@' :: rest =>
    match cut ':' rest with
    | some (localPart, server) =>
      if !localPart.isEmpty && localPart.all (fun c => !isBlank c) && !server.isEmpty &&
          server.all isServerCharacter then
        some (String.ofList server)
      else none
    | none => none
  | _ => none

/-- The server of an account. -/
def server (account : String) : Except IdentifierFault String :=
  match server? account with
  | some name => .ok name
  | none => .error (.account account)

/-- Refuses every text that does not have the shape of an account. -/
def validate (account : String) : Except IdentifierFault Unit :=
  (server account).map fun _ => ()

end IdentityServer.Account
