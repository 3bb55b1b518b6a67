import IdentityServer.Federation.Authorization
import IdentityServer.Identifier.Account
import IdentityServer.Proofs.Identifier.Address
import IdentityServer.Proofs.Json.Unambiguous
import IdentityServer.Proofs.Text.Base64

/-! # Claims in headers

A claim whose parts have no comma is read back from its header. The names of servers, the ids of keys and encoded
signatures have none, so what a key signs for the server of an account always arrives. -/

namespace IdentityServer

/-! ### Headers -/

namespace ClaimedSignature
open Text

/-- A parameter with its value between quotes. -/
def quoted (name value : List Char) : List Char :=
  name ++ '=' :: '"' :: (value ++ ['"'])

theorem toList_toHeader (c : ClaimedSignature) : c.toHeader.toList = scheme.toList ++
    (quoted "origin".toList c.origin.toList ++ ',' :: (quoted "key".toList c.keyId.toList ++ ',' ::
      quoted "sig".toList c.signature.toList)) := by
  simp [toHeader, quoted, String.toList_append]

theorem not_mem_quoted {name value : List Char} {c : Char} (hname : c ∉ name) (hvalue : c ∉ value) (heq : c ≠ '=')
    (hquote : c ≠ '"') : c ∉ quoted name value := by
  simp [quoted, hname, hvalue, heq, hquote]

theorem unquote_quoted (value : List Char) : unquote ('"' :: (value ++ ['"'])) = value := by
  rw [unquote, List.getLast?_concat, if_pos rfl, List.dropLast_concat]

theorem parameter?_quoted {name : List Char} (hne : name ≠ []) (plain : ∀ c ∈ name, isBlank c = false)
    (hname : '=' ∉ name) (value : List Char) : parameter? (quoted name value) = some (name, value) := by
  obtain ⟨first, more, rfl⟩ := List.exists_cons_of_ne_nil hne
  have whole : trim (quoted (first :: more) value) = quoted (first :: more) value := by
    have shape : quoted (first :: more) value = first :: (more ++ '=' :: '"' :: value ++ ['"']) := by simp [quoted]
    rw [shape]
    exact trim_between (plain first List.mem_cons_self) (by decide) _
  rw [parameter?, whole, quoted, cut_append hname, Option.map_some, trim_eq plain, trim_between (by decide) (by decide),
    unquote_quoted]

/-- A claim is read back from its header if none of its parts has a comma. -/
theorem ofHeader_toHeader {c : ClaimedSignature} (horigin : ',' ∉ c.origin.toList) (hkey : ',' ∉ c.keyId.toList)
    (hsignature : ',' ∉ c.signature.toList) : ofHeader c.toHeader = .ok c := by
  have whole : trim c.toHeader.toList = c.toHeader.toList := by
    have shape : c.toHeader.toList = 'X' :: (("-Matrix ".toList ++ (quoted "origin".toList c.origin.toList ++ ',' ::
        (quoted "key".toList c.keyId.toList ++ ",sig=\"".toList ++ c.signature.toList))) ++ ['"']) := by
      rw [toList_toHeader]
      simp [scheme, quoted]
    rw [shape]
    exact trim_between (by decide) (by decide) _
  have parts : parameters (quoted "origin".toList c.origin.toList ++ ',' :: (quoted "key".toList c.keyId.toList ++
      ',' :: quoted "sig".toList c.signature.toList)) =
        [("origin".toList, c.origin.toList), ("key".toList, c.keyId.toList), ("sig".toList, c.signature.toList)] := by
    rw [parameters, splitAt_append (not_mem_quoted (by decide) horigin (by decide) (by decide)),
      splitAt_append (not_mem_quoted (by decide) hkey (by decide) (by decide)),
      splitAt_of_not_mem (not_mem_quoted (by decide) hsignature (by decide) (by decide))]
    simp only [List.filterMap_cons, List.filterMap_nil]
    rw [parameter?_quoted (by decide) (by simp [isBlank]) (by decide),
      parameter?_quoted (by decide) (by simp [isBlank]) (by decide),
      parameter?_quoted (by decide) (by simp [isBlank]) (by decide)]
  rw [ofHeader, whole, toList_toHeader, dropStart?_append]
  dsimp only
  rw [parts]
  simp [lastValue]
  rfl

/-! ### Parts without commas -/

theorem comma_not_mem_server {account server : String} (h : Account.server? account = some server) :
    ',' ∉ server.toList := by
  unfold Account.server? at h
  split at h
  · split at h
    · obtain ⟨shape, h⟩ := Option.ite_none_right_eq_some.mp h
      cases h
      simp only [Bool.and_eq_true, List.all_eq_true] at shape
      rw [String.toList_ofList]
      exact fun hmem => absurd (shape.2 ',' hmem) (by decide)
    · cases h
  · cases h

theorem comma_not_mem_id (key : KeyPair) : ',' ∉ key.id.toList := by
  intro h
  rw [KeyPair.id, KeyPair.idOf, String.toList_append] at h
  rcases List.mem_append.mp h with h | h
  · exact absurd h (by decide)
  · rw [String.toList_ofList] at h
    have numeric := (Json.isNumberText_showInt key.version.toInt).numeric_of_mem ',' h
    exact absurd numeric (by decide)

theorem comma_not_mem_encode (bytes : Bytes) : ',' ∉ (Base64.encode bytes).toList :=
  fun mem => Base64.forall_mem_encode (p := (· ≠ ',')) (by decide) bytes _ mem rfl

/-- What a key signs for the server of an account is read back from its header. -/
theorem ofHeader_sign [SignatureScheme] (key : KeyPair) (r : SignedRequest) {account : String}
    (h : Account.server? account = some r.origin) : ofHeader (r.sign key).toHeader = .ok (r.sign key) :=
  ofHeader_toHeader (comma_not_mem_server h) (comma_not_mem_id key) (comma_not_mem_encode _)

end ClaimedSignature

end IdentityServer
