import IdentityServer.Json.Canonical
import IdentityServer.Json.Source

/-! # Texts in JSON texts

What is written of a text between quotes is read up to the closing quote, and denotes that text. Every
character is written on its own, so both are settled character by character. -/

namespace IdentityServer

namespace Json

/-- The number in the escape of a control character. -/
theorem hex4?_control {n : Nat} (h : n < 0x20) :
    hex4? '0' '0' (Hex.digit (n / 16)) (Hex.digit (n % 16)) = some n := by
  have all : ∀ n < 0x20, hex4? '0' '0' (Hex.digit (n / 16)) (Hex.digit (n % 16)) = some n := by decide
  exact all n h

/-- How a character is escaped: by a letter, by its number, or not at all. -/
inductive Escapes (c : Char) : List Char → Prop
  | letter (l : Char) (not_u : l ≠ 'u') (means : unescape? l = some c) : Escapes c ['\\', l]
  | number (control : c.toNat < 0x20) :
    Escapes c ['\\', 'u', '0', '0', Hex.digit (c.toNat / 16), Hex.digit (c.toNat % 16)]
  | plain (not_quote : c ≠ '"') (not_backslash : c ≠ '\\') (not_control : ¬c.toNat < 0x20) : Escapes c [c]

theorem escapes (c : Char) : Escapes c (escape c) := by
  unfold escape
  split
  · subst_vars; exact .letter '"' (by decide) rfl
  split
  · subst_vars; exact .letter '\\' (by decide) rfl
  split
  · subst_vars; exact .letter 'b' (by decide) rfl
  split
  · subst_vars; exact .letter 't' (by decide) rfl
  split
  · subst_vars; exact .letter 'n' (by decide) rfl
  split
  · subst_vars; exact .letter 'f' (by decide) rfl
  split
  · subst_vars; exact .letter 'r' (by decide) rfl
  split
  · rename_i control
    exact .number control
  · rename_i not_quote not_backslash _ _ _ _ _ not_control
    exact .plain not_quote not_backslash not_control

theorem readWritten_escape (c : Char) (rest : List Char) :
    readWritten (escape c ++ rest) = (readWritten rest).map fun p => (escape c ++ p.1, p.2) := by
  have h := escapes c
  generalize escape c = written at h ⊢
  cases h with
  | letter l not_u means => simp [readWritten, not_u, means]
  | number control => simp [readWritten, hex4?_control control]
  | plain not_quote not_backslash not_control => simp [readWritten, not_backslash, not_control]

theorem textFrom?_escape (c : Char) (rest : List Char) :
    textFrom? none (escape c ++ rest) = (textFrom? none rest).map (c :: ·) := by
  have h := escapes c
  generalize escape c = written at h ⊢
  cases h with
  | letter l not_u means => simp [textFrom?, not_u, means]
  | number control =>
    have low : ¬(0xD800 ≤ c.toNat ∧ c.toNat < 0xDC00) := by omega
    have high : ¬(0xDC00 ≤ c.toNat ∧ c.toNat < 0xE000) := by omega
    simp [textFrom?, hex4?_control control, low, high]
  | plain not_quote not_backslash not_control => simp [textFrom?, not_backslash]

/-- What is written between quotes ends at the closing one. -/
theorem readWritten_flatMap (s rest : List Char) :
    readWritten (s.flatMap escape ++ '"' :: rest) = some (s.flatMap escape, rest) := by
  induction s with
  | nil => simp [readWritten]
  | cons c s ih =>
    rw [List.flatMap_cons, List.append_assoc, readWritten_escape, ih]
    rfl

theorem textFrom?_flatMap (s : List Char) : textFrom? none (s.flatMap escape) = some s := by
  induction s with
  | nil => simp [textFrom?]
  | cons c s ih =>
    rw [List.flatMap_cons, textFrom?_escape, ih]
    rfl

theorem textOf?_flatMap (s : String) : textOf? (s.toList.flatMap escape) = some s := by
  rw [textOf?, textFrom?_flatMap, Option.map_some, String.ofList_toList]

end Json

end IdentityServer
