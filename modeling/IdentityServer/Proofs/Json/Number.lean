import IdentityServer.Json.Number
import IdentityServer.Proofs.Text.Integer
import Mathlib.Data.List.TakeDrop

/-! # Integers in JSON texts

The decimal notation of an integer that fits a word is a number literal, ends where the notation ends, and
denotes that integer. -/

namespace IdentityServer

namespace Json
open Text

theorem le_ofDigitChars (digits : List Char) (acc : Nat) : acc ≤ Nat.ofDigitChars 10 digits acc := by
  induction digits generalizing acc with
  | nil => exact Nat.le_of_eq Nat.ofDigitChars_nil.symm
  | cons c rest ih =>
    rw [Nat.ofDigitChars_cons]
    exact Nat.le_trans (by omega) (ih _)

/-- Digits that a word holds are all taken. -/
theorem takeDigits_eq {digits : List Char} {acc : Nat} (h : Nat.ofDigitChars 10 digits acc < UInt64.size) :
    takeDigits acc digits = (Nat.ofDigitChars 10 digits acc, 0) := by
  induction digits generalizing acc with
  | nil => rw [takeDigits, Nat.ofDigitChars_nil]
  | cons c rest ih =>
    rw [Nat.ofDigitChars_cons, Nat.mul_comm] at h ⊢
    have hnext : acc * 10 + (c.toNat - 48) < UInt64.size := Nat.lt_of_le_of_lt (le_ofDigitChars rest _) h
    rw [takeDigits, if_pos hnext]
    exact ih h

theorem takeDigits_showNat {n : Nat} (h : n < UInt64.size) : takeDigits 0 (showNat n) = (n, 0) := by
  have value : Nat.ofDigitChars 10 (showNat n) 0 = n := Nat.ofDigitChars_ten_toDigits
  rw [takeDigits_eq (value.symm ▸ h), value]

/-- A text that does not continue a number. -/
def EndsNumber : List Char → Prop
  | [] => True
  | c :: _ => c.isDigit = false ∧ c ≠ '.' ∧ c ≠ 'e' ∧ c ≠ 'E'

variable {rest : List Char}

theorem spanDigits_showNat (n : Nat) (hrest : EndsNumber rest) : spanDigits (showNat n ++ rest) = (showNat n, rest) := by
  have hdigits : ∀ c ∈ showNat n, c.isDigit = true := fun c => isDigit_of_mem_showNat
  rw [spanDigits, List.span_eq_takeWhile_dropWhile, List.takeWhile_append_of_pos hdigits,
    List.dropWhile_append_of_pos hdigits]
  cases rest with
  | nil => simp
  | cons c rest => simp [hrest.1]

/-- A sign and digits that neither a point nor an exponent follows are a literal. -/
theorem literal?_digits (negative : Bool) (n : Nat) (hrest : EndsNumber rest) :
    literal? ((if negative then ['-'] else []) ++ (showNat n ++ rest)) =
      some (⟨negative, showNat n, none, none⟩, rest) := by
  by_cases hn : n = 0
  · subst hn
    show literal? ((if negative then ['-'] else []) ++ '0' :: rest) = some (⟨negative, ['0'], none, none⟩, rest)
    cases rest with
    | nil => cases negative <;> rfl
    | cons c rest =>
      obtain ⟨hdigit, hpoint, he, hE⟩ := hrest
      cases negative <;> simp [literal?, hdigit, hpoint, he, hE]
  · obtain ⟨d, ds, hds⟩ := List.exists_cons_of_ne_nil (showNat_ne_nil n)
    have hd : d.isDigit = true := isDigit_of_mem_showNat (hds ▸ List.mem_cons_self)
    have hzero : d ≠ '0' := fun h => hn (eq_zero_of_head?_showNat (by rw [hds, h]; rfl))
    have hminus : d ≠ '-' := by rintro rfl; cases hd
    have hspan := spanDigits_showNat n hrest
    rw [hds, List.cons_append] at hspan
    rw [hds, List.cons_append]
    cases rest with
    | nil =>
      rw [List.append_nil] at hspan ⊢
      cases negative <;> simp [literal?, hminus, hzero, hspan]
    | cons c rest =>
      obtain ⟨hdigit, hpoint, he, hE⟩ := hrest
      cases negative <;> simp [literal?, hminus, hzero, hspan, hpoint, he, hE]

/-- The text of a value, where nothing continues it as a number, is a number literal that denotes it. -/
structure WritesNumber (text : List Char) (v : Json) : Prop where
  starts : ∃ c rest, text = c :: rest ∧ (c = '-' ∨ c.isDigit = true)
  reads : ∀ rest, EndsNumber rest → ∃ l, literal? (text ++ rest) = some (l, rest) ∧ l.value? = some v

/-- The notation of an integer that fits a word denotes it. -/
theorem writesNumber_showInt {n : Int} (h : fitsWord n = true) : WritesNumber (showInt n) (.int n) := by
  simp only [fitsWord, Bool.and_eq_true, decide_eq_true_eq] at h
  have hmin : Int64.minValue.toInt = -(2 ^ 63 : Int) := rfl
  have hsize : UInt64.size = 2 ^ 64 := rfl
  rw [hmin, hsize] at h
  cases n with
  | ofNat n =>
    obtain ⟨c, cs, hcs⟩ := List.exists_cons_of_ne_nil (showNat_ne_nil n)
    refine ⟨⟨c, cs, hcs, .inr (isDigit_of_mem_showNat (hcs ▸ List.mem_cons_self))⟩, fun rest hrest => ?_⟩
    have hn : (n : Int) < 2 ^ 64 := h.2
    refine ⟨_, literal?_digits false n hrest, ?_⟩
    rw [NumberLiteral.value?, takeDigits_showNat (by omega)]
    rfl
  | negSucc n =>
    refine ⟨⟨'-', showNat (n + 1), rfl, .inl rfl⟩, fun rest hrest => ?_⟩
    refine ⟨_, literal?_digits true (n + 1) hrest, ?_⟩
    rw [NumberLiteral.value?, takeDigits_showNat (by omega)]
    dsimp only
    rw [if_neg (by decide), if_pos (by omega)]
    rfl

end Json

end IdentityServer
