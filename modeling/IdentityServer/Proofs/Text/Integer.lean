import IdentityServer.Proofs.Text.Blank
import IdentityServer.Text.Integer

/-! # Decimal notation

The digits that a number is written with, what a decimal notation denotes, and the words that integers fit. -/

namespace IdentityServer.Text

/-- A digit differs from every other character. -/
theorem ne_of_isDigit {c d : Char} (h : c.isDigit = true) (hd : d.isDigit = false) : c ≠ d := by
  rintro rfl
  rw [h] at hd
  cases hd

theorem isDigit_of_mem_showNat {n : Nat} {c : Char} (h : c ∈ showNat n) : c.isDigit = true :=
  Nat.isDigit_of_mem_toDigits (by decide) (by decide) h

theorem showNat_ne_nil (n : Nat) : showNat n ≠ [] :=
  Nat.toDigits_ne_nil

theorem showInt_ne_nil (n : Int) : showInt n ≠ [] := by
  cases n with
  | ofNat n => exact showNat_ne_nil n
  | negSucc n => exact List.cons_ne_nil _ _

theorem not_blank_of_mem_showInt {n : Int} {c : Char} (h : c ∈ showInt n) : isBlank c = false := by
  cases n with
  | ofNat n => exact not_blank_of_isDigit (isDigit_of_mem_showNat h)
  | negSucc n =>
    rcases List.mem_cons.mp h with rfl | h
    · decide
    · exact not_blank_of_isDigit (isDigit_of_mem_showNat h)

/-- Only zero starts with a zero. -/
theorem eq_zero_of_head?_showNat {n : Nat} (h : (showNat n).head? = some '0') : n = 0 := by
  induction n using Nat.strongRecOn with
  | _ n ih =>
    unfold showNat at h ih
    rw [Nat.toDigits_eq_if (by decide)] at h
    split at h
    · exact Nat.digitChar_eq_zero.mp (Option.some.inj h)
    · have first : (Nat.toDigits 10 (n / 10)).head? = some '0' := by
        rw [List.head?_append, Option.or_eq_some_iff] at h
        exact h.resolve_right fun none => Nat.toDigits_ne_nil (List.head?_eq_none_iff.mp none.1)
      have := ih (n / 10) (by omega) first
      omega

/-- The integer of a word is that of no other word, and fits one. -/
theorem toInt64?_toInt (n : Int64) : toInt64? n.toInt = some n := by
  have fits : fitsInt64 n.toInt = true := by
    simp only [fitsInt64, Bool.and_eq_true, decide_eq_true_eq]
    exact ⟨n.minValue_le_toInt, n.toInt_le⟩
  rw [toInt64?, if_pos fits, Int64.ofInt_toInt]

theorem toInt64?_eq_some {n : Int} {w : Int64} : toInt64? n = some w ↔ w.toInt = n := by
  constructor
  · intro h
    obtain ⟨fits, hw⟩ := Option.ite_none_right_eq_some.mp h
    simp only [fitsInt64, Bool.and_eq_true, decide_eq_true_eq] at fits
    have hleast : Int64.minValue.toInt = -2 ^ 63 := rfl
    have hgreatest : Int64.maxValue.toInt = 2 ^ 63 - 1 := rfl
    rw [← Option.some.inj hw]
    exact Int64.toInt_ofInt_of_le (by omega) (by omega)
  · rintro rfl
    exact toInt64?_toInt w

/-! ### Reading -/

/-- One or more digits, and the number that they denote. -/
structure Digits (s : List Char) (n : Nat) : Prop where
  ne_nil : s ≠ []
  isDigit : ∀ c ∈ s, c.isDigit = true
  value : Nat.ofDigitChars 10 s 0 = n

/-- Digits behind a sign or none, and the integer that they denote. -/
inductive Numeral : List Char → Int → Prop
  | bare {s : List Char} {n : Nat} (digits : Digits s n) : Numeral s n
  | plus {s : List Char} {n : Nat} (digits : Digits s n) : Numeral ('+' :: s) n
  | minus {s : List Char} {n : Nat} (digits : Digits s n) : Numeral ('-' :: s) (-n)

theorem digit?_eq_some {c : Char} {d : Nat} : digit? c = some d ↔ c.isDigit = true ∧ c.toNat - '0'.toNat = d := by
  have same : ('0' ≤ c && c ≤ '9') = c.isDigit := by
    rw [Bool.eq_iff_iff, Char.isDigit_iff_toNat]
    simp [Char.le_def, UInt32.le_iff_toNat_le]
  rw [digit?, same, Option.ite_none_right_eq_some, Option.some.injEq]

theorem digitsFrom_eq_some {s : List Char} {acc n : Nat} :
    digitsFrom acc s = some n ↔ (∀ c ∈ s, c.isDigit = true) ∧ Nat.ofDigitChars 10 s acc = n := by
  induction s generalizing acc with
  | nil => simp [digitsFrom]
  | cons c rest ih =>
    rw [digitsFrom, Option.bind_eq_some_iff, List.forall_mem_cons, Nat.ofDigitChars_cons, Nat.mul_comm]
    constructor
    · rintro ⟨d, hd, hrest⟩
      obtain ⟨hc, rfl⟩ := digit?_eq_some.mp hd
      obtain ⟨digits, value⟩ := ih.mp hrest
      exact ⟨⟨hc, digits⟩, value⟩
    · rintro ⟨⟨hc, digits⟩, value⟩
      exact ⟨_, digit?_eq_some.mpr ⟨hc, rfl⟩, ih.mpr ⟨digits, value⟩⟩

theorem readNat_eq_some {s : List Char} {n : Nat} : readNat s = some n ↔ Digits s n := by
  cases s with
  | nil => exact ⟨nofun, fun h => absurd rfl h.ne_nil⟩
  | cons c rest =>
    exact digitsFrom_eq_some.trans ⟨fun h => ⟨List.cons_ne_nil _ _, h.1, h.2⟩, fun h => ⟨h.isDigit, h.value⟩⟩

theorem readInt_eq_some {s : List Char} {n : Int} : readInt s = some n ↔ Numeral s n := by
  constructor
  · intro h
    unfold readInt at h
    split at h
    · obtain ⟨m, hm, rfl⟩ := Option.map_eq_some_iff.mp h
      exact .plus (readNat_eq_some.mp hm)
    · obtain ⟨i, hi, rfl⟩ := Option.map_eq_some_iff.mp h
      obtain ⟨m, hm, hcast⟩ := Option.bind_eq_some_iff.mp hi
      cases hcast
      exact .minus (readNat_eq_some.mp hm)
    · obtain ⟨m, hm, rfl⟩ := Option.map_eq_some_iff.mp h
      exact .bare (readNat_eq_some.mp hm)
  · rintro (digits | digits | digits)
    · have unsigned : ∀ c ∈ s, c ≠ '+' ∧ c ≠ '-' := fun c hc =>
        ⟨ne_of_isDigit (digits.isDigit c hc) (by decide), ne_of_isDigit (digits.isDigit c hc) (by decide)⟩
      unfold readInt
      split
      · exact absurd rfl (unsigned '+' List.mem_cons_self).1
      · exact absurd rfl (unsigned '-' List.mem_cons_self).2
      · rw [readNat_eq_some.mpr digits]
        rfl
    · rw [readInt, readNat_eq_some.mpr digits]
      rfl
    · rw [readInt, readNat_eq_some.mpr digits]
      rfl

/-- A text is read as the word of the integer that it denotes, and as none if it denotes none or no word holds it. -/
theorem readInt64_eq_some {s : List Char} {w : Int64} : readInt64 s = some w ↔ Numeral s w.toInt := by
  rw [readInt64, Option.bind_eq_some_iff]
  constructor
  · rintro ⟨n, hn, hw⟩
    rw [toInt64?_eq_some.mp hw]
    exact readInt_eq_some.mp hn
  · exact fun h => ⟨_, readInt_eq_some.mpr h, toInt64?_toInt w⟩

theorem Numeral.isDigit_last {s : List Char} {c : Char} {n : Int} (h : Numeral (s ++ [c]) n) : c.isDigit = true := by
  have behind {sign : Char} {digits : List Char} {m : Nat} (hdigits : Digits digits m) (same : s ++ [c] = sign :: digits) :
      c ∈ digits := by
    cases s with
    | nil => exact absurd (List.cons.inj same).2.symm hdigits.ne_nil
    | cons x s => exact (List.cons.inj same).2 ▸ List.mem_append_right _ List.mem_cons_self
  generalize ht : s ++ [c] = t at h
  cases h with
  | bare digits => exact digits.isDigit c (ht ▸ List.mem_append_right _ List.mem_cons_self)
  | plus digits => exact digits.isDigit c (behind digits ht)
  | minus digits => exact digits.isDigit c (behind digits ht)

theorem digits_showNat (n : Nat) : Digits (showNat n) n :=
  ⟨showNat_ne_nil n, fun _ => isDigit_of_mem_showNat, Nat.ofDigitChars_ten_toDigits⟩

theorem numeral_showInt (n : Int) : Numeral (showInt n) n := by
  cases n with
  | ofNat n => exact .bare (digits_showNat n)
  | negSucc n => exact .minus (digits_showNat (n + 1))

/-! ### Words -/

theorem max_int64_eq (a b : Int64) : max a b = if a ≤ b then b else a := rfl

instance lawfulOrderMax_int64 : Std.LawfulOrderMax Int64 :=
  .of_max_le_iff (fun a b c => by grind [max_int64_eq]) fun a b => by grind [max_int64_eq]

/-- A word that is not the greatest one has a next one. -/
theorem toInt_add_one {v : Int64} (h : v ≠ Int64.maxValue) : (v + 1).toInt = v.toInt + 1 := by
  have hmin := v.minValue_le_toInt
  have hmax := v.toInt_le
  have hleast : Int64.minValue.toInt = -9223372036854775808 := rfl
  have hgreatest : Int64.maxValue.toInt = 9223372036854775807 := rfl
  have other : v.toInt ≠ Int64.maxValue.toInt := fun same => h (Int64.toInt_inj.mp same)
  rw [Int64.toInt_add, Int64.toInt_one, Int.bmod_eq_of_le] <;> omega

/-- A sum is later than its first part if something is added and something can be added. -/
theorem lt_saturatingAdd_iff {a b : Int64} : a < saturatingAdd a b ↔ 0 < b ∧ a < Int64.maxValue := by
  have hmin := a.minValue_le_toInt
  have hmax := a.toInt_le
  have hzero : (0 : Int64).toInt = 0 := rfl
  have hleast : Int64.minValue.toInt = -9223372036854775808 := rfl
  have hgreatest : Int64.maxValue.toInt = 9223372036854775807 := rfl
  simp only [Int64.lt_iff_toInt_lt, saturatingAdd, Int64.ofIntClamp, hzero]
  split
  · split
    · rw [Int64.toInt_ofIntLE]
      omega
    · omega
  · omega

/-- What is earlier than a span before now has seen its span pass. -/
theorem saturatingAdd_le_of_lt {a span now : Int64} (h : a < saturatingSub now span) : saturatingAdd a span ≤ now := by
  have hmin := now.minValue_le_toInt
  have hmax := now.toInt_le
  have hamin := a.minValue_le_toInt
  have hleast : Int64.minValue.toInt = -9223372036854775808 := rfl
  have hgreatest : Int64.maxValue.toInt = 9223372036854775807 := rfl
  simp only [Int64.lt_iff_toInt_lt, saturatingSub, Int64.ofIntClamp] at h
  simp only [Int64.le_iff_toInt_le, saturatingAdd, Int64.ofIntClamp]
  have early : a.toInt + span.toInt < now.toInt := by
    split at h
    · split at h
      · rw [Int64.toInt_ofIntLE] at h
        omega
      · omega
    · omega
  split
  · split
    · rw [Int64.toInt_ofIntLE]
      omega
    · omega
  · omega

end IdentityServer.Text
