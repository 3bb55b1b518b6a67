import IdentityServer.Text.Case

/-! # Lower case is settled

Lower-casing a text twice is the same as lower-casing it once: no character that the tables map to has a
lower case of its own, and none of them is the capital sigma. That is checked range against range, by the
ends of their images or, where two of them interleave, by parity. -/

namespace IdentityServer.Text

namespace CaseRange

/-- The code point that the first one of the range is mapped to. -/
def low (r : CaseRange) : Nat :=
  (r.first + r.offset).toNat

/-- The code point that the last one of the range is mapped to. -/
def high (r : CaseRange) : Nat :=
  (r.last + r.offset).toNat

/-- Whether all code points of the range have the parity of the first one. -/
def hasParity (r : CaseRange) : Bool :=
  r.step == 2 || r.first == r.last

/-- Whether no code point of `r` is mapped to one of `s`, by the ends or by parity. -/
def misses (r s : CaseRange) : Bool :=
  Nat.blt r.high s.first || Nat.blt s.last r.low ||
    (r.hasParity && s.hasParity && Nat.beq ((r.low + s.first) % 2) 1)

/-- Whether the range maps to characters. -/
def mapsToCharacters (r : CaseRange) : Bool :=
  0 ≤ r.first + r.offset && (r.high < 0xD800 || (0xDFFF < r.low && r.high < 0x110000))

variable {r s : CaseRange} {n : Nat}

theorem holds_iff : r.holds n = true ↔ r.first ≤ n ∧ n ≤ r.last ∧ (n - r.first) % r.step = 0 := by
  simp [holds, and_assoc]

theorem parity_of_holds (hr : r.hasParity = true) (hn : r.holds n = true) : n % 2 = r.first % 2 := by
  obtain ⟨hfirst, hlast, hstep⟩ := holds_iff.mp hn
  simp only [hasParity, Bool.or_eq_true, beq_iff_eq] at hr
  rcases hr with hr | hr
  · rw [hr] at hstep
    omega
  · rw [Nat.le_antisymm (hr ▸ hlast) hfirst]

theorem holds_mapped (hmaps : r.mapsToCharacters = true) (hmiss : r.misses s = true) (hn : r.holds n = true) :
    s.holds (n + r.offset).toNat = false := by
  refine Bool.eq_false_iff.mpr fun hs => ?_
  obtain ⟨hfirst, hlast, -⟩ := holds_iff.mp hn
  obtain ⟨hs_first, hs_last, -⟩ := holds_iff.mp hs
  simp only [mapsToCharacters, Bool.and_eq_true, decide_eq_true_eq] at hmaps
  simp only [misses, Bool.or_eq_true, Bool.and_eq_true, Nat.blt_eq, Nat.beq_eq, low, high] at hmiss
  rcases hmiss with (hmiss | hmiss) | ⟨⟨hr_parity, hs_parity⟩, hmiss⟩
  · omega
  · omega
  · have hr_even := parity_of_holds hr_parity hn
    have hs_even := parity_of_holds hs_parity hs
    omega

theorem isValidChar_mapped (hmaps : r.mapsToCharacters = true) (hn : r.holds n = true) :
    (n + r.offset).toNat.isValidChar := by
  obtain ⟨hfirst, hlast, -⟩ := holds_iff.mp hn
  unfold mapsToCharacters low high at hmaps
  simp only [Bool.and_eq_true, Bool.or_eq_true, decide_eq_true_eq] at hmaps
  unfold Nat.isValidChar
  omega

end CaseRange

/-! ### Settled characters -/

/-- Lower-casing leaves the code point as it is, wherever its character stands. -/
structure Settled (n : Nat) : Prop where
  valid : n.isValidChar
  not_special : n ≠ 0x130
  not_held : ∀ r ∈ lowerRanges, r.holds n = false

theorem lowerRanges_mapsToCharacters : ∀ r ∈ lowerRanges, r.mapsToCharacters = true := by
  decide +kernel

theorem lowerRanges_misses_special : ∀ r ∈ lowerRanges, r.misses ⟨0x130, 0x130, 1, 0⟩ = true := by
  decide +kernel

theorem lowerRanges_misses {r s : CaseRange} (hr : r ∈ lowerRanges) (hs : s ∈ lowerRanges) : r.misses s = true := by
  have all : (lowerRanges.all fun r => lowerRanges.all r.misses) = true := by decide +kernel
  exact List.all_eq_true.mp (List.all_eq_true.mp all r hr) s hs

theorem settled_mapped {r : CaseRange} {n : Nat} (hr : r ∈ lowerRanges) (hn : r.holds n = true) :
    Settled (n + r.offset).toNat where
  valid := CaseRange.isValidChar_mapped (lowerRanges_mapsToCharacters r hr) hn
  not_special heq := by
    have missed := CaseRange.holds_mapped (lowerRanges_mapsToCharacters r hr) (lowerRanges_misses_special r hr) hn
    rw [heq] at missed
    cases missed
  not_held s hs := CaseRange.holds_mapped (lowerRanges_mapsToCharacters r hr) (lowerRanges_misses hr hs) hn

theorem mapCase_of_settled {n : Nat} (h : Settled n) : mapCase lowerSpecials lowerRanges n = [n] := by
  have hspecial : lowerSpecials.find? (·.1 == n) = none := by
    simp [lowerSpecials, Ne.symm h.not_special]
  have hrange : lowerRanges.find? (·.holds n) = none :=
    List.find?_eq_none.mpr fun r hr => by simp [h.not_held r hr]
  rw [mapCase, hspecial, hrange]

theorem isCapital_iff {c : Char} : ('A' ≤ c && c ≤ 'Z') = true ↔ 0x41 ≤ c.toNat ∧ c.toNat ≤ 0x5A := by
  simp [Char.le_def, UInt32.le_iff_toNat_le]

theorem capitals_holds {n : Nat} : CaseRange.holds ⟨0x41, 0x5A, 1, 32⟩ n = true ↔ 0x41 ≤ n ∧ n ≤ 0x5A := by
  simp [CaseRange.holds, Nat.mod_one]

theorem lowerChar_of_settled {c : Char} (h : Settled c.toNat) : lowerChar c = [c] := by
  unfold lowerChar
  split
  · have small := h.not_held ⟨0x41, 0x5A, 1, 32⟩ List.mem_cons_self
    rw [if_neg]
    intro capital
    rw [capitals_holds.mpr (isCapital_iff.mp capital)] at small
    cases small
  · rw [mapCase_of_settled h, List.map_singleton, Char.ofNat_toNat]

theorem ne_capitalSigma_of_settled {c : Char} (h : Settled c.toNat) : c ≠ capitalSigma := by
  intro hc
  rw [hc] at h
  exact absurd (h.not_held ⟨0x3A3, 0x3AB, 1, 32⟩ (by decide +kernel)) (by decide)

/-- Only capitals have a lower case among the first 128 characters. -/
theorem lowerRanges_first : ∀ r ∈ lowerRanges, r = ⟨0x41, 0x5A, 1, 32⟩ ∨ 0x80 ≤ r.first := by
  decide +kernel

theorem toNat_ofNat {n : Nat} (h : n.isValidChar) : (Char.ofNat n).toNat = n := by
  rw [Char.ofNat, dif_pos h]
  rfl

/-- The characters that are named one by one are settled: what the dotted capital I is mapped to, and the
    two small sigmas. -/
theorem settled_named : ∀ n ∈ [0x69, 0x307] ++ [0x3C2, 0x3C3], Settled n := by
  have all : ∀ n ∈ [0x69, 0x307] ++ [0x3C2, 0x3C3], n.isValidChar ∧ n ≠ 0x130 ∧ ∀ r ∈ lowerRanges, r.holds n = false := by
    decide +kernel
  intro n hn
  obtain ⟨valid, not_special, not_held⟩ := all n hn
  exact ⟨valid, not_special, not_held⟩

/-- What the tables map a code point to is settled. -/
theorem settled_of_mem_mapCase {n m : Nat} (hvalid : n.isValidChar) (h : m ∈ mapCase lowerSpecials lowerRanges n) :
    Settled m := by
  unfold mapCase at h
  split at h
  · rename_i special hspecial
    have hmem := List.mem_of_find?_eq_some hspecial
    cases List.mem_singleton.mp hmem
    exact settled_named m (List.mem_append_left _ h)
  · rename_i hspecial
    split at h
    · rename_i r hr
      cases List.mem_singleton.mp h
      have hn := List.find?_some hr
      exact settled_mapped (List.mem_of_find?_eq_some hr) hn
    · rename_i hranges
      cases List.mem_singleton.mp h
      refine ⟨hvalid, ?_, fun r hr => by simpa using List.find?_eq_none.mp hranges r hr⟩
      rintro rfl
      cases hspecial

/-- What a character is mapped to is settled. -/
theorem settled_of_mem_lowerChar {c d : Char} (h : d ∈ lowerChar c) : Settled d.toNat := by
  unfold lowerChar at h
  split at h
  · rename_i hascii
    split at h
    · rename_i capital
      cases List.mem_singleton.mp h
      have settled : Settled (c.toNat + 32) :=
        settled_mapped List.mem_cons_self (capitals_holds.mpr (isCapital_iff.mp capital))
      rw [toNat_ofNat settled.valid]
      exact settled
    · rename_i small
      cases List.mem_singleton.mp h
      refine ⟨c.valid, by omega, fun r hr => ?_⟩
      rcases lowerRanges_first r hr with rfl | hfirst
      · exact Bool.eq_false_iff.mpr fun hc => small (isCapital_iff.mpr (capitals_holds.mp hc))
      · refine Bool.eq_false_iff.mpr fun hc => ?_
        have := (CaseRange.holds_iff.mp hc).1
        omega
  · obtain ⟨n, hn, rfl⟩ := List.mem_map.mp h
    have settled := settled_of_mem_mapCase c.valid hn
    rw [toNat_ofNat settled.valid]
    exact settled

/-! ### Texts -/

theorem settled_of_mem_lowerFrom {before s : List Char} {d : Char} (h : d ∈ lowerFrom before s) : Settled d.toNat := by
  induction s generalizing before with
  | nil => cases h
  | cons c rest ih =>
    rw [lowerFrom] at h
    rcases List.mem_append.mp h with h | h
    · split at h
      · split at h <;> cases List.mem_singleton.mp h <;> exact settled_named _ (by decide)
      · exact settled_of_mem_lowerChar h
    · exact ih h

theorem lowerFrom_of_settled {before s : List Char} (h : ∀ c ∈ s, Settled c.toNat) : lowerFrom before s = s := by
  induction s generalizing before with
  | nil => rfl
  | cons c rest ih =>
    have hc := h c List.mem_cons_self
    rw [lowerFrom, if_neg (ne_capitalSigma_of_settled hc), lowerChar_of_settled hc,
      ih fun d hd => h d (List.mem_cons_of_mem _ hd)]
    rfl

/-- Lower-casing twice is the same as once. -/
theorem lower_lower (s : List Char) : lower (lower s) = lower s :=
  lowerFrom_of_settled fun _ => settled_of_mem_lowerFrom

end IdentityServer.Text
