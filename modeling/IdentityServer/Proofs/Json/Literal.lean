import IdentityServer.Proofs.Json.RoundTrip

/-! # Number literals

A literal is read part by part: the sign, the digits before the point, those after it, the exponent. What does not
continue a number can be put behind it, and it denotes an integer that fits a word or a finite double. -/

namespace IdentityServer

namespace Json

/-! ### The parts of a literal -/

def signPart (s : List Char) : Bool × List Char :=
  match s with
  | '-' :: rest => (true, rest)
  | _ => (false, s)

def wholePart (s : List Char) : List Char × List Char :=
  match s with
  | '0' :: rest => (['0'], rest)
  | _ => spanDigits s

def fractionPart (s : List Char) : Option (List Char) × List Char :=
  match s with
  | '.' :: rest => (some (spanDigits rest).1, (spanDigits rest).2)
  | _ => (none, s)

def exponentSign (s : List Char) : Bool × List Char :=
  match s with
  | '-' :: rest => (true, rest)
  | '+' :: rest => (false, rest)
  | _ => (false, s)

def exponentPart? (s : List Char) : Option (Option Int × List Char) :=
  match s with
  | 'e' :: rest | 'E' :: rest =>
    let (minus, rest) := exponentSign rest
    let (digits, rest) := spanDigits rest
    (Text.readNat digits).map fun n => (some (if minus then -(n : Int) else n), rest)
  | _ => some (none, s)

theorem exponent_eq (negative : Bool) (whole : List Char) (fraction : Option (List Char)) (s : List Char) :
    (match s with
      | 'e' :: rest | 'E' :: rest =>
        let (minus, rest) := match rest with
          | '-' :: rest => (true, rest)
          | '+' :: rest => (false, rest)
          | _ => (false, rest)
        let (digits, rest) := spanDigits rest
        (Text.readNat digits).map fun n =>
          ((⟨negative, whole, fraction, some (if minus then -(n : Int) else n)⟩ : NumberLiteral), rest)
      | _ => some (⟨negative, whole, fraction, none⟩, s)) =
    (exponentPart? s).map fun p => (⟨negative, whole, fraction, p.1⟩, p.2) := by
  unfold exponentPart?
  split
  · simp only [Option.map_map]
    rfl
  · simp only [Option.map_map]
    rfl
  · rfl

theorem literal?_eq (s : List Char) : literal? s =
    let (negative, s) := signPart s
    let (whole, s) := wholePart s
    if whole.isEmpty || (whole == ['0'] && s.head?.any Char.isDigit) then none
    else
      let (fraction, s) := fractionPart s
      if fraction == some [] then none
      else (exponentPart? s).map fun p => (⟨negative, whole, fraction, p.1⟩, p.2) := by
  simp only [← exponent_eq]
  rfl

variable {s rest : List Char} {l : NumberLiteral}

theorem literal?_eq_some : literal? s = some (l, rest) ↔ ∃ unsigned afterWhole afterFraction,
    signPart s = (l.negative, unsigned) ∧ wholePart unsigned = (l.whole, afterWhole) ∧
    (l.whole.isEmpty || (l.whole == ['0'] && afterWhole.head?.any Char.isDigit)) = false ∧
    fractionPart afterWhole = (l.fraction, afterFraction) ∧ l.fraction ≠ some [] ∧
    exponentPart? afterFraction = some (l.exponent, rest) := by
  rw [literal?_eq]
  rcases signPart s with ⟨negative, unsigned⟩
  dsimp only
  rcases hwhole : wholePart unsigned with ⟨whole, afterWhole⟩
  dsimp only
  rcases hfraction : fractionPart afterWhole with ⟨fraction, afterFraction⟩
  dsimp only
  constructor
  · intro h
    split at h
    · cases h
    split at h
    · cases h
    rename_i wellBegun present
    obtain ⟨⟨exponent, rest'⟩, hexponent, h⟩ := Option.map_eq_some_iff.mp h
    cases h
    refine ⟨unsigned, afterWhole, afterFraction, rfl, hwhole, Bool.eq_false_iff.mpr wellBegun, hfraction, ?_, hexponent⟩
    simpa using present
  · rintro ⟨unsigned', afterWhole', afterFraction', hsign, hwhole', wellBegun, hfraction', present, hexponent⟩
    cases hsign
    cases hwhole.symm.trans hwhole'
    cases hfraction.symm.trans hfraction'
    rw [if_neg (Bool.eq_false_iff.mp wellBegun), if_neg (by simpa using present), hexponent]
    rfl

/-! ### What follows a literal -/

theorem spanDigits_append (hrest : EndsNumber rest) :
    spanDigits (s ++ rest) = ((spanDigits s).1, (spanDigits s).2 ++ rest) := by
  simp only [spanDigits, List.span_eq_takeWhile_dropWhile]
  induction s with
  | nil =>
    cases rest with
    | nil => rfl
    | cons c rest => simp [hrest.1]
  | cons c s ih =>
    obtain ⟨htake, hdrop⟩ := Prod.mk.inj ih
    by_cases hc : c.isDigit = true <;> simp [hc, htake, hdrop]

theorem signPart_append (h : s ≠ []) : signPart (s ++ rest) = ((signPart s).1, (signPart s).2 ++ rest) := by
  obtain ⟨c, s, rfl⟩ := List.exists_cons_of_ne_nil h
  by_cases hc : c = '-'
  · subst hc
    rfl
  · simp [signPart, hc]

theorem wholePart_append (hrest : EndsNumber rest) :
    wholePart (s ++ rest) = ((wholePart s).1, (wholePart s).2 ++ rest) := by
  have digits := spanDigits_append (s := s) hrest
  cases s with
  | nil =>
    cases rest with
    | nil => rfl
    | cons c rest =>
      have hzero : c ≠ '0' := by
        rintro rfl
        exact absurd hrest.1 (by decide)
      simpa [wholePart, hzero] using digits
  | cons c s =>
    by_cases hc : c = '0'
    · subst hc
      rfl
    · simpa [wholePart, hc] using digits

theorem fractionPart_append (hrest : EndsNumber rest) :
    fractionPart (s ++ rest) = ((fractionPart s).1, (fractionPart s).2 ++ rest) := by
  cases s with
  | nil =>
    cases rest with
    | nil => rfl
    | cons c rest => simp [fractionPart, hrest.2.1]
  | cons c s =>
    by_cases hc : c = '.'
    · subst hc
      simp [fractionPart, spanDigits_append hrest]
    · simp [fractionPart, hc]

theorem exponentSign_append (rest : List Char) (hne : s ≠ []) :
    exponentSign (s ++ rest) = ((exponentSign s).1, (exponentSign s).2 ++ rest) := by
  obtain ⟨c, s, rfl⟩ := List.exists_cons_of_ne_nil hne
  by_cases hminus : c = '-'
  · subst hminus
    rfl
  · by_cases hplus : c = '+'
    · subst hplus
      rfl
    · simp [exponentSign, hminus, hplus]

/-- An exponent that was read has digits, so its sign was not the last character. -/
theorem exponentPart?_append {exponent : Option Int} {after : List Char} (hrest : EndsNumber rest)
    (h : exponentPart? s = some (exponent, after)) : exponentPart? (s ++ rest) = some (exponent, after ++ rest) := by
  cases s with
  | nil =>
    cases h
    cases rest with
    | nil => rfl
    | cons c rest => simp [exponentPart?, hrest.2.2.1, hrest.2.2.2]
  | cons mark s =>
    by_cases hmark : mark = 'e' ∨ mark = 'E'
    · have shape : ∀ s, exponentPart? (mark :: s) =
          (Text.readNat (spanDigits (exponentSign s).2).1).map fun n =>
            (some (if (exponentSign s).1 then -(n : Int) else n), (spanDigits (exponentSign s).2).2) := by
        rcases hmark with rfl | rfl <;> exact fun _ => rfl
      have hne : s ≠ [] := by
        rintro rfl
        rw [shape] at h
        cases h
      rw [shape] at h
      rw [List.cons_append, shape, exponentSign_append rest hne]
      dsimp only
      rw [spanDigits_append hrest]
      obtain ⟨n, hn, h⟩ := Option.map_eq_some_iff.mp h
      rw [hn]
      cases h
      rfl
    · obtain ⟨he, hE⟩ := not_or.mp hmark
      have absent : ∀ s, exponentPart? (mark :: s) = some (none, mark :: s) := fun s => by simp [exponentPart?, he, hE]
      rw [absent] at h
      cases h
      exact absent (s ++ rest)

/-- What does not continue a number can be put behind a literal. -/
theorem literal?_append {after : List Char} (hrest : EndsNumber rest) (h : literal? s = some (l, after)) :
    literal? (s ++ rest) = some (l, after ++ rest) := by
  obtain ⟨unsigned, afterWhole, afterFraction, hsign, hwhole, wellBegun, hfraction, present, hexponent⟩ :=
    literal?_eq_some.mp h
  have hs : s ≠ [] := by
    rintro rfl
    cases h
  refine literal?_eq_some.mpr ⟨unsigned ++ rest, afterWhole ++ rest, afterFraction ++ rest, ?_, ?_, ?_, ?_, present,
    exponentPart?_append hrest hexponent⟩
  · rw [signPart_append hs, hsign]
  · rw [wholePart_append hrest, hwhole]
  · cases afterWhole with
    | nil =>
      cases rest with
      | nil => exact wellBegun
      | cons c rest => simpa [hrest.1] using wellBegun
    | cons c afterWhole => exact wellBegun
  · rw [fractionPart_append hrest, hfraction]

theorem spanDigits_suffix (s : List Char) : (spanDigits s).2 <:+ s := by
  rw [spanDigits, List.span_eq_takeWhile_dropWhile]
  exact List.dropWhile_suffix _

theorem signPart_suffix (s : List Char) : (signPart s).2 <:+ s := by
  unfold signPart
  split
  · exact List.suffix_cons ..
  · exact List.suffix_rfl

theorem wholePart_suffix (s : List Char) : (wholePart s).2 <:+ s := by
  unfold wholePart
  split
  · exact List.suffix_cons ..
  · exact spanDigits_suffix s

theorem fractionPart_suffix (s : List Char) : (fractionPart s).2 <:+ s := by
  unfold fractionPart
  split
  · exact (spanDigits_suffix _).trans (List.suffix_cons ..)
  · exact List.suffix_rfl

theorem exponentSign_suffix (s : List Char) : (exponentSign s).2 <:+ s := by
  unfold exponentSign
  split
  · exact List.suffix_cons ..
  · exact List.suffix_cons ..
  · exact List.suffix_rfl

theorem exponentPart?_suffix {exponent : Option Int} (h : exponentPart? s = some (exponent, rest)) : rest <:+ s := by
  have digits : ∀ s, (spanDigits (exponentSign s).2).2 <:+ s := fun s =>
    (spanDigits_suffix _).trans (exponentSign_suffix s)
  unfold exponentPart? at h
  split at h
  · obtain ⟨n, -, h⟩ := Option.map_eq_some_iff.mp h
    cases h
    exact (digits _).trans (List.suffix_cons ..)
  · obtain ⟨n, -, h⟩ := Option.map_eq_some_iff.mp h
    cases h
    exact (digits _).trans (List.suffix_cons ..)
  · cases h
    exact List.suffix_rfl

theorem literal?_suffix (h : literal? s = some (l, rest)) : rest <:+ s := by
  obtain ⟨unsigned, afterWhole, afterFraction, hsign, hwhole, -, hfraction, -, hexponent⟩ := literal?_eq_some.mp h
  have sign := signPart_suffix s
  have whole := wholePart_suffix unsigned
  have fraction := fractionPart_suffix afterWhole
  rw [hsign] at sign
  rw [hwhole] at whole
  rw [hfraction] at fraction
  exact (exponentPart?_suffix hexponent).trans (fraction.trans (whole.trans sign))

/-- A literal starts with its sign or a digit. -/
theorem literal?_starts (h : literal? s = some (l, rest)) : ∃ c cs, s = c :: cs ∧ (c = '-' ∨ c.isDigit = true) := by
  obtain ⟨unsigned, afterWhole, -, hsign, hwhole, wellBegun, -⟩ := literal?_eq_some.mp h
  cases s with
  | nil => cases h
  | cons c s =>
    refine ⟨c, s, rfl, or_iff_not_imp_left.mpr fun hminus => ?_⟩
    by_contra hdigit
    have hzero : c ≠ '0' := by
      rintro rfl
      exact hdigit (by decide)
    have hunsigned : signPart (c :: s) = (false, c :: s) := by simp [signPart, hminus]
    obtain ⟨-, rfl⟩ := Prod.mk.inj (hunsigned.symm.trans hsign)
    have nothing : (wholePart (c :: s)).1 = [] := by
      simp [wholePart, hzero, spanDigits, List.span_eq_takeWhile_dropWhile, hdigit]
    have hempty : l.whole = [] := (congrArg Prod.fst hwhole).symm.trans nothing
    rw [hempty] at wellBegun
    cases wellBegun

/-! ### What a literal denotes -/

theorem takeDigits_lt {acc : Nat} (h : acc < UInt64.size) (digits : List Char) :
    (takeDigits acc digits).1 < UInt64.size := by
  induction digits generalizing acc with
  | nil => exact h
  | cons c rest ih =>
    rw [takeDigits]
    split
    · exact ih ‹_›
    · exact h

end Json

namespace Binary64

theorem lt_of_roundRatio {n d m : Nat} (h : roundRatio n d = some m) : m < infinityBits := by
  by_cases hn : n = 0
  · rw [roundRatio, if_pos hn] at h
    cases h
    decide
  · rw [roundRatio, if_neg hn] at h
    obtain ⟨below, hm⟩ := Option.ite_none_right_eq_some.mp h
    exact Option.some.inj hm ▸ below

theorem isFinite_ofMagnitude (negative : Bool) {m : Nat} (h : m < infinityBits) :
    (ofMagnitude negative m).isFinite = true := by
  have infinity : infinityBits = 9218868437227405312 := rfl
  have sign : signWeight = 9223372036854775808 := rfl
  have magnitude : (ofMagnitude negative m).magnitude = m := by
    rw [Binary64.magnitude, ofMagnitude, UInt64.toNat_ofNat', sign]
    cases negative <;> simp <;> omega
  exact decide_eq_true (magnitude.symm ▸ h)

end Binary64

namespace Json

theorem lt_of_scaleTo {fuel magnitude m : Nat} {exponent : Int} (h : scaleTo fuel magnitude exponent = some m) :
    m < Binary64.infinityBits := by
  induction fuel generalizing magnitude exponent with
  | zero =>
    cases h
    decide
  | succ fuel ih =>
    rw [scaleTo] at h
    split at h
    · obtain ⟨power, -, h⟩ := Option.bind_eq_some_iff.mp h
      split at h
      · exact Binary64.lt_of_roundRatio h
      · exact Binary64.lt_of_roundRatio h
    · split at h
      · cases h
        decide
      split at h
      · cases h
      obtain ⟨power, -, h⟩ := Option.bind_eq_some_iff.mp h
      obtain ⟨next, -, h⟩ := Option.bind_eq_some_iff.mp h
      exact ih h

theorem wellFormed_float (negative : Bool) {significand : Nat} {exponent : Int} {v : Json}
    (h : (scaled significand exponent).map (fun m => .float (Binary64.ofMagnitude negative m)) = some v) :
    v.WellFormed ∧ v.depth = 0 := by
  obtain ⟨m, hm, rfl⟩ := Option.map_eq_some_iff.mp h
  obtain ⟨magnitude, -, hm⟩ := Option.bind_eq_some_iff.mp hm
  exact ⟨Binary64.isFinite_ofMagnitude negative (lt_of_scaleTo hm), rfl⟩

/-- A number is an integer that fits a word or a finite double. -/
theorem NumberLiteral.wellFormed_value? {l : NumberLiteral} {v : Json} (h : l.value? = some v) :
    v.WellFormed ∧ v.depth = 0 := by
  have hsize : UInt64.size = 18446744073709551616 := rfl
  have hleast : Int64.minValue.toInt = -9223372036854775808 := rfl
  have hwhole : (takeDigits 0 l.whole).1 < UInt64.size := takeDigits_lt (by decide) l.whole
  unfold NumberLiteral.value? at h
  rcases takeDigits 0 l.whole with ⟨whole, dropped⟩
  dsimp only at h hwhole
  split at h
  · split at h
    · cases h
      refine ⟨?_, rfl⟩
      simp only [WellFormed, fitsWord, hleast, hsize, Bool.and_eq_true, decide_eq_true_eq]
      omega
    split at h
    · cases h
      refine ⟨?_, rfl⟩
      simp only [WellFormed, fitsWord, hleast, hsize, Bool.and_eq_true, decide_eq_true_eq]
      omega
    · exact wellFormed_float true h
  · exact wellFormed_float l.negative h

end Json

end IdentityServer
