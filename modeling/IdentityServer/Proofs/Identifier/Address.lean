import IdentityServer.Identifier.Address
import IdentityServer.Proofs.Text.Case
import IdentityServer.Proofs.Text.Integer
import IdentityServer.Proofs.Text.Split

/-! # Canonical addresses are canonical

The canonical addresses are the texts of a certain shape, and each is its own canonical spelling: there is nothing left to
trim, to lower-case or to strip of formatting. Blanks around an address, and the formatting and the plus signs of a phone
number, make no difference. -/

namespace IdentityServer

namespace Address
open Text
variable {medium : Medium} {raw address : String} {s t : List Char}

/-! ### Characters -/

theorem isPlain_iff {c : Char} : isPlain c = true ↔ c ≠ '@' ∧ isBlank c = false := by
  simp [isPlain]

theorem isFormatting_iff {c : Char} : isFormatting c = true ↔ c ∈ [' ', '-', '.', '(', ')'] := by
  simp [isFormatting, or_assoc]

theorem not_formatting_of_isDigit {c : Char} (h : c.isDigit = true) : isFormatting c = false := by
  simp only [isFormatting, Bool.or_eq_false_iff, decide_eq_false_iff_not]
  refine ⟨⟨⟨⟨?_, ?_⟩, ?_⟩, ?_⟩, ?_⟩ <;> exact ne_of_isDigit h (by decide)

/-! ### Formatting -/

/-- A text with spaces, dashes, dots and parentheses inserted into it. -/
inductive Formatted : List Char → List Char → Prop
  | nil : Formatted [] []
  | keep {s t : List Char} (c : Char) (rest : Formatted s t) : Formatted (c :: s) (c :: t)
  | insert {s t : List Char} {c : Char} (formatting : c ∈ [' ', '-', '.', '(', ')']) (rest : Formatted s t) : Formatted s (c :: t)

theorem Formatted.filter_eq (h : Formatted s t) :
    t.filter (fun c => !isFormatting c) = s.filter fun c => !isFormatting c := by
  induction h with
  | nil => rfl
  | keep c _ ih => rw [List.filter_cons, List.filter_cons, ih]
  | insert formatting _ ih => rw [List.filter_cons, isFormatting_iff.mpr formatting, if_neg (by decide), ih]

/-- The texts in which a phone number is written behind the plus signs: digits and formatting. -/
def Loose (s : List Char) : Prop :=
  ∀ c ∈ s, isFormatting c = true ∨ c.isDigit = true

theorem Formatted.loose (h : Formatted s t) (loose : Loose s) : Loose t := by
  induction h with
  | nil => exact loose
  | keep c _ ih =>
    obtain ⟨first, rest⟩ := List.forall_mem_cons.mp loose
    exact List.forall_mem_cons.mpr ⟨first, ih rest⟩
  | insert formatting _ ih => exact List.forall_mem_cons.mpr ⟨.inl (isFormatting_iff.mpr formatting), ih loose⟩

theorem Loose.dropWhile_plus (h : Loose s) : s.dropWhile (fun c => decide (c = '+')) = s := by
  refine dropWhile_eq fun c hc => decide_eq_false ?_
  rintro rfl
  rcases h '+' hc with formatting | digit
  · exact absurd formatting (by decide)
  · exact absurd digit (by decide)

theorem Loose.of_padded (loose : Loose t) (h : Padded s t) : Loose s := by
  obtain ⟨before, after, -, -, rfl⟩ := h
  exact fun c hc => loose c (List.mem_append_right _ (List.mem_append_left _ hc))

/-- Blanks in such a text are spaces, which only format it. -/
theorem Loose.isFormatting_of_isBlank (loose : Loose s) : ∀ c ∈ s, isBlank c = true → isFormatting c = true := by
  intro c hc blank
  refine (loose c hc).resolve_right fun digit => ?_
  rw [not_blank_of_isDigit digit] at blank
  cases blank

theorem Loose.filter_padded (loose : Loose t) (h : Padded s t) :
    t.filter (fun c => !isFormatting c) = s.filter fun c => !isFormatting c := by
  have spaces := loose.isFormatting_of_isBlank
  obtain ⟨before, after, hbefore, hafter, rfl⟩ := h
  have none_before : before.filter (fun c => !isFormatting c) = [] :=
    List.filter_eq_nil_iff.mpr fun c hc => by rw [spaces c (List.mem_append_left _ hc) (hbefore c hc)]; decide
  have none_after : after.filter (fun c => !isFormatting c) = [] :=
    List.filter_eq_nil_iff.mpr fun c hc => by
      rw [spaces c (List.mem_append_right _ (List.mem_append_right _ hc)) (hafter c hc)]; decide
  rw [List.filter_append, List.filter_append, none_before, none_after, List.nil_append, List.append_nil]

/-- Behind any number of plus signs, and with whatever blanks around them, the digits are those of the text. -/
theorem phoneDigits_signed (loose : Loose s) (signs : Nat) :
    phoneDigits (List.replicate signs '+' ++ s) = s.filter fun c => !isFormatting c := by
  cases signs with
  | zero =>
    have padded := padded_trim s
    rw [List.replicate_zero, List.nil_append, phoneDigits, (loose.of_padded padded).dropWhile_plus, loose.filter_padded padded]
  | succ n =>
    -- A plus sign is no blank, so the text can only lose blanks at its end.
    have visible : ∀ c ∈ List.replicate (n + 1) '+', isBlank c = false := by
      intro c hc
      rw [List.eq_of_mem_replicate hc]
      decide
    have start : (List.replicate (n + 1) '+' ++ s).dropWhile isBlank = List.replicate (n + 1) '+' ++ s := by
      rw [List.replicate_succ, List.cons_append, List.dropWhile_cons, if_neg (by decide)]
    obtain ⟨after, blanks, hs⟩ := exists_dropTail_append s
    have padded : Padded (dropTail isBlank s) s := ⟨[], after, nofun, blanks, hs⟩
    rw [phoneDigits, trim, start, dropTail_append_right visible,
      List.dropWhile_append_of_pos fun c hc => decide_eq_true (List.eq_of_mem_replicate hc),
      (loose.of_padded padded).dropWhile_plus, loose.filter_padded padded]

/-- The digits of a phone number are those of the spelling with a plus sign in front. -/
theorem phoneDigits_plus {digits : List Char} (h : isNumber digits = true) : phoneDigits ('+' :: digits) = digits := by
  simp only [isNumber, Bool.and_eq_true, List.all_eq_true] at h
  obtain ⟨⟨-, only_digits⟩, -⟩ := h
  have loose : Loose digits := fun c hc => .inr (only_digits c hc)
  refine (phoneDigits_signed loose 1).trans (List.filter_eq_self.mpr fun c hc => ?_)
  rw [not_formatting_of_isDigit (only_digits c hc)]
  rfl

/-! ### Shapes -/

/-- The form of email addresses: no blanks, and one at sign with something before it and with a dot between other characters
    behind it. -/
structure EmailForm (s : List Char) : Prop where
  visible : ∀ c ∈ s, isBlank c = false
  one_at : s.count '@' = 1
  parts : ∃ localPart host domain, localPart ≠ [] ∧ host ≠ [] ∧ domain ≠ [] ∧ s = localPart ++ '@' :: (host ++ '.' :: domain)

/-- The canonical email addresses: those that are their own lower case. -/
structure EmailShape (s : List Char) : Prop extends EmailForm s where
  lowered : lower s = s

/-- The canonical phone numbers: a plus sign and 8 to 15 digits, the first of them not zero. -/
structure PhoneShape (s : List Char) : Prop where
  digits : ∃ first rest, s = '+' :: first :: rest ∧ 7 ≤ rest.length ∧ rest.length ≤ 14 ∧
    (∀ c ∈ first :: rest, c.isDigit = true) ∧ first ≠ '0'

/-- The canonical addresses of a medium. -/
def HasShape : Medium → List Char → Prop
  | .email => EmailShape
  | .msisdn => PhoneShape

theorem hasInnerDot_iff : hasInnerDot s = true ↔ ∃ host domain, host ≠ [] ∧ domain ≠ [] ∧ s = host ++ '.' :: domain := by
  constructor
  · intro h
    cases s with
    | nil => cases h
    | cons x rest =>
      obtain ⟨a, b, hinner⟩ := List.append_of_mem (List.contains_iff_mem.mp h)
      obtain rfl | ⟨front, last, rfl⟩ := List.eq_nil_or_concat' rest
      · cases a <;> cases hinner
      · rw [List.dropLast_concat] at hinner
        exact ⟨x :: a, b ++ [last], List.cons_ne_nil _ _, by simp, by simp [hinner]⟩
  · rintro ⟨host, domain, some_host, some_domain, rfl⟩
    obtain ⟨x, a, rfl⟩ := List.exists_cons_of_ne_nil some_host
    have inner : (a ++ '.' :: domain).dropLast = a ++ '.' :: domain.dropLast := by
      rw [List.dropLast_append_of_ne_nil (List.cons_ne_nil _ _), List.dropLast_cons_of_ne_nil some_domain]
    rw [List.cons_append, hasInnerDot, inner]
    simp

theorem isEmail_iff : isEmail s = true ↔ EmailForm s := by
  constructor
  · intro h
    unfold isEmail at h
    split at h
    · rename_i localPart place hcut
      simp only [Bool.and_eq_true, Bool.not_eq_true', List.isEmpty_eq_false_iff, List.all_eq_true] at h
      obtain ⟨⟨⟨some_local, hlocal⟩, hplace⟩, hdot⟩ := h
      obtain ⟨host, domain, some_host, some_domain, rfl⟩ := hasInnerDot_iff.mp hdot
      obtain rfl := cut_eq_some hcut
      refine ⟨fun c hc => ?_, ?_, localPart, host, domain, some_local, some_host, some_domain, rfl⟩
      · rcases List.mem_append.mp hc with hc | hc
        · exact (isPlain_iff.mp (hlocal c hc)).2
        rcases List.mem_cons.mp hc with rfl | hc
        · decide
        · exact (isPlain_iff.mp (hplace c hc)).2
      · rw [List.count_append, List.count_cons_self, List.count_eq_zero.mpr fun mem => (isPlain_iff.mp (hlocal _ mem)).1 rfl,
          List.count_eq_zero.mpr fun mem => (isPlain_iff.mp (hplace _ mem)).1 rfl]
    · cases h
  · rintro ⟨visible, one_at, localPart, host, domain, some_local, some_host, some_domain, rfl⟩
    rw [List.count_append, List.count_cons_self] at one_at
    have not_local : '@' ∉ localPart := List.count_eq_zero.mp (by omega)
    have not_place : '@' ∉ host ++ '.' :: domain := List.count_eq_zero.mp (by omega)
    rw [isEmail, cut_append not_local]
    simp only [Bool.and_eq_true, Bool.not_eq_true', List.isEmpty_eq_false_iff, List.all_eq_true, isPlain_iff]
    refine ⟨⟨⟨some_local, fun c hc => ⟨fun same => not_local (same ▸ hc), ?_⟩⟩, fun c hc => ⟨fun same => not_place (same ▸ hc), ?_⟩⟩,
      hasInnerDot_iff.mpr ⟨host, domain, some_host, some_domain, rfl⟩⟩
    · exact visible c (List.mem_append_left _ hc)
    · exact visible c (List.mem_append_right _ (List.mem_cons_of_mem _ hc))

theorem isNumber_iff : isNumber s = true ↔ PhoneShape ('+' :: s) := by
  cases s with
  | nil => exact ⟨nofun, fun ⟨_, _, h, _⟩ => nomatch h⟩
  | cons first rest =>
    simp only [isNumber, Bool.and_eq_true, decide_eq_true_eq, List.all_eq_true, List.head?_cons, ne_eq, Option.some.injEq,
      List.length_cons]
    constructor
    · rintro ⟨⟨⟨least, most⟩, digits⟩, not_zero⟩
      exact ⟨first, rest, rfl, by omega, by omega, digits, not_zero⟩
    · rintro ⟨_, _, same, least, most, digits, not_zero⟩
      cases same
      exact ⟨⟨⟨by omega, by omega⟩, digits⟩, not_zero⟩

/-! ### Canonical spellings -/

theorem checked_eq_ok {p : Prop} [Decidable p] {fault : IdentifierFault} :
    (if p then Except.ok (String.ofList s) else .error fault) = .ok address ↔ p ∧ s = address.toList := by
  constructor
  · intro h
    split at h
    · rename_i shape
      cases h
      exact ⟨shape, String.toList_ofList.symm⟩
    · cases h
  · rintro ⟨shape, rfl⟩
    rw [if_pos shape, String.ofList_toList]

theorem canonicalize_email_iff : canonicalize .email raw = .ok address ↔
    isEmail (lower (trim raw.toList)) = true ∧ lower (trim raw.toList) = address.toList :=
  checked_eq_ok

theorem canonicalize_msisdn_iff : canonicalize .msisdn raw = .ok address ↔
    isNumber (phoneDigits raw.toList) = true ∧ '+' :: phoneDigits raw.toList = address.toList :=
  checked_eq_ok

theorem hasShape_of_canonicalize (h : canonicalize medium raw = .ok address) : HasShape medium address.toList := by
  cases medium with
  | email =>
    obtain ⟨email, same⟩ := canonicalize_email_iff.mp h
    rw [← same]
    exact ⟨isEmail_iff.mp email, lower_lower _⟩
  | msisdn =>
    obtain ⟨number, same⟩ := canonicalize_msisdn_iff.mp h
    rw [← same]
    exact isNumber_iff.mp number

/-- The addresses that are their own canonical spelling are those of the shape. -/
theorem canonicalize_eq_self_iff : canonicalize medium address = .ok address ↔ HasShape medium address.toList := by
  refine ⟨hasShape_of_canonicalize, fun h => ?_⟩
  cases medium with
  | email =>
    obtain ⟨form, lowered⟩ := h
    rw [canonicalize_email_iff, trim_eq form.visible, lowered]
    exact ⟨isEmail_iff.mpr form, rfl⟩
  | msisdn =>
    obtain ⟨first, rest, same, -⟩ := h.digits
    have number : isNumber (first :: rest) = true := isNumber_iff.mpr (same ▸ h)
    rw [canonicalize_msisdn_iff, same, phoneDigits_plus number]
    exact ⟨number, rfl⟩

/-- A canonical spelling is its own canonical spelling. -/
theorem canonicalize_canonical (h : canonicalize medium raw = .ok address) : canonicalize medium address = .ok address :=
  canonicalize_eq_self_iff.mpr (hasShape_of_canonicalize h)

/-- Blanks around an address make no difference. -/
theorem canonicalize_padded {padded : String} (h : Padded raw.toList padded.toList) :
    canonicalize medium padded = canonicalize medium raw := by
  cases medium with
  | email => rw [canonicalize, canonicalize, trim_padded h]
  | msisdn => rw [canonicalize, canonicalize, phoneDigits, phoneDigits, trim_padded h]

/-- Formatting behind the plus signs, and their number, make no difference to a phone number. -/
theorem canonicalize_formatted {signs : Nat} {rest formatted : List Char}
    (trimmed : trim (List.replicate signs '+' ++ rest) = List.replicate signs '+' ++ rest) (unsigned : rest.head? ≠ some '+')
    (h : Formatted rest formatted)
    (canonical : canonicalize .msisdn (String.ofList (List.replicate signs '+' ++ rest)) = .ok address) (signs' : Nat) :
    canonicalize .msisdn (String.ofList (List.replicate signs' '+' ++ formatted)) = .ok address := by
  have behind : rest.dropWhile (fun c => decide (c = '+')) = rest := by
    cases rest with
    | nil => rfl
    | cons c rest => exact List.dropWhile_cons_of_neg fun plus => unsigned (congrArg some (of_decide_eq_true plus))
  have digits : phoneDigits (List.replicate signs '+' ++ rest) = rest.filter fun c => !isFormatting c := by
    rw [phoneDigits, trimmed, List.dropWhile_append_of_pos fun c hc => decide_eq_true (List.eq_of_mem_replicate hc), behind]
  rw [canonicalize_msisdn_iff, String.toList_ofList] at canonical ⊢
  rw [digits] at canonical
  have loose : Loose rest := by
    intro c hc
    cases formatting : isFormatting c with
    | true => exact .inl rfl
    | false =>
      obtain ⟨number, -⟩ := canonical
      simp only [isNumber, Bool.and_eq_true, List.all_eq_true] at number
      exact .inr (number.1.2 c (List.mem_filter.mpr ⟨hc, by rw [formatting]; rfl⟩))
  rw [phoneDigits_signed (h.loose loose), h.filter_eq]
  exact canonical

end Address

end IdentityServer
