import IdentityServer.Duration
import IdentityServer.Proofs.Text.Blank
import IdentityServer.Proofs.Text.Integer

/-! # What durations denote

A text is read as a duration exactly if it is a number of milliseconds, or a count directly followed by a unit, and the
milliseconds fit a word. Nothing wraps around: a product that is too great is refused with the text. -/

namespace IdentityServer.Duration
open Text
variable {s : List Char} {ms : Int64}

/-- The units, each with its milliseconds. -/
def units : List (Char × Int) :=
  [('s', 1000), ('m', 60000), ('h', 3600000), ('d', 86400000), ('w', 604800000), ('y', 31536000000)]

/-- What a text denotes, in milliseconds: an integer that a word holds, or one that a word holds with a unit behind it. -/
inductive Denotes : List Char → Int64 → Prop
  | millis {s : List Char} {ms : Int64} (numeral : Numeral s ms.toInt) : Denotes s ms
  | counted {s : List Char} {count ms : Int64} {unit : Char} {size : Int} (numeral : Numeral s count.toInt)
    (of_unit : (unit, size) ∈ units) (product : count.toInt * size = ms.toInt) : Denotes (s ++ [unit]) ms

theorem unit?_eq_some {c : Char} {size : Int} : unit? c = some size ↔ (c, size) ∈ units := by
  constructor
  · intro h
    unfold unit? at h
    split at h
    all_goals cases h
    all_goals decide
  · intro h
    simp only [units, List.mem_cons, Prod.mk.injEq, List.not_mem_nil, or_false] at h
    rcases h with ⟨rfl, rfl⟩ | ⟨rfl, rfl⟩ | ⟨rfl, rfl⟩ | ⟨rfl, rfl⟩ | ⟨rfl, rfl⟩ | ⟨rfl, rfl⟩ <;> rfl

theorem not_digit_of_mem_units : ∀ unit ∈ units, unit.1.isDigit = false := by
  decide

theorem withUnit?_eq_some : withUnit? s = some ms ↔ ∃ digits unit size count, s = digits ++ [unit] ∧
    (unit, size) ∈ units ∧ Numeral digits (Int64.toInt count) ∧ count.toInt * size = ms.toInt := by
  simp only [withUnit?, Option.bind_eq_bind, Option.bind_eq_some_iff, List.getLast?_eq_some_iff, unit?_eq_some,
    readInt64_eq_some, toInt64?_eq_some]
  constructor
  · rintro ⟨unit, ⟨digits, rfl⟩, size, of_unit, count, numeral, product⟩
    rw [List.dropLast_concat] at numeral
    exact ⟨digits, unit, size, count, rfl, of_unit, numeral, product.symm⟩
  · rintro ⟨digits, unit, size, count, rfl, of_unit, numeral, product⟩
    refine ⟨unit, ⟨digits, rfl⟩, size, of_unit, count, ?_, product.symm⟩
    rw [List.dropLast_concat]
    exact numeral

theorem readInt64_unit {digits : List Char} {unit : Char} {size : Int} (h : (unit, size) ∈ units) :
    readInt64 (digits ++ [unit]) = none := by
  refine Option.eq_none_iff_forall_ne_some.mpr fun w hw => ?_
  have digit := (readInt64_eq_some.mp hw).isDigit_last
  rw [not_digit_of_mem_units _ h] at digit
  cases digit

/-- The duration in a text that is not empty, if there is one. -/
theorem denotes_iff : Denotes s ms ↔ readInt64 s = some ms ∨ (readInt64 s = none ∧ withUnit? s = some ms) := by
  rw [readInt64_eq_some, withUnit?_eq_some]
  constructor
  · rintro (numeral | ⟨numeral, of_unit, product⟩)
    · exact .inl numeral
    · exact .inr ⟨readInt64_unit of_unit, _, _, _, _, rfl, of_unit, numeral, product⟩
  · rintro (numeral | ⟨-, digits, unit, size, count, rfl, of_unit, numeral, product⟩)
    · exact .millis numeral
    · exact .counted numeral of_unit product

theorem not_denotes_nil : ¬ Denotes [] ms := by
  intro h
  rcases denotes_iff.mp h with h | ⟨-, h⟩ <;> cases h

/-! ### Reading -/

theorem parse_of_nil {text : String} (h : trim text.toList = []) : parse text = .ok none := by
  rw [parse, h]
  rfl

theorem parse_of_denotes {text : String} (h : Denotes (trim text.toList) ms) : parse text = .ok (some ms) := by
  have some_text : ¬ (trim text.toList).isEmpty = true := by
    intro empty
    rw [List.isEmpty_iff.mp empty] at h
    exact not_denotes_nil h
  rw [parse, if_neg some_text]
  rcases denotes_iff.mp h with read | ⟨missed, read⟩
  · rw [read]
  · rw [missed, read]

theorem parse_of_not_denotes {text : String} (some_text : trim text.toList ≠ [])
    (h : ∀ ms, ¬ Denotes (trim text.toList) ms) : parse text = .error ⟨String.ofList (trim text.toList)⟩ := by
  have unread : readInt64 (trim text.toList) = none :=
    Option.eq_none_iff_forall_ne_some.mpr fun ms read => h ms (denotes_iff.mpr (.inl read))
  have uncounted : withUnit? (trim text.toList) = none :=
    Option.eq_none_iff_forall_ne_some.mpr fun ms read => h ms (denotes_iff.mpr (.inr ⟨unread, read⟩))
  rw [parse, if_neg fun empty => some_text (List.isEmpty_iff.mp empty), unread, uncounted]

/-- A text is exactly one of these: blank, a duration, or none. -/
theorem parse_cases (text : String) :
    (trim text.toList = [] ∧ parse text = .ok none) ∨
    (∃ ms, Denotes (trim text.toList) ms ∧ parse text = .ok (some ms)) ∨
    (trim text.toList ≠ [] ∧ (∀ ms, ¬ Denotes (trim text.toList) ms) ∧
      parse text = .error ⟨String.ofList (trim text.toList)⟩) := by
  by_cases blank : trim text.toList = []
  · exact .inl ⟨blank, parse_of_nil blank⟩
  by_cases denotes : ∃ ms, Denotes (trim text.toList) ms
  · obtain ⟨ms, denotes⟩ := denotes
    exact .inr (.inl ⟨ms, denotes, parse_of_denotes denotes⟩)
  · have none_denoted := not_exists.mp denotes
    exact .inr (.inr ⟨blank, none_denoted, parse_of_not_denotes blank none_denoted⟩)

theorem parse_eq_none_iff {text : String} : parse text = .ok none ↔ trim text.toList = [] := by
  refine ⟨fun read => ?_, parse_of_nil⟩
  obtain ⟨blank, -⟩ | ⟨ms, -, other⟩ | ⟨-, -, other⟩ := parse_cases text
  · exact blank
  · cases read.symm.trans other
  · cases read.symm.trans other

theorem parse_eq_some_iff {text : String} : parse text = .ok (some ms) ↔ Denotes (trim text.toList) ms := by
  refine ⟨fun read => ?_, parse_of_denotes⟩
  obtain ⟨-, other⟩ | ⟨found, denotes, same⟩ | ⟨-, -, other⟩ := parse_cases text
  · cases read.symm.trans other
  · cases read.symm.trans same
    exact denotes
  · cases read.symm.trans other

theorem parse_eq_error_iff {text : String} {fault : Fault} : parse text = .error fault ↔
    fault.text = String.ofList (trim text.toList) ∧ trim text.toList ≠ [] ∧ ∀ ms, ¬ Denotes (trim text.toList) ms := by
  constructor
  · intro refused
    obtain ⟨-, other⟩ | ⟨ms, -, other⟩ | ⟨some_text, none_denoted, same⟩ := parse_cases text
    · cases refused.symm.trans other
    · cases refused.symm.trans other
    · cases refused.symm.trans same
      exact ⟨rfl, some_text, none_denoted⟩
  · rintro ⟨left, some_text, none_denoted⟩
    rw [parse_of_not_denotes some_text none_denoted, ← left]

theorem trim_showInt (n : Int) : trim (showInt n) = showInt n :=
  trim_eq fun _ => not_blank_of_mem_showInt

/-- What is written of a number of milliseconds is that many milliseconds. -/
theorem parse_showInt (ms : Int64) : parse (String.ofList (showInt ms.toInt)) = .ok (some ms) := by
  refine parse_of_denotes (.millis ?_)
  rw [String.toList_ofList, trim_showInt]
  exact numeral_showInt ms.toInt

/-- Of every text, without the blanks around it: no duration is read exactly if nothing is left; a duration exactly if that
    is what it denotes, in unbounded arithmetic; and everything else is refused with what is left. What is written of a word
    is read back. -/
theorem parse_exact (text : String) :
    (parse text = .ok none ↔ trim text.toList = []) ∧
    (∀ ms, parse text = .ok (some ms) ↔ Denotes (trim text.toList) ms) ∧
    (∀ fault, parse text = .error fault ↔ fault.text = String.ofList (trim text.toList) ∧ trim text.toList ≠ [] ∧
      ∀ ms, ¬ Denotes (trim text.toList) ms) ∧
    ∀ ms : Int64, parse (String.ofList (showInt ms.toInt)) = .ok (some ms) :=
  ⟨parse_eq_none_iff, fun _ => parse_eq_some_iff, fun _ => parse_eq_error_iff, parse_showInt⟩

/-- The greatest number of days that fits, between blanks; one more is refused. -/
theorem parse_exact_days :
    Denotes "106751991167d".toList 9223372036828800000 ∧ (∀ ms, ¬ Denotes "106751991168d".toList ms) ∧
      parse " 106751991168d" = .error ⟨"106751991168d"⟩ := by
  have refused : parse " 106751991168d" = .error ⟨"106751991168d"⟩ := by decide +kernel
  obtain ⟨-, read, -⟩ := parse_exact "\u3000106751991167d\n"
  obtain ⟨-, -, unread, -⟩ := parse_exact " 106751991168d"
  obtain ⟨-, -, none_denoted⟩ := (unread _).mp refused
  exact ⟨(read _).mp (by decide +kernel), none_denoted, refused⟩

end IdentityServer.Duration
