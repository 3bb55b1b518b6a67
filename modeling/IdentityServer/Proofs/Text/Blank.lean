import IdentityServer.Text.Blank
import Mathlib.Data.List.TakeWhile

/-! # Blanks around and between

What is left of a text when the blanks at both ends are cut off: blanks put around it make no difference. Blanks between
words make none either: the pieces of a text are its words, whatever blanks keep them apart. -/

namespace IdentityServer.Text
variable {s t : List Char} {c : Char}

theorem dropWhile_eq {p : Char → Bool} {s : List Char} (h : ∀ c ∈ s, p c = false) : s.dropWhile p = s := by
  cases s with
  | nil => rfl
  | cons c rest => rw [List.dropWhile_cons, h c List.mem_cons_self]; rfl

theorem dropTail_eq (h : ∀ c ∈ s, isBlank c = false) : dropTail isBlank s = s := by
  rw [dropTail, dropWhile_eq fun c hc => h c (List.mem_reverse.mp hc), List.reverse_reverse]

/-- A text without blanks has none at its ends. -/
theorem trim_eq (h : ∀ c ∈ s, isBlank c = false) : trim s = s := by
  rw [trim, dropWhile_eq h, dropTail_eq h]

theorem not_blank_of_isDigit (h : c.isDigit = true) : isBlank c = false := by
  have hrange := Char.isDigit_iff_toNat.mp h
  have hfirst : '0'.toNat = 48 := rfl
  have hlast : '9'.toNat = 57 := rfl
  refine Bool.eq_false_iff.mpr fun hblank => ?_
  simp only [isBlank, Bool.or_eq_true, Bool.and_eq_true, decide_eq_true_eq, beq_iff_eq] at hblank
  omega

/-- A text that starts and ends with other characters than blanks has none to lose. -/
theorem trim_between {first last : Char} (hfirst : isBlank first = false) (hlast : isBlank last = false)
    (inner : List Char) : trim (first :: (inner ++ [last])) = first :: (inner ++ [last]) := by
  rw [trim, List.dropWhile_cons, hfirst, if_neg Bool.false_ne_true, dropTail, ← List.cons_append, List.reverse_append,
    List.reverse_singleton, List.singleton_append, List.dropWhile_cons, hlast, if_neg Bool.false_ne_true,
    List.reverse_cons, List.reverse_reverse]

/-! ### Blanks around a text -/

/-- A text of blanks only. -/
def Blanks (s : List Char) : Prop :=
  ∀ c ∈ s, isBlank c = true

instance decidableBlanks (s : List Char) : Decidable (Blanks s) :=
  decidable_of_iff (s.all isBlank = true) List.all_eq_true

/-- A text with blanks around it. -/
def Padded (s padded : List Char) : Prop :=
  ∃ before after, Blanks before ∧ Blanks after ∧ padded = before ++ (s ++ after)

theorem padded_append (h : Blanks t) (s : List Char) : Padded s (s ++ t) :=
  ⟨[], t, nofun, h, rfl⟩

theorem padded_prepend (h : Blanks s) (t : List Char) : Padded t (s ++ t) :=
  ⟨s, [], h, nofun, by rw [List.append_nil]⟩

theorem not_mem_blanks (hc : isBlank c = false) (h : Blanks s) : c ∉ s := by
  intro mem
  rw [h c mem] at hc
  cases hc

theorem dropTail_append_blanks (h : Blanks t) (s : List Char) : dropTail isBlank (s ++ t) = dropTail isBlank s := by
  rw [dropTail, dropTail, List.reverse_append, List.dropWhile_append_of_pos fun c hc => h c (List.mem_reverse.mp hc)]

theorem dropTail_append (hc : c ∈ t) (visible : isBlank c = false) (s : List Char) :
    dropTail isBlank (s ++ t) = s ++ dropTail isBlank t := by
  have left : (t.reverse.dropWhile isBlank).isEmpty = false := by
    rw [List.isEmpty_eq_false_iff, ne_eq, List.dropWhile_eq_nil_iff]
    intro blank
    rw [blank c (List.mem_reverse.mpr hc)] at visible
    cases visible
  rw [dropTail, dropTail, List.reverse_append, List.dropWhile_append, left, if_neg Bool.false_ne_true, List.reverse_append,
    List.reverse_reverse]

/-- Of a text with blanks nowhere and one behind it, only the second loses some. -/
theorem dropTail_append_right (h : ∀ c ∈ s, isBlank c = false) (t : List Char) :
    dropTail isBlank (s ++ t) = s ++ dropTail isBlank t := by
  by_cases blanks : Blanks t
  · have none_left : dropTail isBlank t = [] := dropTail_append_blanks blanks []
    rw [dropTail_append_blanks blanks, dropTail_eq h, none_left, List.append_nil]
  · obtain ⟨c, hc, visible⟩ : ∃ c ∈ t, isBlank c = false := by simpa [Blanks] using blanks
    exact dropTail_append hc visible s

theorem exists_dropTail_append (s : List Char) : ∃ after, Blanks after ∧ s = dropTail isBlank s ++ after := by
  refine ⟨(s.reverse.takeWhile isBlank).reverse, fun c hc => ?_, ?_⟩
  · exact List.all_eq_true.mp List.all_takeWhile c (List.mem_reverse.mp hc)
  · rw [dropTail, ← List.reverse_append, List.takeWhile_append_dropWhile, List.reverse_reverse]

theorem trim_padded (h : Padded s t) : trim t = trim s := by
  obtain ⟨before, after, hbefore, hafter, rfl⟩ := h
  rw [trim, trim, List.dropWhile_append_of_pos hbefore, List.dropWhile_append]
  split
  · rename_i blank
    rw [List.isEmpty_iff.mp blank, List.dropWhile_eq_nil_iff.mpr hafter]
  · exact dropTail_append_blanks hafter _

theorem padded_trim (s : List Char) : Padded (trim s) s := by
  obtain ⟨after, hafter, hs⟩ := exists_dropTail_append (s.dropWhile isBlank)
  refine ⟨s.takeWhile isBlank, after, fun c hc => List.all_eq_true.mp List.all_takeWhile c hc, hafter, ?_⟩
  rw [trim, ← hs, List.takeWhile_append_dropWhile]

/-- What is left of a text is what it has blanks around. -/
theorem trim_eq_iff : trim t = s ↔ trim s = s ∧ Padded s t := by
  constructor
  · rintro rfl
    exact ⟨(trim_padded (padded_trim t)).symm, padded_trim t⟩
  · rintro ⟨whole, padded⟩
    rw [trim_padded padded, whole]

theorem mem_of_mem_trim (h : c ∈ trim s) : c ∈ s := by
  obtain ⟨before, after, -, -, hs⟩ := padded_trim s
  rw [hs]
  exact List.mem_append_right _ (List.mem_append_left _ h)

/-! ### Pieces between blanks -/

/-- The words of a text: none of them is empty or has blanks, and what stands around them and between any two of them are
    blanks. -/
inductive Spaced : List (List Char) → List Char → Prop
  | nil : Spaced [] []
  | blank {words : List (List Char)} {c : Char} {s : List Char} (hc : isBlank c = true) (rest : Spaced words s) :
    Spaced words (c :: s)
  | word {words : List (List Char)} {word s : List Char} (some_char : word ≠ [])
    (visible : ∀ c ∈ word, isBlank c = false) (ends : ∀ c ∈ s.head?, isBlank c = true) (rest : Spaced words s) :
    Spaced (word :: words) (word ++ s)

theorem wordsFrom_append {word : List Char} (visible : ∀ c ∈ word, isBlank c = false) (acc s : List Char) :
    wordsFrom acc (word ++ s) = wordsFrom (word.reverse ++ acc) s := by
  induction word generalizing acc with
  | nil => rfl
  | cons c word ih =>
    obtain ⟨first, visible⟩ := List.forall_mem_cons.mp visible
    rw [List.cons_append, wordsFrom, first, if_neg Bool.false_ne_true, ih visible, List.reverse_cons, List.append_assoc]
    rfl

theorem words_blank (hc : isBlank c = true) (s : List Char) : words (c :: s) = words s := by
  rw [words, wordsFrom, if_pos hc]
  rfl

/-- What was read of a word is all of it when the text ends or a blank follows. -/
theorem wordsFrom_ends {acc : List Char} (some_char : acc ≠ []) (ends : ∀ c ∈ s.head?, isBlank c = true) :
    wordsFrom acc s = acc.reverse :: words s := by
  have not_empty : ¬ acc.isEmpty = true := fun h => some_char (List.isEmpty_iff.mp h)
  cases s with
  | nil => exact if_neg not_empty
  | cons c s =>
    have hc : isBlank c = true := ends c rfl
    rw [wordsFrom, if_pos hc, if_neg not_empty, words_blank hc]
    rfl

theorem Spaced.words_eq {pieces : List (List Char)} (h : Spaced pieces s) : words s = pieces := by
  induction h with
  | nil => rfl
  | blank hc _ ih => rw [words_blank hc, ih]
  | @word _ word s some_char visible ends _ ih =>
    rw [words, wordsFrom_append visible, List.append_nil, wordsFrom_ends (by simpa using some_char) ends,
      List.reverse_reverse, ih]

theorem spaced_wordsFrom {acc : List Char} (visible : ∀ c ∈ acc, isBlank c = false) (s : List Char) :
    Spaced (wordsFrom acc s) (acc.reverse ++ s) := by
  induction s generalizing acc with
  | nil =>
    by_cases empty : acc = []
    · rw [empty]
      exact .nil
    · have ends : ∀ c ∈ ([] : List Char).head?, isBlank c = true := nofun
      rw [wordsFrom_ends empty ends]
      exact .word (by simpa using empty) (fun c hc => visible c (List.mem_reverse.mp hc)) ends .nil
  | cons c s ih =>
    by_cases hc : isBlank c = true
    · have rest : Spaced (words s) (c :: s) := .blank hc (ih (List.forall_mem_nil _))
      have ends : ∀ d ∈ (c :: s).head?, isBlank d = true := fun d hd => Option.some.inj hd ▸ hc
      by_cases empty : acc = []
      · rw [empty, ← words, words_blank hc]
        exact rest
      · rw [wordsFrom_ends empty ends, words_blank hc]
        exact .word (by simpa using empty) (fun d hd => visible d (List.mem_reverse.mp hd)) ends rest
    · have longer : ∀ d ∈ c :: acc, isBlank d = false := List.forall_mem_cons.mpr ⟨Bool.eq_false_iff.mpr hc, visible⟩
      rw [wordsFrom, if_neg hc, List.append_cons, ← List.reverse_cons]
      exact ih longer

theorem Spaced.behind {words : List (List Char)} (blanks : Blanks t) (h : Spaced words s) : Spaced words (t ++ s) := by
  induction t with
  | nil => exact h
  | cons c t ih =>
    obtain ⟨hc, blanks⟩ := List.forall_mem_cons.mp blanks
    exact .blank hc (ih blanks)

theorem Spaced.before {words : List (List Char)} {word gap : List Char} (some_char : word ≠ [])
    (visible : ∀ c ∈ word, isBlank c = false) (blanks : Blanks gap) (some_gap : gap ≠ []) (h : Spaced words s) :
    Spaced (word :: words) (word ++ (gap ++ s)) := by
  have ends : ∀ c ∈ (gap ++ s).head?, isBlank c = true := by
    obtain ⟨first, gap, rfl⟩ := List.exists_cons_of_ne_nil some_gap
    exact fun c hc => Option.some.inj hc ▸ blanks first List.mem_cons_self
  exact .word some_char visible ends (h.behind blanks)

theorem Spaced.last {word : List Char} (some_char : word ≠ []) (visible : ∀ c ∈ word, isBlank c = false)
    (blanks : Blanks t) : Spaced [word] (word ++ t) := by
  have rest : Spaced [] (t ++ []) := Spaced.nil.behind blanks
  rw [List.append_nil] at rest
  exact .word some_char visible (fun c hc => blanks c (List.mem_of_head? hc)) rest

/-- The pieces of a text between blanks are its words. -/
theorem words_eq_iff {pieces : List (List Char)} : words s = pieces ↔ Spaced pieces s :=
  ⟨fun h => h ▸ spaced_wordsFrom (List.forall_mem_nil _) s, Spaced.words_eq⟩

end IdentityServer.Text
