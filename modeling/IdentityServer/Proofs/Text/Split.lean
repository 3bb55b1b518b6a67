import IdentityServer.Proofs.Text.Blank
import IdentityServer.Text.Split
import Mathlib.Data.List.Infix

/-! # Pieces of texts

What cuts and divisions find, and that the pieces, joined again, are the text. -/

namespace IdentityServer.Text
variable {s t : List Char} {c : Char}

/-! ### Cuts -/

theorem cut_eq_some {before after : List Char} (h : cut c s = some (before, after)) :
    s = before ++ c :: after := by
  induction s generalizing before with
  | nil => cases h
  | cons x rest ih =>
    rw [cut] at h
    split at h
    · rename_i hx
      cases h
      rw [hx]
      rfl
    · obtain ⟨⟨first, second⟩, hcut, hp⟩ := Option.map_eq_some_iff.mp h
      cases hp
      rw [ih hcut]
      rfl

theorem cut_append (h : c ∉ s) (rest : List Char) : cut c (s ++ c :: rest) = some (s, rest) := by
  induction s with
  | nil => rw [List.nil_append, cut, if_pos rfl]
  | cons x s ih =>
    have hx : x ≠ c := (List.ne_of_not_mem_cons h).symm
    rw [List.cons_append, cut, if_neg hx, ih (List.not_mem_of_not_mem_cons h)]
    rfl

theorem cut_of_not_mem (h : c ∉ s) : cut c s = none := by
  induction s with
  | nil => rfl
  | cons x s ih =>
    have hx : x ≠ c := (List.ne_of_not_mem_cons h).symm
    rw [cut, if_neg hx, ih (List.not_mem_of_not_mem_cons h)]
    rfl

/-- It does not matter for the two pieces whether the blanks are cut off before. -/
theorem cut_trim (hc : isBlank c = false) (s : List Char) :
    (cut c (trim s)).map (Prod.map trim trim) = (cut c s).map (Prod.map trim trim) := by
  obtain ⟨before, after, hbefore, hafter, hs⟩ := padded_trim s
  by_cases mem : c ∈ trim s
  · obtain ⟨left, right, htrim, hleft⟩ := List.eq_append_cons_of_mem mem
    have apart : c ∉ before ++ left := by
      rw [List.mem_append]
      exact not_or.mpr ⟨not_mem_blanks hc hbefore, hleft⟩
    have whole : s = (before ++ left) ++ c :: (right ++ after) := by
      rw [htrim] at hs
      simpa using hs
    have first : trim (before ++ left) = trim left := trim_padded (padded_prepend hbefore left)
    have second : trim (right ++ after) = trim right := trim_padded (padded_append hafter right)
    rw [htrim, cut_append hleft, whole, cut_append apart]
    simp only [Option.map_some, Prod.map_apply, first, second]
  · have none_left : c ∉ s := by
      rw [hs, List.mem_append, List.mem_append]
      exact not_or.mpr ⟨not_mem_blanks hc hbefore, not_or.mpr ⟨mem, not_mem_blanks hc hafter⟩⟩
    rw [cut_of_not_mem mem, cut_of_not_mem none_left]

theorem cutLast_of_not_mem (h : c ∉ s) : cutLast c s = none := by
  induction s with
  | nil => rfl
  | cons x s ih =>
    have hx : x ≠ c := (List.ne_of_not_mem_cons h).symm
    rw [cutLast, ih (List.not_mem_of_not_mem_cons h)]
    exact if_neg hx

theorem cutLast_append (h : c ∉ t) (s : List Char) : cutLast c (s ++ c :: t) = some (s, t) := by
  induction s with
  | nil =>
    rw [List.nil_append, cutLast, cutLast_of_not_mem h]
    exact if_pos rfl
  | cons x s ih => rw [List.cons_append, cutLast, ih]

theorem dropStart?_append (start rest : List Char) : dropStart? start (start ++ rest) = some rest := by
  induction start with
  | nil => rfl
  | cons c start ih => rw [List.cons_append, dropStart?, if_pos rfl, ih]

/-! ### Divisions at a character -/

theorem splitAt_of_not_mem (h : c ∉ s) : splitAt c s = [s] := by
  induction s with
  | nil => rfl
  | cons x s ih =>
    have hx : x ≠ c := (List.ne_of_not_mem_cons h).symm
    rw [splitAt, if_neg hx, ih (List.not_mem_of_not_mem_cons h)]
    rfl

theorem splitAt_append (h : c ∉ s) (rest : List Char) : splitAt c (s ++ c :: rest) = s :: splitAt c rest := by
  induction s with
  | nil => rw [List.nil_append, splitAt, if_pos rfl]
  | cons x s ih =>
    have hx : x ≠ c := (List.ne_of_not_mem_cons h).symm
    rw [List.cons_append, splitAt, if_neg hx, ih (List.not_mem_of_not_mem_cons h)]
    rfl

theorem splitAt_join {parts : List (List Char)} (some_part : parts ≠ []) (apart : ∀ part ∈ parts, c ∉ part) :
    splitAt c (join [c] parts) = parts := by
  induction parts with
  | nil => exact absurd rfl some_part
  | cons part parts ih =>
    obtain ⟨first, apart⟩ := List.forall_mem_cons.mp apart
    cases parts with
    | nil => exact splitAt_of_not_mem first
    | cons next rest =>
      rw [join, List.append_assoc, List.singleton_append, splitAt_append first, ih (List.cons_ne_nil _ _) apart]
      exact nofun

/-- The pieces of a text: none of them has the separator, and together they are the text. -/
theorem splitAt_pieces (c : Char) (s : List Char) :
    splitAt c s ≠ [] ∧ (∀ part ∈ splitAt c s, c ∉ part) ∧ join [c] (splitAt c s) = s := by
  induction s with
  | nil => exact ⟨List.cons_ne_nil _ _, List.forall_mem_singleton.mpr List.not_mem_nil, rfl⟩
  | cons x s ih =>
    obtain ⟨some_part, apart, whole⟩ := ih
    obtain ⟨part, parts, hparts⟩ := List.exists_cons_of_ne_nil some_part
    rw [splitAt]
    rw [hparts] at apart whole ⊢
    split
    · rename_i hx
      refine ⟨List.cons_ne_nil _ _, List.forall_mem_cons.mpr ⟨List.not_mem_nil, apart⟩, ?_⟩
      rw [join, whole, hx]
      · rfl
      · exact List.cons_ne_nil _ _
    · rename_i hx
      obtain ⟨first, apart⟩ := List.forall_mem_cons.mp apart
      refine ⟨List.cons_ne_nil _ _, List.forall_mem_cons.mpr ⟨?_, apart⟩, ?_⟩
      · exact List.not_mem_cons_of_ne_of_not_mem (Ne.symm hx) first
      · rw [consHead, ← whole]
        cases parts <;> rfl

theorem mem_join {part sep : List Char} {parts : List (List Char)} (mem : part ∈ parts) (hc : c ∈ part) :
    c ∈ join sep parts := by
  induction parts with
  | nil => cases mem
  | cons first parts ih =>
    cases parts with
    | nil => exact List.mem_singleton.mp mem ▸ hc
    | cons next rest =>
      rw [join, List.mem_append, List.mem_append]
      · rcases List.mem_cons.mp mem with rfl | mem
        · exact .inl (.inl hc)
        · exact .inr (ih mem)
      · exact nofun

theorem join_concat_append (sep last after : List Char) (parts : List (List Char)) :
    join sep (parts ++ [last]) ++ after = join sep (parts ++ [last ++ after]) := by
  induction parts with
  | nil => rfl
  | cons part parts ih =>
    rw [List.cons_append, List.cons_append, join, join, List.append_assoc, ih]
    · simp
    · simp

/-! ### Divisions at a text -/

/-- What stands in a text between the places where `sep` occurs, found from the left: up to the first of them, and so on
    behind it. -/
inductive Divides (sep : List Char) : List Char → List (List Char) → Prop
  | whole {s : List Char} (never : ¬ sep <:+: s) : Divides sep s [s]
  | first {piece rest : List Char} {pieces : List (List Char)} (soonest : ∀ a b, piece ++ sep = a ++ sep ++ b → b = [])
    (behind : Divides sep rest pieces) : Divides sep (piece ++ (sep ++ rest)) (piece :: pieces)

variable {sep : List Char}

theorem splitOnFrom_append (sep front rest : List Char) :
    splitOnFrom sep front.length (front ++ rest) = splitOnFrom sep 0 rest := by
  induction front with
  | nil => rfl
  | cons c front ih => exact ih

theorem splitOn_sep_append (some_sep : sep ≠ []) (rest : List Char) :
    splitOn sep (sep ++ rest) = [] :: splitOn sep rest := by
  obtain ⟨c, more, rfl⟩ := List.exists_cons_of_ne_nil some_sep
  have found : (c :: more).isPrefixOf (c :: (more ++ rest)) = true :=
    List.isPrefixOf_iff_prefix.mpr (List.prefix_append (c :: more) rest)
  rw [splitOn, List.cons_append, splitOnFrom, if_pos found]
  exact congrArg _ (splitOnFrom_append (c :: more) more rest)

theorem splitOn_consHead {x : Char} (h : ¬ sep <+: x :: s) : splitOn sep (x :: s) = consHead x (splitOn sep s) := by
  have missed : ¬ sep.isPrefixOf (x :: s) = true := fun found => h (List.isPrefixOf_iff_prefix.mp found)
  rw [splitOn, splitOnFrom, if_neg missed]
  rfl

/-- An occurrence that begins in front of the first one found would have been found. -/
theorem not_prefix_of_soonest {x : Char} {piece : List Char} (soonest : ∀ a b, x :: piece ++ sep = a ++ sep ++ b → b = [])
    (rest : List Char) : ¬ sep <+: x :: (piece ++ (sep ++ rest)) := by
  intro found
  have front : x :: piece ++ sep <+: x :: (piece ++ (sep ++ rest)) := ⟨rest, by simp⟩
  have shorter : sep.length ≤ (x :: piece ++ sep).length := by
    rw [List.length_append]
    exact Nat.le_add_left _ _
  obtain ⟨b, hb⟩ := List.prefix_of_prefix_length_le found front shorter
  obtain rfl := soonest [] b hb.symm
  have length := congrArg List.length hb
  rw [List.append_nil, List.length_append, List.length_cons] at length
  omega

theorem Divides.splitOn_eq (some_sep : sep ≠ []) {pieces : List (List Char)} (h : Divides sep s pieces) :
    splitOn sep s = pieces := by
  induction h with
  | @whole s never =>
    induction s with
    | nil => rfl
    | cons x s ih =>
      have later : ¬ sep <:+: s := fun found => never (found.trans (List.suffix_cons x s).isInfix)
      rw [splitOn_consHead fun found => never found.isInfix, ih later]
      rfl
  | @first piece rest pieces soonest _ ih =>
    induction piece with
    | nil => rw [List.nil_append, splitOn_sep_append some_sep, ih]
    | cons x piece ihp =>
      have later : ∀ a b, piece ++ sep = a ++ sep ++ b → b = [] :=
        fun a b same => soonest (x :: a) b (congrArg (x :: ·) same)
      rw [List.cons_append, splitOn_consHead (not_prefix_of_soonest soonest rest), ihp later]
      rfl

theorem Divides.cons {x : Char} {pieces : List (List Char)} (h : Divides sep s pieces) (missed : ¬ sep <+: x :: s) :
    Divides sep (x :: s) (consHead x pieces) := by
  cases h with
  | whole never => exact .whole fun found => (List.infix_cons_iff.mp found).elim missed never
  | @first piece rest pieces soonest behind =>
    have still_soonest : ∀ a b, x :: piece ++ sep = a ++ sep ++ b → b = [] := by
      intro a b same
      cases a with
      | nil =>
        refine absurd ⟨b ++ rest, ?_⟩ missed
        rw [← List.append_assoc, ← List.nil_append sep, ← same]
        simp
      | cons y a => exact soonest a b (List.cons.inj same).2
    exact .first still_soonest behind

theorem divides_splitOn (some_sep : sep ≠ []) (s : List Char) : Divides sep s (splitOn sep s) := by
  induction hn : s.length using Nat.strongRecOn generalizing s with
  | _ n ih =>
    subst hn
    cases s with
    | nil => exact .whole fun found => some_sep (List.infix_nil.mp found)
    | cons x s =>
      by_cases found : sep <+: x :: s
      · obtain ⟨rest, hrest⟩ := found
        have length : sep.length + rest.length = (x :: s).length := by rw [← hrest, List.length_append]
        have shorter : rest.length < (x :: s).length := by
          have := List.length_pos_iff.mpr some_sep
          omega
        have soonest : ∀ a b, [] ++ sep = a ++ sep ++ b → b = [] := by
          intro a b same
          have := congrArg List.length same
          simp only [List.nil_append, List.length_append] at this
          exact List.eq_nil_of_length_eq_zero (by omega)
        rw [← hrest, splitOn_sep_append some_sep]
        exact .first soonest (ih _ shorter rest rfl)
      · rw [splitOn_consHead found]
        exact (ih _ (Nat.lt_succ_self _) s rfl).cons found

/-- The pieces between the occurrences of a text are what is found from the left, and nothing else is. -/
theorem splitOn_eq_iff (some_sep : sep ≠ []) {pieces : List (List Char)} :
    splitOn sep s = pieces ↔ Divides sep s pieces :=
  ⟨fun h => h ▸ divides_splitOn some_sep s, Divides.splitOn_eq some_sep⟩

end IdentityServer.Text
