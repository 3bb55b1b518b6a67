import IdentityServer.Proofs.Json.Text
import IdentityServer.Proofs.Text.Integer

/-! # Canonical texts tell values apart

A canonical text is the text of one value only, as far as different doubles are written differently. The
induction is over both values at once and lets anything follow them that does not go on with a number: a value
ends where its text ends. Numbers end before the first character that no number has, texts at their closing
quote, arrays and objects at their bracket. -/

namespace IdentityServer

namespace Json
open Text

/-! ### Texts of numbers -/

/-- A character that occurs in texts of numbers. -/
def numeric (c : Char) : Bool :=
  c.isDigit || c == '-' || c == '+' || c == '.' || c == 'e'

theorem numeric_of_isDigit {c : Char} (h : c.isDigit = true) : numeric c = true := by
  simp [numeric, h]

structure IsNumberText (t : List Char) : Prop where
  ne_nil : t ≠ []
  numeric_of_mem : ∀ c ∈ t, numeric c = true

/-- A double shows a point or an exponent. -/
structure IsFloatText (t : List Char) : Prop extends IsNumberText t where
  marked : '.' ∈ t ∨ 'e' ∈ t

theorem isNumberText_showNat (n : Nat) : IsNumberText (showNat n) :=
  ⟨showNat_ne_nil n, fun _ hc => numeric_of_isDigit (isDigit_of_mem_showNat hc)⟩

theorem isNumberText_showInt (n : Int) : IsNumberText (showInt n) := by
  cases n with
  | ofNat n => exact isNumberText_showNat n
  | negSucc n =>
    refine ⟨List.cons_ne_nil _ _, fun c hc => ?_⟩
    rcases List.mem_cons.mp hc with rfl | hc
    · decide
    · exact (isNumberText_showNat (n + 1)).numeric_of_mem c hc

theorem not_marked_showInt (n : Int) : ¬('.' ∈ showInt n ∨ 'e' ∈ showInt n) := by
  have digits : ∀ (n : Nat) (c : Char), c.isDigit = false → c ∉ showNat n := by
    intro n c hc hmem
    rw [isDigit_of_mem_showNat hmem] at hc
    cases hc
  cases n with
  | ofNat n => exact fun h => h.elim (digits n '.' (by decide)) (digits n 'e' (by decide))
  | negSucc n =>
    rintro (h | h)
    · exact digits (n + 1) '.' (by decide) ((List.mem_cons.mp h).resolve_left (by decide))
    · exact digits (n + 1) 'e' (by decide) ((List.mem_cons.mp h).resolve_left (by decide))

theorem showNat_inj {m n : Nat} (h : showNat m = showNat n) : m = n := by
  have hm : Nat.ofDigitChars 10 (showNat m) 0 = m := Nat.ofDigitChars_ten_toDigits
  rw [← hm, h]
  exact Nat.ofDigitChars_ten_toDigits

theorem showInt_inj {m n : Int} (h : showInt m = showInt n) : m = n := by
  have sign : ∀ m n : Nat, showNat m ≠ '-' :: showNat n := by
    intro m n h
    have hdigit : Char.isDigit '-' = true := isDigit_of_mem_showNat (n := m) (h ▸ List.mem_cons_self)
    cases hdigit
  cases m with
  | ofNat m =>
    cases n with
    | ofNat n => exact congrArg Int.ofNat (showNat_inj h)
    | negSucc n => exact absurd h (sign m (n + 1))
  | negSucc m =>
    cases n with
    | ofNat n => exact absurd h.symm (sign n (m + 1))
    | negSucc n => exact congrArg Int.negSucc (Nat.succ.inj (showNat_inj (List.cons.inj h).2))

section Layouts
variable {layout : FloatLayout} {digits : List Char} {first : Int}

theorem isFloatText_positional (hpoint : layout.pointZero = true) (hne : digits ≠ [])
    (hdigits : ∀ c ∈ digits, numeric c = true) : IsFloatText (layout.positionalText digits first) := by
  have zeros : ∀ n, ∀ c ∈ List.replicate n '0', numeric c = true := by
    intro n c hc
    rw [(List.mem_replicate.mp hc).2]
    decide
  simp only [FloatLayout.positionalText, hpoint, if_true]
  split
  · refine ⟨⟨List.cons_ne_nil _ _, ?_⟩, .inl (by simp)⟩
    simp only [List.forall_mem_cons, List.forall_mem_append]
    exact ⟨by decide, by decide, zeros _, hdigits⟩
  · split
    · refine ⟨⟨by simp [hne], ?_⟩, .inl (by simp)⟩
      simp only [List.forall_mem_append]
      exact ⟨⟨hdigits, zeros _⟩, List.all_eq_true.mp (by decide)⟩
    · refine ⟨⟨by simp, ?_⟩, .inl (by simp)⟩
      simp only [List.forall_mem_append, List.forall_mem_cons]
      exact ⟨fun c hc => hdigits c (List.mem_of_mem_take hc), by decide, fun c hc => hdigits c (List.mem_of_mem_drop hc)⟩

theorem isFloatText_scientific (hdigits : ∀ c ∈ digits, numeric c = true) :
    IsFloatText (FloatLayout.scientificText digits first) := by
  have exponent : ∀ c ∈ Nat.toDigits 10 first.natAbs, numeric c = true := fun _ hc =>
    numeric_of_isDigit (isDigit_of_mem_showNat hc)
  have sign : numeric (if first < 0 then '-' else '+') = true := by split <;> decide
  unfold FloatLayout.scientificText
  refine ⟨⟨by simp, ?_⟩, .inr (by simp)⟩
  simp only [List.forall_mem_append, List.forall_mem_cons]
  refine ⟨?_, by decide, sign, exponent⟩
  split
  · rename_i d e rest
    simp only [List.forall_mem_cons] at hdigits ⊢
    exact ⟨hdigits.1, by decide, hdigits.2⟩
  · exact hdigits

end Layouts

theorem isFloatText_text {x : Binary64} (h : x.isFinite = true) : IsFloatText (floatLayout.text x) := by
  have hfinite : x.magnitude < Binary64.infinityBits := of_decide_eq_true h
  have body : IsFloatText (floatLayout.magnitudeText x.magnitude) := by
    have digits : ∀ n, ∀ c ∈ Nat.toDigits 10 n, numeric c = true := fun _ _ hc =>
      numeric_of_isDigit (isDigit_of_mem_showNat hc)
    unfold FloatLayout.magnitudeText
    split
    · exact isFloatText_positional rfl (by decide) (List.all_eq_true.mp (by decide))
    · dsimp only
      split
      · exact isFloatText_positional rfl (showNat_ne_nil _) (digits _)
      · split
        · exact isFloatText_positional rfl (showNat_ne_nil _) (digits _)
        · exact isFloatText_scientific (digits _)
  unfold FloatLayout.text
  rw [if_neg (Nat.lt_asymm hfinite), if_neg (Nat.ne_of_lt hfinite)]
  dsimp only
  split
  · refine ⟨⟨List.cons_ne_nil _ _, List.forall_mem_cons.mpr ⟨by decide, body.numeric_of_mem⟩⟩, ?_⟩
    exact body.marked.imp (List.mem_cons_of_mem _) (List.mem_cons_of_mem _)
  · exact body

/-! ### Where values end -/

/-- What does not go on with a number. -/
def EndsValue (rest : List Char) : Prop :=
  ∀ c ∈ rest.head?, numeric c = false

theorem endsValue_cons {c : Char} (h : numeric c = false) (rest : List Char) : EndsValue (c :: rest) := by
  intro d hd
  cases hd
  exact h

theorem takeWhile_number {t rest : List Char} (ht : IsNumberText t) (hrest : EndsValue rest) :
    (t ++ rest).takeWhile numeric = t := by
  rw [List.takeWhile_append_of_pos ht.numeric_of_mem]
  cases rest with
  | nil => simp
  | cons c rest => simp [hrest c rfl]

/-- A number ends where its text ends. -/
theorem number_append_inj {t u r s : List Char} (ht : IsNumberText t) (hu : IsNumberText u) (hr : EndsValue r)
    (hs : EndsValue s) (h : t ++ r = u ++ s) : t = u ∧ r = s := by
  have htu : t = u := by rw [← takeWhile_number ht hr, h, takeWhile_number hu hs]
  subst htu
  exact ⟨rfl, List.append_cancel_left h⟩

/-- A text ends at its closing quote. -/
theorem renderText_append_inj {a b : String} {r s : List Char} (h : renderText a ++ r = renderText b ++ s) :
    a = b ∧ r = s := by
  simp only [renderText, List.cons_append, List.append_assoc, List.nil_append, List.cons.injEq, true_and] at h
  have hread := congrArg readWritten h
  rw [readWritten_flatMap, readWritten_flatMap] at hread
  obtain ⟨htext, hrest⟩ := Prod.mk.inj (Option.some.inj hread)
  have hvalue := congrArg textOf? htext
  rw [textOf?_flatMap, textOf?_flatMap] at hvalue
  exact ⟨Option.some.inj hvalue, hrest⟩

/-! ### Doubles inside values -/

mutual

/-- The doubles in a value, at every depth. -/
def floats : Json → List Binary64
  | .float x => [x]
  | .arr items => itemsFloats items
  | .obj fields => fieldsFloats fields
  | _ => []

def itemsFloats : List Json → List Binary64
  | [] => []
  | item :: rest => item.floats ++ itemsFloats rest

def fieldsFloats : List (String × Json) → List Binary64
  | [] => []
  | (_, value) :: rest => value.floats ++ fieldsFloats rest

end

mutual

theorem WellFormed.isFinite {x : Binary64} (v : Json) (hv : v.WellFormed) (hx : x ∈ v.floats) : x.isFinite = true := by
  match v with
  | .float y =>
    rw [List.mem_singleton.mp hx]
    exact hv
  | .arr items => exact ItemsWellFormed.isFinite items hv hx
  | .obj fields => exact FieldsWellFormed.isFinite fields hv.2 hx
  | .null | .bool _ | .int _ | .str _ => cases hx

theorem ItemsWellFormed.isFinite {x : Binary64} (items : List Json) (h : ItemsWellFormed items)
    (hx : x ∈ itemsFloats items) : x.isFinite = true := by
  match items with
  | item :: rest =>
    rcases List.mem_append.mp hx with hx | hx
    · exact WellFormed.isFinite item h.1 hx
    · exact ItemsWellFormed.isFinite rest h.2 hx

theorem FieldsWellFormed.isFinite {x : Binary64} (fields : List (String × Json)) (h : FieldsWellFormed fields)
    (hx : x ∈ fieldsFloats fields) : x.isFinite = true := by
  match fields with
  | (_, value) :: rest =>
    rcases List.mem_append.mp hx with hx | hx
    · exact WellFormed.isFinite value h.1 hx
    · exact FieldsWellFormed.isFinite rest h.2 hx

end

theorem mem_fieldsFloats {x : Binary64} {fields : Fields Json} (h : x ∈ fieldsFloats fields) :
    ∃ field ∈ fields, x ∈ field.2.floats := by
  induction fields with
  | nil => cases h
  | cons head rest ih =>
    rcases List.mem_append.mp h with h | h
    · exact ⟨head, List.mem_cons_self, h⟩
    · obtain ⟨field, hfield, hx⟩ := ih h
      exact ⟨field, List.mem_cons_of_mem _ hfield, hx⟩

/-- Finite doubles of which no two different ones, one of each list, are written alike. -/
structure WrittenApart (xs ys : List Binary64) : Prop where
  left : ∀ x ∈ xs, x.isFinite = true
  right : ∀ y ∈ ys, y.isFinite = true
  apart : ∀ x ∈ xs, ∀ y ∈ ys, floatLayout.text x = floatLayout.text y → x = y

namespace WrittenApart
variable {xs xs' ys ys' : List Binary64}

theorem mono (h : WrittenApart xs ys) (hx : xs' ⊆ xs) (hy : ys' ⊆ ys) : WrittenApart xs' ys' :=
  ⟨fun x hx' => h.left x (hx hx'), fun y hy' => h.right y (hy hy'), fun x hx' y hy' => h.apart x (hx hx') y (hy hy')⟩

theorem fst (h : WrittenApart (xs ++ xs') (ys ++ ys')) : WrittenApart xs ys :=
  h.mono (List.subset_append_left ..) (List.subset_append_left ..)

theorem snd (h : WrittenApart (xs ++ xs') (ys ++ ys')) : WrittenApart xs' ys' :=
  h.mono (List.subset_append_right ..) (List.subset_append_right ..)

end WrittenApart

/-! ### How values start -/

/-- What the first character tells of a value; a zero stands for every number. -/
def opening : Json → Char
  | .null => 'n'
  | .bool true => 't'
  | .bool false => 'f'
  | .int _ | .float _ => '0'
  | .str _ => '"'
  | .arr _ => '['
  | .obj _ => '{'

theorem IsNumberText.opens {t : List Char} (h : IsNumberText t) :
    ∃ c rest, t = c :: rest ∧ '0' = if numeric c then '0' else c := by
  obtain ⟨c, rest, rfl⟩ := List.exists_cons_of_ne_nil h.ne_nil
  exact ⟨c, rest, rfl, by rw [if_pos (h.numeric_of_mem c List.mem_cons_self)]⟩

theorem render_opening (v : Json) (finite : ∀ x ∈ v.floats, x.isFinite = true) :
    ∃ c rest, v.render = c :: rest ∧ v.opening = if numeric c then '0' else c := by
  match v with
  | .null | .bool true | .bool false | .str _ | .arr [] | .arr (_ :: _) | .obj [] | .obj ((_, _) :: _) =>
    exact ⟨_, _, rfl, rfl⟩
  | .int n => exact (isNumberText_showInt n).opens
  | .float x => exact (isFloatText_text (finite x (List.mem_singleton_self x))).toIsNumberText.opens

variable {v w : Json} {r s : List Char}

theorem opening_eq (apart : WrittenApart v.floats w.floats) (h : v.render ++ r = w.render ++ s) :
    v.opening = w.opening := by
  obtain ⟨c, _, hv, hc⟩ := render_opening v apart.left
  obtain ⟨d, _, hw, hd⟩ := render_opening w apart.right
  rw [hv, hw] at h
  rw [hc, hd, (List.cons.inj h).1]

/-- No value starts with the bracket that closes an array. -/
theorem render_ne_close (finite : ∀ x ∈ v.floats, x.isFinite = true) : v.render ++ r ≠ ']' :: s := by
  obtain ⟨c, rest, hv, hc⟩ := render_opening v finite
  intro h
  rw [hv] at h
  have hclose : v.opening = ']' := by
    rw [hc, (List.cons.inj h).1]
    rfl
  match v with
  | .null | .bool true | .bool false | .int _ | .float _ | .str _ | .arr _ | .obj _ => simp [opening] at hclose

theorem endsValue_items (items : List Json) (r : List Char) : EndsValue (renderItems items ++ r) := by
  cases items with
  | nil => exact endsValue_cons (by decide) _
  | cons item rest => exact endsValue_cons (by decide) _

theorem endsValue_fields (fields : List (String × Json)) (r : List Char) : EndsValue (renderFields fields ++ r) := by
  cases fields with
  | nil => exact endsValue_cons (by decide) _
  | cons field rest => exact endsValue_cons (by decide) _

/-! ### Values from their texts -/

theorem renderItems_of_arr {items others : List Json} (apart : WrittenApart (itemsFloats items) (itemsFloats others))
    (h : (Json.arr items).render ++ r = (Json.arr others).render ++ s) :
    renderItems items ++ r = renderItems others ++ s := by
  -- The first item has no comma before it; past the bracket an empty array goes on with a bracket, which starts
  -- no item.
  have hinner := congrArg List.tail h
  match items, others with
  | [], [] => exact hinner
  | item :: rest, other :: more => exact congrArg (',' :: ·) hinner
  | [], other :: more =>
    simp only [render, List.cons_append, List.append_assoc, List.tail_cons] at hinner
    exact absurd hinner.symm (render_ne_close fun x hx => apart.right x (List.mem_append_left _ hx))
  | item :: rest, [] =>
    simp only [render, List.cons_append, List.append_assoc, List.tail_cons] at hinner
    exact absurd hinner (render_ne_close fun x hx => apart.left x (List.mem_append_left _ hx))

theorem renderFields_of_obj {fields others : List (String × Json)}
    (h : (Json.obj fields).render ++ r = (Json.obj others).render ++ s) :
    renderFields fields ++ r = renderFields others ++ s := by
  have hinner := congrArg List.tail h
  match fields, others with
  | [], [] => exact hinner
  | (_, _) :: _, (_, _) :: _ => exact congrArg (',' :: ·) hinner
  | [], (_, _) :: _ | (_, _) :: _, [] => simp [render, renderText] at hinner

mutual

/-- A text that starts with the text of a value starts with that of no other value. -/
theorem render_append_inj (v w : Json) (r s : List Char) (apart : WrittenApart v.floats w.floats)
    (hr : EndsValue r) (hs : EndsValue s) (h : v.render ++ r = w.render ++ s) : v = w ∧ r = s := by
  -- Values of different kinds start differently, except that integers and doubles are both numbers.
  have hopening := opening_eq apart h
  match v, w with
  | .null, .null | .bool true, .bool true | .bool false, .bool false => exact ⟨rfl, List.append_cancel_left h⟩
  | .int m, .int n =>
    obtain ⟨htext, hrest⟩ := number_append_inj (isNumberText_showInt m) (isNumberText_showInt n) hr hs h
    exact ⟨congrArg Json.int (showInt_inj htext), hrest⟩
  | .float x, .float y =>
    have hx := isFloatText_text (apart.left x (List.mem_singleton_self x))
    have hy := isFloatText_text (apart.right y (List.mem_singleton_self y))
    obtain ⟨htext, hrest⟩ := number_append_inj hx.toIsNumberText hy.toIsNumberText hr hs h
    exact ⟨congrArg Json.float (apart.apart x (List.mem_singleton_self x) y (List.mem_singleton_self y) htext), hrest⟩
  | .int n, .float y =>
    have hy := isFloatText_text (apart.right y (List.mem_singleton_self y))
    obtain ⟨htext, -⟩ := number_append_inj (isNumberText_showInt n) hy.toIsNumberText hr hs h
    exact absurd (htext ▸ hy.marked) (not_marked_showInt n)
  | .float x, .int n =>
    have hx := isFloatText_text (apart.left x (List.mem_singleton_self x))
    obtain ⟨htext, -⟩ := number_append_inj hx.toIsNumberText (isNumberText_showInt n) hr hs h
    exact absurd (htext ▸ hx.marked) (not_marked_showInt n)
  | .str a, .str b =>
    obtain ⟨htext, hrest⟩ := renderText_append_inj h
    exact ⟨congrArg Json.str htext, hrest⟩
  | .arr items, .arr others =>
    obtain ⟨rfl, hrest⟩ := renderItems_append_inj items others r s apart (renderItems_of_arr apart h)
    exact ⟨rfl, hrest⟩
  | .obj fields, .obj others =>
    obtain ⟨rfl, hrest⟩ := renderFields_append_inj fields others r s apart (renderFields_of_obj h)
    exact ⟨rfl, hrest⟩

theorem renderItems_append_inj (items others : List Json) (r s : List Char)
    (apart : WrittenApart (itemsFloats items) (itemsFloats others))
    (h : renderItems items ++ r = renderItems others ++ s) : items = others ∧ r = s := by
  match items, others with
  | [], [] => exact ⟨rfl, (List.cons.inj h).2⟩
  | item :: rest, other :: more =>
    simp only [renderItems, List.cons_append, List.append_assoc, List.cons.injEq, true_and] at h
    obtain ⟨rfl, hrest⟩ := render_append_inj item other _ _ apart.fst (endsValue_items _ _) (endsValue_items _ _) h
    obtain ⟨rfl, htail⟩ := renderItems_append_inj rest more r s apart.snd hrest
    exact ⟨rfl, htail⟩

theorem renderFields_append_inj (fields others : List (String × Json)) (r s : List Char)
    (apart : WrittenApart (fieldsFloats fields) (fieldsFloats others))
    (h : renderFields fields ++ r = renderFields others ++ s) : fields = others ∧ r = s := by
  match fields, others with
  | [], [] => exact ⟨rfl, (List.cons.inj h).2⟩
  | (name, v) :: rest, (other, w) :: more =>
    simp only [renderFields, List.cons_append, List.append_assoc, List.cons.injEq, true_and] at h
    obtain ⟨rfl, hvalue⟩ := renderText_append_inj h
    obtain ⟨rfl, hrest⟩ := render_append_inj v w _ _ apart.fst (endsValue_fields _ _) (endsValue_fields _ _)
      (List.cons.inj hvalue).2
    obtain ⟨rfl, htail⟩ := renderFields_append_inj rest more r s apart.snd hrest
    exact ⟨rfl, htail⟩

end

/-- The canonical text of a value is that of no other value. -/
theorem canonical_inj (apart : WrittenApart v.floats w.floats) (h : v.canonical = w.canonical) : v = w := by
  have htext : v.render = w.render := String.ofList_injective h
  have ends : EndsValue [] := nofun
  exact (render_append_inj v w [] [] apart ends ends (by rw [htext])).1

end Json

end IdentityServer
