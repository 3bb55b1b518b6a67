import IdentityServer.Text.Base64
import IdentityServer.Text.Blank

/-! # What Base64 texts stand for

A byte string is divided into groups of six bits and put together again from them. A text stands for bytes exactly if it is
what is written of them with any number of equals signs at its end: no character of the alphabet is an equals sign, so none
of an encoded text is taken for padding. -/

namespace IdentityServer.Base64

/-! ### The alphabet -/

theorem valueOf?_charOf {n : Nat} (h : n < 64) : valueOf? (charOf n) = some n := by
  have all : ∀ n < 64, valueOf? (charOf n) = some n := by decide
  exact all n h

/-- Only a character of the alphabet has a value, and it is the character of that value. -/
theorem charOf_of_valueOf? {c : Char} {n : Nat} (h : valueOf? c = some n) : n < 64 ∧ charOf n = c := by
  have self : Char.ofNat c.toNat = c := Char.ofNat_toNat c
  unfold valueOf? at h
  simp only [Bool.and_eq_true, decide_eq_true_eq] at h
  split at h
  · rename_i upper
    cases h
    refine ⟨by omega, ?_⟩
    rw [charOf, if_pos (by omega), Nat.sub_add_cancel upper.1, self]
  split at h
  · rename_i lower
    cases h
    refine ⟨by omega, ?_⟩
    rw [charOf, if_neg (by omega), if_pos (by omega), Nat.sub_add_cancel (by omega), self]
  split at h
  · rename_i digit
    cases h
    refine ⟨by omega, ?_⟩
    rw [charOf, if_neg (by omega), if_neg (by omega), if_pos (by omega), Nat.add_sub_cancel, self]
  split at h
  · rename_i plus
    cases h
    exact ⟨by decide, plus.symm⟩
  split at h
  · rename_i slash
    cases h
    exact ⟨by decide, slash.symm⟩
  · cases h

theorem mapM_valueOf?_eq_some {s : List Char} {values : List Nat} :
    s.mapM valueOf? = some values ↔ (∀ n ∈ values, n < 64) ∧ s = values.map charOf := by
  constructor
  · intro h
    induction s generalizing values with
    | nil =>
      cases h
      exact ⟨nofun, rfl⟩
    | cons c s ih =>
      simp only [List.mapM_cons, Option.bind_eq_bind, Option.bind_eq_some_iff, Option.pure_def, Option.some.injEq] at h
      obtain ⟨n, hn, rest, hrest, rfl⟩ := h
      obtain ⟨small, rfl⟩ := charOf_of_valueOf? hn
      obtain ⟨smalls, rfl⟩ := ih hrest
      exact ⟨List.forall_mem_cons.mpr ⟨small, smalls⟩, rfl⟩
  · rintro ⟨small, rfl⟩
    induction values with
    | nil => rfl
    | cons n rest ih =>
      obtain ⟨small, smalls⟩ := List.forall_mem_cons.mp small
      rw [List.map_cons, List.mapM_cons, valueOf?_charOf small, ih smalls]
      rfl

/-! ### Groups of six bits -/

theorem lt_of_mem_sextets {bytes : Bytes} {n : Nat} (h : n ∈ sextets bytes) : n < 64 := by
  induction bytes using sextets.induct with
  | case1 => cases h
  | case2 a =>
    have := a.toNat_lt
    simp only [sextets, List.mem_cons, List.not_mem_nil, or_false] at h
    omega
  | case3 a b =>
    have := a.toNat_lt
    have := b.toNat_lt
    simp only [sextets, List.mem_cons, List.not_mem_nil, or_false] at h
    omega
  | case4 a b c rest ih =>
    have := a.toNat_lt
    have := b.toNat_lt
    have := c.toNat_lt
    simp only [sextets, List.mem_cons] at h
    rcases h with h | h | h | h | h
    · omega
    · omega
    · omega
    · omega
    · exact ih h

theorem ofNat_eq {n : Nat} {b : UInt8} (h : n = b.toNat) : UInt8.ofNat n = b := by
  rw [h, UInt8.ofNat_toNat]

theorem octets_sextets (bytes : Bytes) : octets (sextets bytes) = some bytes := by
  induction bytes using sextets.induct with
  | case1 => rfl
  | case2 a =>
    rw [sextets, octets, if_pos (by omega), ofNat_eq (by omega : _ = a.toNat)]
  | case3 a b =>
    have := b.toNat_lt
    rw [sextets, octets, if_pos (by omega), ofNat_eq (by omega : _ = a.toNat), ofNat_eq (by omega : _ = b.toNat)]
  | case4 a b c rest ih =>
    have := b.toNat_lt
    have := c.toNat_lt
    rw [sextets, octets, ih, Option.map_some, ofNat_eq (by omega : _ = a.toNat), ofNat_eq (by omega : _ = b.toNat),
      ofNat_eq (by omega : _ = c.toNat)]

/-- Groups of six bits are put together only if they are those of the bytes that result. -/
theorem eq_sextets_of_octets {values : List Nat} {bytes : Bytes} (small : ∀ n ∈ values, n < 64)
    (h : octets values = some bytes) : values = sextets bytes := by
  induction values using octets.induct generalizing bytes with
  | case1 =>
    cases h
    rfl
  | case2 => cases h
  | case3 p q zero =>
    rw [octets, if_pos zero] at h
    cases h
    simp only [List.forall_mem_cons] at small
    obtain ⟨hp, hq, -⟩ := small
    simp only [sextets, UInt8.toNat_ofNat', List.cons.injEq, and_true]
    omega
  | case4 p q bits =>
    rw [octets, if_neg bits] at h
    cases h
  | case5 p q r zero =>
    rw [octets, if_pos zero] at h
    cases h
    simp only [List.forall_mem_cons] at small
    obtain ⟨hp, hq, hr, -⟩ := small
    simp only [sextets, UInt8.toNat_ofNat', List.cons.injEq, and_true]
    omega
  | case6 p q r bits =>
    rw [octets, if_neg bits] at h
    cases h
  | case7 p q r s rest ih =>
    rw [octets] at h
    obtain ⟨behind, hrest, rfl⟩ := Option.map_eq_some_iff.mp h
    simp only [List.forall_mem_cons] at small
    obtain ⟨hp, hq, hr, hs, small⟩ := small
    rw [sextets, ← ih small hrest]
    simp only [UInt8.toNat_ofNat', List.cons.injEq, and_true]
    omega

/-! ### Texts -/

/-- What holds of every character of the alphabet holds of all that is written. -/
theorem forall_mem_encode {p : Char → Prop} (h : ∀ n < 64, p (charOf n)) (bytes : Bytes) :
    ∀ c ∈ (encode bytes).toList, p c := by
  rw [encode, String.toList_ofList]
  exact List.forall_mem_map.mpr fun n hn => h n (lt_of_mem_sextets hn)

/-- Nothing that is written is an equals sign or a blank. -/
theorem encode_unpadded (bytes : Bytes) : ∀ c ∈ (encode bytes).toList, c ≠ '=' ∧ Text.isBlank c = false :=
  forall_mem_encode (by decide) bytes

/-- Without padding, the texts that stand for bytes are those that are written of them. -/
theorem decodeExact_eq_some {s : List Char} {bytes : Bytes} : decodeExact s = some bytes ↔ s = (encode bytes).toList := by
  rw [decodeExact, Option.bind_eq_some_iff, encode, String.toList_ofList]
  constructor
  · rintro ⟨values, hvalues, hbytes⟩
    obtain ⟨small, rfl⟩ := mapM_valueOf?_eq_some.mp hvalues
    rw [eq_sextets_of_octets small hbytes]
  · rintro rfl
    exact ⟨sextets bytes, mapM_valueOf?_eq_some.mpr ⟨fun _ => lt_of_mem_sextets, rfl⟩, octets_sextets bytes⟩

/-! ### Padding -/

/-- Equals signs, as they stand at the end of a text. -/
def padding (n : Nat) : String :=
  String.ofList (List.replicate n '=')

theorem stripPadding_append {s : List Char} (h : '=' ∉ s) (n : Nat) : stripPadding (s ++ List.replicate n '=') = s := by
  have signs : ∀ c ∈ (List.replicate n '=').reverse, (c == '=') = true := by
    intro c hc
    rw [List.eq_of_mem_replicate (List.mem_reverse.mp hc), beq_self_eq_true]
  have unpadded : s.reverse.dropWhile (· == '=') = s.reverse := by
    cases hs : s.reverse with
    | nil => rfl
    | cons c rest =>
      have other : c ≠ '=' := fun same => h (same ▸ List.mem_reverse.mp (hs ▸ List.mem_cons_self))
      rw [List.dropWhile_cons, if_neg (by simpa using other)]
  rw [stripPadding, List.reverse_append, List.dropWhile_append_of_pos signs, unpadded, List.reverse_reverse]

theorem exists_padding (s : List Char) : ∃ n, s = stripPadding s ++ List.replicate n '=' := by
  have signs : ∀ c ∈ (s.reverse.takeWhile (· == '=')).reverse, c = '=' :=
    fun c hc => eq_of_beq (List.all_eq_true.mp List.all_takeWhile c (List.mem_reverse.mp hc))
  refine ⟨(s.reverse.takeWhile (· == '=')).reverse.length, ?_⟩
  rw [stripPadding, ← List.eq_replicate_of_mem signs, ← List.reverse_append, List.takeWhile_append_dropWhile,
    List.reverse_reverse]

/-- A text stands for bytes exactly if it is what is written of them, with equals signs behind it or none. -/
theorem decode_eq_some_iff {text : String} {bytes : Bytes} :
    decode text = some bytes ↔ ∃ n, text = encode bytes ++ padding n := by
  rw [decode, decodeExact_eq_some]
  constructor
  · intro h
    obtain ⟨n, hn⟩ := exists_padding text.toList
    refine ⟨n, String.toList_injective ?_⟩
    rw [String.toList_append, ← h, padding, String.toList_ofList]
    exact hn
  · rintro ⟨n, rfl⟩
    rw [String.toList_append, padding, String.toList_ofList, stripPadding_append fun mem => (encode_unpadded bytes _ mem).1 rfl]

/-- What is written of a byte string is read back as that byte string. -/
theorem decode_encode (bytes : Bytes) : decode (encode bytes) = some bytes :=
  decode_eq_some_iff.mpr ⟨0, String.append_empty.symm⟩

theorem encode_ne_nil {bytes : Bytes} (h : bytes ≠ []) : (encode bytes).toList ≠ [] := by
  intro empty
  have same : encode bytes = encode [] := String.toList_injective empty
  have read : decode (encode []) = some bytes := same ▸ decode_encode bytes
  exact h (Option.some.inj (read.symm.trans (decode_encode [])))

end IdentityServer.Base64
