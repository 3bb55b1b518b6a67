import IdentityServer.Proofs.Federation.Header
import IdentityServer.Proofs.Outcome

/-! # Spellings of headers

A header states a claim in parts that stand in any order between commas, among others that state something else, with
blanks around names and values, and with values between quotes or bare. Commas always separate parts, so a claim is
read back from its own header exactly if it has none. -/

namespace IdentityServer

/-! ### Lists -/

section Once
variable {α β : Type}

theorem exists_perm_of_countP {p : α → Bool} {l : List α} (h : l.countP p = 1) :
    ∃ a rest, l.Perm (a :: rest) ∧ p a = true ∧ rest.countP p = 0 := by
  obtain ⟨a, mem, ha⟩ := List.countP_pos_iff.mp (Nat.lt_of_lt_of_eq Nat.zero_lt_one h.symm)
  obtain ⟨before, after, rfl⟩ := List.append_of_mem mem
  refine ⟨a, before ++ after, List.perm_middle, ha, ?_⟩
  rw [List.perm_middle.countP_eq, List.countP_cons_of_pos ha] at h
  exact Nat.succ.inj h

/-- If each key is found once in a list, these places come first in some order of it, and no key is found in the rest. -/
theorem exists_perm_of_once {q : β → α → Bool} (single : ∀ k k' a, q k a = true → q k' a = true → k = k') {keys : List β}
    (distinct : keys.Nodup) {l : List α} (once : ∀ k ∈ keys, l.countP (q k) = 1) :
    ∃ found rest, List.Forall₂ (fun k a => q k a = true) keys found ∧ l.Perm (found ++ rest) ∧
      ∀ k ∈ keys, rest.countP (q k) = 0 := by
  induction keys generalizing l with
  | nil => exact ⟨[], l, .nil, .refl l, nofun⟩
  | cons k keys ih =>
    obtain ⟨other, distinct⟩ := List.nodup_cons.mp distinct
    obtain ⟨first, once⟩ := List.forall_mem_cons.mp once
    obtain ⟨a, rest, order, ha, gone⟩ := exists_perm_of_countP first
    have once_in_rest : ∀ k' ∈ keys, rest.countP (q k') = 1 := by
      intro k' mem
      have elsewhere : ¬ q k' a = true := fun ha' => other (single k k' a ha ha' ▸ mem)
      rw [← once k' mem, order.countP_eq, List.countP_cons_of_neg elsewhere]
    obtain ⟨found, rest', hfound, order', none_left⟩ := ih distinct once_in_rest
    refine ⟨a :: found, rest', .cons ha hfound, order.trans (order'.cons a), List.forall_mem_cons.mpr ⟨?_, none_left⟩⟩
    rw [order'.countP_eq, List.countP_append] at gone
    exact Nat.eq_zero_of_add_eq_zero_left gone

end Once

/-! ### Spellings -/

namespace ClaimedSignature
open Text
variable {c : ClaimedSignature}

/-- The names under which a header states a claim. -/
def names : List String :=
  ["origin", "key", "sig"]

/-- A value as it is written: between quotes; or bare, if it has no blanks at its ends and no quotes around it. -/
inductive Written (value : List Char) : List Char → Prop
  | quoted : Written value ('"' :: (value ++ ['"']))
  | bare (whole : trim value = value) (unquoted : ∀ inner, value ≠ '"' :: (inner ++ ['"'])) : Written value value

/-- A part of a header that states a value under a name. -/
def States (name value : String) (part : List Char) : Prop :=
  ∃ left text right, Padded name.toList left ∧ Padded text right ∧ Written value.toList text ∧ part = left ++ '=' :: right

/-- A part of a header that states nothing under any of the names. -/
def Unrelated (part : List Char) : Prop :=
  ∀ left right, '=' ∉ left → part = left ++ '=' :: right → ∀ name ∈ names, ¬ Padded name.toList left

/-- The ways to spell a claim as a header: after the scheme a part for each field, and any others, in any order. -/
inductive Spells (c : ClaimedSignature) : List Char → Prop
  | ordered {before origin key sig : List Char} {others parts : List (List Char)} (blanks : Blanks before)
    (origin_eq : States "origin" c.origin origin) (key_eq : States "key" c.keyId key)
    (sig_eq : States "sig" c.signature sig) (others_eq : ∀ part ∈ others, Unrelated part)
    (order : parts.Perm (origin :: key :: sig :: others)) (apart : ∀ part ∈ parts, ',' ∉ part) :
    Spells c (before ++ (scheme.toList ++ join [','] parts))

/-- How often a header states something under a name. -/
def occurrences (name header : String) : Nat :=
  match dropStart? scheme.toList (trim header.toList) with
  | some rest => (parameters rest).countP (·.1 == name.toList)
  | none => 0

/-! ### Parts -/

theorem unquote_of_unquoted {value : List Char} (h : ∀ inner, value ≠ '"' :: (inner ++ ['"'])) : unquote value = value := by
  unfold unquote
  split
  · rename_i rest
    refine if_neg fun last => ?_
    obtain ⟨inner, rfl⟩ := List.getLast?_eq_some_iff.mp last
    exact h inner rfl
  · rfl

theorem written_iff {value text : List Char} : Written value text ↔ trim text = text ∧ unquote text = value := by
  constructor
  · rintro (_ | ⟨whole, unquoted⟩)
    · exact ⟨trim_between (by decide) (by decide) value, unquote_quoted value⟩
    · exact ⟨whole, unquote_of_unquoted unquoted⟩
  · rintro ⟨whole, rfl⟩
    by_cases between : ∃ inner, text = '"' :: (inner ++ ['"'])
    · obtain ⟨inner, rfl⟩ := between
      rw [unquote_quoted]
      exact .quoted
    · have unquoted := not_exists.mp between
      rw [unquote_of_unquoted unquoted]
      exact .bare whole unquoted

theorem parameter?_eq (part : List Char) :
    parameter? part = (cut '=' part).map fun p => (trim p.1, unquote (trim p.2)) := by
  have pieces := congrArg (Option.map (Prod.map id unquote)) (cut_trim (by decide : isBlank '=' = false) part)
  rw [Option.map_map, Option.map_map] at pieces
  exact pieces

theorem not_mem_padded {name left : List Char} (undivided : '=' ∉ name) (h : Padded name left) : '=' ∉ left := by
  obtain ⟨before, after, hbefore, hafter, rfl⟩ := h
  have blank : isBlank '=' = false := by decide
  rw [List.mem_append, List.mem_append]
  exact not_or.mpr ⟨not_mem_blanks blank hbefore, not_or.mpr ⟨undivided, not_mem_blanks blank hafter⟩⟩

/-- The names have no equals sign and no blanks, so the reader finds them as they stand. -/
theorem plain_names : ∀ name ∈ names, '=' ∉ name.toList ∧ trim name.toList = name.toList := by
  decide

theorem states_iff {name value : String} (mem : name ∈ names) {part : List Char} :
    States name value part ↔ parameter? part = some (name.toList, value.toList) := by
  obtain ⟨undivided, whole⟩ := plain_names name mem
  rw [parameter?_eq]
  constructor
  · rintro ⟨left, text, right, hleft, hright, written, rfl⟩
    obtain ⟨bare, unquoted⟩ := written_iff.mp written
    rw [cut_append (not_mem_padded undivided hleft), Option.map_some, trim_padded hleft, trim_padded hright, whole, bare,
      unquoted]
  · intro h
    obtain ⟨⟨left, right⟩, hcut, hpair⟩ := Option.map_eq_some_iff.mp h
    obtain ⟨hname, hvalue⟩ := Prod.mk.inj hpair
    refine ⟨left, trim right, right, (trim_eq_iff.mp hname).2, padded_trim right, ?_, cut_eq_some hcut⟩
    exact written_iff.mpr ⟨(trim_eq_iff.mp rfl).1, hvalue⟩

theorem unrelated_iff {part : List Char} :
    Unrelated part ↔ ∀ p, parameter? part = some p → ∀ name ∈ names, p.1 ≠ name.toList := by
  rw [parameter?_eq]
  constructor
  · intro h p hp name mem same
    obtain ⟨⟨left, right⟩, hcut, rfl⟩ := Option.map_eq_some_iff.mp hp
    have padded : Padded name.toList left := (trim_eq_iff.mp same).2
    exact h left right (not_mem_padded (plain_names name mem).1 padded) (cut_eq_some hcut) name mem padded
  · rintro h left right undivided rfl name mem padded
    have other := h _ (by rw [cut_append undivided, Option.map_some]) name mem
    exact other ((trim_padded padded).trans (plain_names name mem).2)

theorem parameters_join {parts : List (List Char)} (some_part : parts ≠ []) (apart : ∀ part ∈ parts, ',' ∉ part) :
    parameters (join [','] parts) = parts.filterMap parameter? := by
  rw [parameters, splitAt_join some_part apart]

/-- Blanks at the end belong to the last part, whatever it states. -/
theorem parameters_append {after : List Char} (blanks : Blanks after) (s : List Char) :
    parameters (s ++ after) = parameters s := by
  obtain ⟨some_part, apart, whole⟩ := splitAt_pieces ',' s
  obtain none_left | ⟨parts, last, hparts⟩ := List.eq_nil_or_concat' (splitAt ',' s)
  · exact absurd none_left some_part
  have comma : ',' ∉ after := not_mem_blanks (by decide) blanks
  have apart_after : ∀ part ∈ parts ++ [last ++ after], ',' ∉ part := by
    rw [hparts, List.forall_mem_append, List.forall_mem_singleton] at apart
    refine List.forall_mem_append.mpr ⟨apart.1, List.forall_mem_singleton.mpr ?_⟩
    rw [List.mem_append]
    exact not_or.mpr ⟨apart.2, comma⟩
  have same : parameter? (last ++ after) = parameter? last := by
    rw [parameter?, parameter?, trim_padded (padded_append blanks last)]
  calc parameters (s ++ after)
      = parameters (join [','] (parts ++ [last ++ after])) := by rw [← whole, hparts, join_concat_append]
    _ = parts.filterMap parameter? ++ [last ++ after].filterMap parameter? := by
        rw [parameters_join (by simp) apart_after, List.filterMap_append]
    _ = (parts ++ [last]).filterMap parameter? := by
        rw [List.filterMap_append, List.filterMap_cons, List.filterMap_cons, same]
    _ = parameters s := by rw [parameters, hparts]

theorem dropStart?_eq_some {start s rest : List Char} (h : dropStart? start s = some rest) : s = start ++ rest := by
  induction start generalizing s with
  | nil => exact Option.some.inj h
  | cons c start ih =>
    cases s with
    | nil => cases h
    | cons x s =>
      rw [dropStart?] at h
      split at h
      · rename_i hx
        rw [hx, ih h]
        rfl
      · cases h

/-- What the reader finds after the scheme states the same as the parts that were written. -/
theorem rest_written {before body : List Char} (blanks : Blanks before) (stated : '=' ∈ body) :
    ∃ rest, dropStart? scheme.toList (trim (before ++ (scheme.toList ++ body))) = some rest ∧
      parameters rest = parameters body := by
  obtain ⟨after, hafter, hbody⟩ := exists_dropTail_append body
  refine ⟨dropTail isBlank body, ?_, by rw [← parameters_append hafter, ← hbody]⟩
  have start : (scheme.toList ++ body).dropWhile isBlank = scheme.toList ++ body := rfl
  rw [trim_padded (padded_prepend blanks _), trim, start, dropTail_append stated (by decide), dropStart?_append]

/-- What the reader takes after the scheme was written there. -/
theorem written_rest {s rest : List Char} (h : dropStart? scheme.toList (trim s) = some rest) :
    ∃ before body, Blanks before ∧ s = before ++ (scheme.toList ++ body) ∧ parameters rest = parameters body := by
  obtain ⟨before, after, hbefore, hafter, hs⟩ := padded_trim s
  rw [dropStart?_eq_some h, List.append_assoc] at hs
  exact ⟨before, rest ++ after, hbefore, hs, (parameters_append hafter rest).symm⟩

/-! ### Claims -/

/-- What a header states about a claim. -/
def fields (c : ClaimedSignature) : List (List Char × List Char) :=
  [("origin".toList, c.origin.toList), ("key".toList, c.keyId.toList), ("sig".toList, c.signature.toList)]

theorem Spells.stated {s : List Char} (h : Spells c s) :
    ∃ rest unknown, dropStart? scheme.toList (trim s) = some rest ∧ (parameters rest).Perm (fields c ++ unknown) ∧
      ∀ p ∈ unknown, ∀ name ∈ names, p.1 ≠ name.toList := by
  obtain @⟨before, origin, key, sig, others, parts, blanks, origin_eq, key_eq, sig_eq, others_eq, order, apart⟩ := h
  have some_part : parts ≠ [] := by
    rintro rfl
    cases order.length_eq
  have equals : '=' ∈ join [','] parts := by
    obtain ⟨left, -, right, -, -, -, rfl⟩ := origin_eq
    exact mem_join (order.mem_iff.mpr List.mem_cons_self) (List.mem_append_right _ List.mem_cons_self)
  obtain ⟨rest, hrest, same⟩ := rest_written blanks equals
  refine ⟨rest, others.filterMap parameter?, hrest, ?_, fun p hp => ?_⟩
  · rw [same, parameters_join some_part apart]
    refine (order.filterMap parameter?).trans (List.Perm.of_eq ?_)
    rw [List.filterMap_cons_some ((states_iff (by decide)).mp origin_eq),
      List.filterMap_cons_some ((states_iff (by decide)).mp key_eq),
      List.filterMap_cons_some ((states_iff (by decide)).mp sig_eq)]
    rfl
  · obtain ⟨part, mem, hpart⟩ := List.mem_filterMap.mp hp
    exact unrelated_iff.mp (others_eq part mem) p hpart

theorem lastValue_of_only {name value : String} {ps : List (List Char × List Char)}
    (mem : (name.toList, value.toList) ∈ ps) (only : ∀ p ∈ ps, p.1 = name.toList → p.2 = value.toList) :
    lastValue name ps = .ok value := by
  unfold lastValue
  split
  · rename_i p hp
    have found := only p (List.mem_reverse.mp (List.mem_of_find?_eq_some hp)) (by simpa using List.find?_some hp)
    rw [found, String.ofList_toList]
  · rename_i none_found
    have missed := List.find?_eq_none.mp none_found _ (List.mem_reverse.mpr mem)
    exact absurd (beq_self_eq_true _) missed

theorem mem_of_lastValue {name value : String} {ps : List (List Char × List Char)} (h : lastValue name ps = .ok value) :
    (name.toList, value.toList) ∈ ps := by
  unfold lastValue at h
  split at h
  · rename_i p hp
    cases h
    have found : p.1 = name.toList := by simpa using List.find?_some hp
    rw [String.toList_ofList, ← found]
    exact List.mem_reverse.mp (List.mem_of_find?_eq_some hp)
  · cases h

theorem ofHeader_eq_ok {header : String} : ofHeader header = .ok c ↔
    ∃ rest, dropStart? scheme.toList (trim header.toList) = some rest ∧ lastValue "origin" (parameters rest) = .ok c.origin ∧
      lastValue "key" (parameters rest) = .ok c.keyId ∧ lastValue "sig" (parameters rest) = .ok c.signature := by
  unfold ofHeader
  constructor
  · intro h
    split at h
    · cases h
    · rename_i rest hrest
      obtain ⟨origin, horigin, h⟩ := bind_eq_ok.mp h
      obtain ⟨keyId, hkey, h⟩ := bind_eq_ok.mp h
      obtain ⟨signature, hsignature, h⟩ := bind_eq_ok.mp h
      cases h
      exact ⟨rest, hrest, horigin, hkey, hsignature⟩
  · rintro ⟨rest, hrest, horigin, hkey, hsignature⟩
    rw [hrest]
    dsimp only
    rw [horigin, hkey, hsignature]
    rfl

theorem mem_of_mem_unquote {d : Char} {value : List Char} (h : d ∈ unquote value) : d ∈ value := by
  unfold unquote at h
  split at h
  · split at h
    · exact List.mem_cons_of_mem _ (List.dropLast_subset _ h)
    · exact h
  · exact h

/-- What a header states has no commas, since these separate its parts. -/
theorem comma_not_mem_parameters {s : List Char} {p : List Char × List Char} (h : p ∈ parameters s) : ',' ∉ p.2 := by
  obtain ⟨part, mem, hpart⟩ := List.mem_filterMap.mp h
  obtain ⟨-, apart, -⟩ := splitAt_pieces ',' s
  rw [parameter?_eq] at hpart
  obtain ⟨⟨left, right⟩, hcut, rfl⟩ := Option.map_eq_some_iff.mp hpart
  intro comma
  have within : ',' ∈ right := mem_of_mem_trim (mem_of_mem_unquote comma)
  refine apart part mem ?_
  rw [cut_eq_some hcut]
  exact List.mem_append_right _ (List.mem_cons_of_mem _ within)

theorem comma_free_of_ofHeader {header : String} (h : ofHeader header = .ok c) :
    ',' ∉ c.origin.toList ∧ ',' ∉ c.keyId.toList ∧ ',' ∉ c.signature.toList := by
  obtain ⟨rest, -, horigin, hkey, hsignature⟩ := ofHeader_eq_ok.mp h
  exact ⟨comma_not_mem_parameters (mem_of_lastValue horigin), comma_not_mem_parameters (mem_of_lastValue hkey),
    comma_not_mem_parameters (mem_of_lastValue hsignature)⟩

theorem Spells.ofHeader_eq {header : String} (h : Spells c header.toList) : ofHeader header = .ok c := by
  obtain ⟨rest, unknown, hrest, order, others⟩ := h.stated
  have only {name value : String} (known : name ∈ names) (mem : (name.toList, value.toList) ∈ fields c)
      (single : ∀ p ∈ fields c, p.1 = name.toList → p.2 = value.toList) : lastValue name (parameters rest) = .ok value := by
    refine lastValue_of_only (order.mem_iff.mpr (List.mem_append_left _ mem)) fun p hp same => ?_
    rcases List.mem_append.mp (order.mem_iff.mp hp) with stated | unrelated
    · exact single p stated same
    · exact absurd same (others p unrelated name known)
  refine ofHeader_eq_ok.mpr ⟨rest, hrest, only ?_ ?_ ?_, only ?_ ?_ ?_, only ?_ ?_ ?_⟩
  all_goals simp [names, fields]

theorem Spells.occurs_once {header : String} (h : Spells c header.toList) : ∀ name ∈ names, occurrences name header = 1 := by
  obtain ⟨rest, unknown, hrest, order, others⟩ := h.stated
  intro name known
  have unrelated : unknown.countP (·.1 == name.toList) = 0 :=
    List.countP_eq_zero.mpr fun p hp same => others p hp name known (eq_of_beq same)
  have stated : (fields c).countP (·.1 == name.toList) = 1 := by
    simp only [names, List.mem_cons, List.not_mem_nil, or_false] at known
    rcases known with rfl | rfl | rfl <;> rfl
  rw [occurrences, hrest]
  dsimp only
  rw [order.countP_eq, List.countP_append, stated, unrelated]

/-! ### Headers that state each field once -/

/-- Whether a part states something under a name. -/
def named (name : String) (part : List Char) : Bool :=
  ((parameter? part).map (·.1 == name.toList)).getD false

theorem named_iff {name : String} {part : List Char} :
    named name part = true ↔ ∃ value, parameter? part = some (name.toList, value) := by
  rw [named]
  cases h : parameter? part with
  | none => simp
  | some p => simp [Prod.ext_iff]

theorem countP_parameters (name : String) (s : List Char) :
    (parameters s).countP (·.1 == name.toList) = (splitAt ',' s).countP (named name) :=
  List.countP_filterMap

theorem exists_states {name : String} (mem : name ∈ names) {part : List Char} (h : named name part = true) :
    ∃ value, States name value part := by
  obtain ⟨value, hpart⟩ := named_iff.mp h
  exact ⟨String.ofList value, (states_iff mem).mpr (by rw [String.toList_ofList, hpart])⟩

theorem exists_spells {header : String} (once : ∀ name ∈ names, occurrences name header = 1) :
    ∃ c, Spells c header.toList := by
  cases hrest : dropStart? scheme.toList (trim header.toList) with
  | none =>
    have never := once "origin" (by decide)
    rw [occurrences, hrest] at never
    cases never
  | some rest =>
    obtain ⟨before, body, blanks, hheader, same⟩ := written_rest hrest
    obtain ⟨-, apart, whole⟩ := splitAt_pieces ',' body
    have once_in_parts : ∀ name ∈ names, (splitAt ',' body).countP (named name) = 1 := by
      intro name mem
      rw [← once name mem, occurrences, hrest, ← countP_parameters, ← same]
    have single : ∀ name name' part, named name part = true → named name' part = true → name = name' := by
      intro name name' part h h'
      obtain ⟨value, hpart⟩ := named_iff.mp h
      obtain ⟨value', hpart'⟩ := named_iff.mp h'
      exact String.toList_injective (congrArg Prod.fst (Option.some.inj (hpart.symm.trans hpart')))
    obtain ⟨found, others, hfound, order, unrelated⟩ := exists_perm_of_once single (by decide) once_in_parts
    obtain ⟨origin, _, horigin, after_origin, rfl⟩ := List.forall₂_cons_left_iff.mp hfound
    obtain ⟨key, _, hkey, after_key, rfl⟩ := List.forall₂_cons_left_iff.mp after_origin
    obtain ⟨sig, _, hsig, after_sig, rfl⟩ := List.forall₂_cons_left_iff.mp after_key
    obtain rfl := List.forall₂_nil_left_iff.mp after_sig
    obtain ⟨server, horigin⟩ := exists_states (by decide) horigin
    obtain ⟨keyId, hkey⟩ := exists_states (by decide) hkey
    obtain ⟨signature, hsig⟩ := exists_states (by decide) hsig
    have passed_over : ∀ part ∈ others, Unrelated part := by
      refine fun part mem => unrelated_iff.mpr fun p hpart name known same => ?_
      have stated : named name part = true := named_iff.mpr ⟨p.2, by rw [hpart, ← same]⟩
      exact List.countP_eq_zero.mp (unrelated name known) part mem stated
    refine ⟨⟨server, keyId, signature⟩, ?_⟩
    rw [hheader, ← whole]
    exact .ordered blanks horigin hkey hsig passed_over order apart

/-! ### The codec -/

/-- A claim is read back from its own header exactly if it has no commas, and what is read never has any. A header that
    states each field once is read as the claim that it spells, whatever the order of its parts, the blanks and quotes
    around what they state, and the other parts among them. -/
theorem header_codec :
    (∀ c : ClaimedSignature, ofHeader c.toHeader = .ok c ↔
      ',' ∉ c.origin.toList ∧ ',' ∉ c.keyId.toList ∧ ',' ∉ c.signature.toList) ∧
    (∀ header c, ofHeader header = .ok c → ',' ∉ c.origin.toList ∧ ',' ∉ c.keyId.toList ∧ ',' ∉ c.signature.toList) ∧
    (∀ header : String, (∀ name ∈ names, occurrences name header = 1) ↔ ∃ c, Spells c header.toList) ∧
    (∀ (header : String) (c : ClaimedSignature), Spells c header.toList → ofHeader header = .ok c) := by
  refine ⟨fun c => ⟨comma_free_of_ofHeader, ?_⟩, fun header c => comma_free_of_ofHeader, fun header => ?_, ?_⟩
  · rintro ⟨horigin, hkey, hsignature⟩
    exact ofHeader_toHeader horigin hkey hsignature
  · exact ⟨exists_spells, fun ⟨c, spelled⟩ => spelled.occurs_once⟩
  · exact fun header c spelled => spelled.ofHeader_eq

/-- Parts in another order, with blanks, without quotes, and with a part about something else among them. -/
theorem header_codec_reordered :
    let header := " X-Matrix sig = abc ,destination=id.example.org,key=\"ed25519:0\" , origin=hs.example.org"
    let c : ClaimedSignature := ⟨"hs.example.org", "ed25519:0", "abc"⟩
    Spells c header.toList ∧ ofHeader header = .ok c ∧ header ≠ c.toHeader ∧ ofHeader c.toHeader = .ok c := by
  intro header c
  obtain ⟨own, -, spelled, read⟩ := header_codec
  obtain ⟨c', h⟩ := (spelled header).mp (by decide +kernel)
  have reads : ofHeader header = .ok c := by decide +kernel
  have same : c' = c := Except.ok.inj ((read header c' h).symm.trans reads)
  rw [same] at h
  exact ⟨h, reads, by decide +kernel, (own c).mpr (by decide +kernel)⟩

end ClaimedSignature

end IdentityServer
