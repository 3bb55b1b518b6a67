import IdentityServer.Proofs.Text.Base64
import IdentityServer.Proofs.Text.Blank
import IdentityServer.Proofs.Text.Integer
import IdentityServer.Signing.KeyPair

/-! # Keys and settings

A setting is read as a key exactly if it states the version and the seed of that key, and is refused for the length of the
seed exactly if it states one of another length. -/

namespace IdentityServer.KeyPair
open Text
variable {version : Int64} {seed : Bytes} {part : List Char} {text : String} {key : KeyPair}

theorem ofSeed_eq_ok : ofSeed version seed = .ok key ↔ version = key.version ∧ seed = key.seed := by
  constructor
  · intro h
    unfold ofSeed at h
    split at h
    · cases h
      exact ⟨rfl, rfl⟩
    · cases h
  · rintro ⟨rfl, rfl⟩
    rw [ofSeed, dif_pos key.seed_length]

theorem ofSeed_eq_error {fault : KeyFault} :
    ofSeed version seed = .error fault ↔ fault = .seedLength ∧ seed.length ≠ SignatureScheme.seedLength := by
  unfold ofSeed
  split
  · rename_i length
    exact ⟨nofun, fun h => absurd length h.2⟩
  · rename_i length
    rw [Except.error.injEq, eq_comm]
    exact ⟨fun h => ⟨h, length⟩, fun h => h.1⟩

/-! ### Settings -/

/-- The part of a setting that holds a seed: the encoded seed, and any number of equals signs behind it. -/
def Encodes (seed : Bytes) (part : List Char) : Prop :=
  ∃ n, part = (Base64.encode seed ++ Base64.padding n).toList

/-- What a setting states: a seed alone, for version 0; or a version, in any notation of its number, and a seed behind the
    name of the algorithm. There may be any blanks around the parts and between them. -/
inductive States (version : Int64) (seed : Bytes) : List Char → Prop
  | bare {part text : List Char} (first : version = 0) (encodes : Encodes seed part) (spaced : Spaced [part] text) :
    States version seed text
  | versioned {digits part text : List Char} (numeral : Numeral digits version.toInt) (encodes : Encodes seed part)
    (spaced : Spaced [algorithm.toList, digits, part] text) : States version seed text

theorem encodes_iff : Encodes seed part ↔ Base64.decode (String.ofList part) = some seed := by
  rw [Base64.decode_eq_some_iff]
  constructor
  · rintro ⟨n, rfl⟩
    exact ⟨n, String.ofList_toList⟩
  · rintro ⟨n, h⟩
    exact ⟨n, by rw [← h, String.toList_ofList]⟩

theorem Encodes.visible (h : Encodes seed part) : ∀ c ∈ part, isBlank c = false := by
  obtain ⟨n, rfl⟩ := h
  rw [String.toList_append, Base64.padding, String.toList_ofList]
  intro c hc
  rcases List.mem_append.mp hc with hc | hc
  · exact (Base64.encode_unpadded seed c hc).2
  · rw [List.eq_of_mem_replicate hc]
    decide

theorem Encodes.ne_nil (h : Encodes seed part) (some_byte : seed ≠ []) : part ≠ [] := by
  obtain ⟨n, rfl⟩ := h
  rw [String.toList_append]
  exact List.append_ne_nil_of_left_ne_nil (Base64.encode_ne_nil some_byte) _

theorem Encodes.ofEncodedSeed_eq (h : Encodes seed part) (version : Int64) :
    ofEncodedSeed version part = ofSeed version seed := by
  rw [ofEncodedSeed, encodes_iff.mp h]

theorem ofEncodedSeed_cases (version : Int64) (part : List Char) :
    (∃ seed, Encodes seed part) ∨ ofEncodedSeed version part = .error .seedEncoding := by
  rw [ofEncodedSeed]
  cases h : Base64.decode (String.ofList part) with
  | some seed => exact .inl ⟨seed, encodes_iff.mpr h⟩
  | none => exact .inr rfl

theorem States.ofConfig_eq (h : States version seed text.toList) : ofConfig text = ofSeed version seed := by
  unfold ofConfig
  cases h with
  | bare first encodes spaced =>
    rw [spaced.words_eq, first]
    exact encodes.ofEncodedSeed_eq 0
  | versioned numeral encodes spaced =>
    rw [spaced.words_eq]
    dsimp only
    rw [if_pos String.ofList_toList, readInt64_eq_some.mpr numeral]
    exact encodes.ofEncodedSeed_eq version

/-- A setting that states nothing is refused, and not for the length of a seed. -/
theorem ofConfig_cases (text : String) :
    (∃ version seed, States version seed text.toList) ∨
    ∃ fault, ofConfig text = .error fault ∧ fault ≠ .seedLength := by
  unfold ofConfig
  split
  · rename_i part pieces
    obtain ⟨seed, encodes⟩ | refused := ofEncodedSeed_cases 0 part
    · exact .inl ⟨0, seed, .bare rfl encodes (words_eq_iff.mp pieces)⟩
    · exact .inr ⟨_, refused, nofun⟩
  · rename_i name digits part pieces
    split
    · rename_i named
      have spaced : Spaced [algorithm.toList, digits, part] text.toList := by
        rw [← named, String.toList_ofList]
        exact words_eq_iff.mp pieces
      split
      · rename_i version read
        obtain ⟨seed, encodes⟩ | refused := ofEncodedSeed_cases version part
        · exact .inl ⟨version, seed, .versioned (readInt64_eq_some.mp read) encodes spaced⟩
        · exact .inr ⟨_, refused, nofun⟩
      · exact .inr ⟨_, rfl, nofun⟩
    · exact .inr ⟨_, rfl, nofun⟩
  · exact .inr ⟨_, rfl, nofun⟩

theorem ofConfig_eq_ok : ofConfig text = .ok key ↔ States key.version key.seed text.toList := by
  constructor
  · intro h
    obtain ⟨version, seed, states⟩ | ⟨fault, refused, -⟩ := ofConfig_cases text
    · obtain ⟨rfl, rfl⟩ := ofSeed_eq_ok.mp (states.ofConfig_eq.symm.trans h)
      exact states
    · cases h.symm.trans refused
  · intro states
    rw [states.ofConfig_eq]
    exact ofSeed_eq_ok.mpr ⟨rfl, rfl⟩

theorem ofConfig_eq_seedLength : ofConfig text = .error .seedLength ↔
    ∃ version seed, States version seed text.toList ∧ seed.length ≠ SignatureScheme.seedLength := by
  constructor
  · intro h
    obtain ⟨version, seed, states⟩ | ⟨fault, refused, other⟩ := ofConfig_cases text
    · exact ⟨version, seed, states, (ofSeed_eq_error.mp (states.ofConfig_eq.symm.trans h)).2⟩
    · cases h.symm.trans refused
      exact absurd rfl other
  · rintro ⟨version, seed, states, length⟩
    rw [states.ofConfig_eq]
    exact ofSeed_eq_error.mpr ⟨rfl, length⟩

/-- What is written of a version and a seed states them, with any blanks around the parts and between them. -/
theorem states_written (version : Int64) (encodes : Encodes seed part) (some_byte : seed ≠ [])
    {before gap gap' after : List Char} (hbefore : Blanks before) (hgap : Blanks gap) (some_gap : gap ≠ [])
    (hgap' : Blanks gap') (some_gap' : gap' ≠ []) (hafter : Blanks after) :
    States version seed
      (before ++ (algorithm.toList ++ (gap ++ (showInt version.toInt ++ (gap' ++ (part ++ after)))))) := by
  have last : Spaced [part] (part ++ after) := .last (encodes.ne_nil some_byte) encodes.visible hafter
  have digits := last.before (showInt_ne_nil version.toInt) (fun _ => not_blank_of_mem_showInt) hgap' some_gap'
  have visible : ∀ c ∈ algorithm.toList, isBlank c = false := fun c hc =>
    eq_false_of_ne_true (List.any_eq_false.mp (by decide) c hc)
  have name := digits.before (by decide : algorithm.toList ≠ []) visible hgap some_gap
  exact .versioned (numeral_showInt version.toInt) encodes (name.behind hbefore)

/-- A text stands for bytes exactly if it is what is written of them, with any number of equals signs behind it; what is
    written has none itself, and no blanks. What is written of a version and a seed of 32 bytes, with any blanks around the
    parts and between them, is read as the key with this id and this seed. Every setting is read as the key that it states,
    and one that states a seed of another length is refused for that. -/
theorem key_text_codec :
    (∀ text bytes, Base64.decode text = some bytes ↔ ∃ n, text = Base64.encode bytes ++ Base64.padding n) ∧
    (∀ bytes, ∀ c ∈ (Base64.encode bytes).toList, c ≠ '=' ∧ isBlank c = false) ∧
    (∀ (version : Int64) (seed : Bytes) (n : Nat) (before gap gap' after : List Char), seed.length = 32 →
      Blanks before → Blanks gap → gap ≠ [] → Blanks gap' → gap' ≠ [] → Blanks after →
      ∃ key, ofConfig (String.ofList (before ++ ("ed25519".toList ++ (gap ++ (showInt version.toInt ++ (gap' ++
          ((Base64.encode seed ++ Base64.padding n).toList ++ after))))))) = .ok key ∧
        key.id = "ed25519:" ++ String.ofList (showInt version.toInt) ∧ key.version = version ∧ key.seed = seed) ∧
    (∀ text key, ofConfig text = .ok key ↔ States key.version key.seed text.toList) ∧
    (∀ text, ofConfig text = .error .seedLength ↔
      ∃ version seed, States version seed text.toList ∧ seed.length ≠ 32) ∧
    ∀ version seed, ofSeed version seed = .error .seedLength ↔ seed.length ≠ 32 := by
  refine ⟨fun _ _ => Base64.decode_eq_some_iff, Base64.encode_unpadded, ?_, fun _ _ => ofConfig_eq_ok,
    fun _ => ofConfig_eq_seedLength, fun version seed => ofSeed_eq_error.trans (and_iff_right rfl)⟩
  intro version seed n before gap gap' after length hbefore hgap some_gap hgap' some_gap' hafter
  have some_byte : seed ≠ [] := List.ne_nil_of_length_eq_add_one length
  have states := states_written version ⟨n, rfl⟩ some_byte hbefore hgap some_gap hgap' some_gap' hafter
  refine ⟨⟨version, seed, length⟩, ofConfig_eq_ok.mpr ?_, rfl, rfl, rfl⟩
  rw [String.toList_ofList]
  exact states

/-- The least version, blanks of several kinds, and a seed with padding behind it. -/
theorem key_text_codec_least :
    let seed : Bytes := List.replicate 32 255
    let text := "\u3000ed25519\t-9223372036854775808\n //////////////////////////////////////////8== "
    seed.length = 32 ∧ Blanks ['\n', ' '] ∧
    ∃ key, ofConfig text = .ok key ∧ key.id = "ed25519:-9223372036854775808" ∧ key.seed = seed := by
  intro seed text
  obtain ⟨-, -, read, -⟩ := key_text_codec
  obtain ⟨key, hkey, id, -, same⟩ := read Int64.minValue seed 2 ['\u3000'] ['\t'] ['\n', ' '] [' '] (by decide)
    (by decide) (by decide) (by decide) (by decide) (by decide) (by decide)
  have whole : text = String.ofList ('\u3000' :: ("ed25519".toList ++ ('\t' :: (showInt Int64.minValue.toInt ++
      (['\n', ' '] ++ ((Base64.encode seed ++ Base64.padding 2).toList ++ [' '])))))) := by
    decide +kernel
  exact ⟨by decide, by decide, key, (congrArg ofConfig whole).trans hkey, id, same⟩

end IdentityServer.KeyPair
