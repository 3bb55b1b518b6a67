import IdentityServer.Proofs.Federation.OwnDocument

/-! # Answers of notaries

A notary answers any number of values, of which those that name the server asked for are looked at. Each of these has
to be a document that the server has signed and the notary has signed as well, and the first one that is valid longest
is taken. A single value that is not as it should be spoils the answer; values for other servers do not count. -/

namespace IdentityServer
open SignedJson Exchange

/-! ### The document that is valid longest -/

/-- Of documents, the first one of those that are valid longest. -/
def IsFirstLongest (documents : List KeyDocument) (d : KeyDocument) : Prop :=
  ∃ front back, documents = front ++ d :: back ∧ (∀ f ∈ front, f.validUntil < d.validUntil) ∧
    ∀ b ∈ back, b.validUntil ≤ d.validUntil

section Longest
variable {documents front back : List KeyDocument} {d : KeyDocument}

theorem exists_isFirstLongest (h : documents ≠ []) : ∃ d, IsFirstLongest documents d := by
  induction documents with
  | nil => exact absurd rfl h
  | cons first rest ih =>
    cases rest with
    | nil => exact ⟨first, [], [], rfl, nofun, nofun⟩
    | cons second rest =>
      obtain ⟨d, front, back, hsplit, before, behind⟩ := ih nofun
      by_cases longer : first.validUntil < d.validUntil
      · exact ⟨d, first :: front, back, congrArg _ hsplit, List.forall_mem_cons.mpr ⟨longer, before⟩, behind⟩
      · -- The first document is valid as long as the longest of the others, so it comes before them.
        have most : d.validUntil ≤ first.validUntil := Int64.not_lt.mp longer
        refine ⟨first, [], _, rfl, nofun, fun b hb => Int64.le_trans ?_ most⟩
        rw [hsplit] at hb
        rcases List.mem_append.mp hb with hb | hb
        · exact Int64.le_of_lt (before b hb)
        · rcases List.mem_cons.mp hb with rfl | hb
          · exact Int64.le_refl _
          · exact behind b hb

theorem longerValid_cases (best : Option KeyDocument) (document : KeyDocument) :
    longerValid best document = best ∨ longerValid best document = some document := by
  cases best with
  | none => exact .inr rfl
  | some b =>
    unfold longerValid
    dsimp only
    split
    · exact .inr rfl
    · exact .inl rfl

theorem foldl_longerValid_mem (front : List KeyDocument) (best : Option KeyDocument) :
    front.foldl longerValid best = best ∨ ∃ f ∈ front, front.foldl longerValid best = some f := by
  induction front generalizing best with
  | nil => exact .inl rfl
  | cons f rest ih =>
    rw [List.foldl_cons]
    obtain same | ⟨d, hd, later⟩ := ih (longerValid best f)
    · rw [same]
      exact (longerValid_cases best f).imp_right fun taken => ⟨f, List.mem_cons_self, taken⟩
    · exact .inr ⟨d, List.mem_cons_of_mem f hd, later⟩

theorem foldl_longerValid_of_le (h : ∀ b ∈ back, b.validUntil ≤ d.validUntil) :
    back.foldl longerValid (some d) = some d := by
  induction back with
  | nil => rfl
  | cons b rest ih =>
    obtain ⟨first, rest⟩ := List.forall_mem_cons.mp h
    have stays : longerValid (some d) b = some d := if_neg (Int64.not_lt.mpr first)
    rw [List.foldl_cons, stays]
    exact ih rest

theorem IsFirstLongest.foldl (h : IsFirstLongest documents d) : documents.foldl longerValid none = some d := by
  obtain ⟨front, back, rfl, before, behind⟩ := h
  have taken : longerValid (front.foldl longerValid none) d = some d := by
    obtain same | ⟨f, hf, last⟩ := foldl_longerValid_mem front none
    · rw [same]
      rfl
    · rw [last]
      exact if_pos (before f hf)
  rw [List.foldl_append, List.foldl_cons, taken]
  exact foldl_longerValid_of_le behind

theorem foldl_longerValid_eq_some : documents.foldl longerValid none = some d ↔ IsFirstLongest documents d := by
  refine ⟨fun h => ?_, IsFirstLongest.foldl⟩
  have some_document : documents ≠ [] := by
    rintro rfl
    cases h
  obtain ⟨e, he⟩ := exists_isFirstLongest some_document
  obtain rfl : e = d := Option.some.inj (he.foldl.symm.trans h)
  exact he

end Longest

/-! ### Values of an answer -/

/-- The values of an answer that name a server. -/
def valuesFor (server : String) (raws : List Json) : List Json :=
  raws.filter fun raw => decide ((raw.field? "server_name").bind Json.text? = some server)

variable [SignatureScheme]

/-- A value is an object that carries, under the name of a server, a signature of what is signed of it by one of the
    keys. -/
def Json.SignedBy (v : Json) (server : String) (keys : Dictionary String) : Prop :=
  ∃ fields id signature key, v = .obj fields ∧ (id, .str signature) ∈ signaturesOf server v ∧ keys.get? id = some key ∧
    verifySignature key signature (utf8 (signedText fields)) = true

theorem verify_eq_ok_iff_signedBy {v : Json} {server : String} {keys : Dictionary String} :
    verify v server keys.get? = .ok () ↔ v.SignedBy server keys := by
  rw [verify_eq_ok]
  constructor
  · rintro ⟨fields, hfields, ⟨id, x⟩, hentry, valid⟩
    unfold entryValid at valid
    split at valid
    · rename_i key signature hkey hsignature
      obtain rfl := Json.fields?_eq_some.mp hfields
      obtain rfl : x = .str signature := by cases x <;> cases hsignature; rfl
      exact ⟨fields, id, signature, key, rfl, hentry, hkey, valid⟩
    · cases valid
  · rintro ⟨fields, id, signature, key, rfl, hentry, hkey, valid⟩
    refine ⟨fields, rfl, (id, .str signature), hentry, ?_⟩
    simp only [entryValid, hkey, Json.text?]
    exact valid

/-- A value is a document, and both the server that it names and the notary have signed it: the server by one of the
    keys of the document itself, the notary by one of its own. -/
structure Vouches (notary server : String) (keys : Dictionary String) (raw : Json) (d : KeyDocument) : Prop where
  decodes : KeyDocument.ofJson? raw = some d
  signed : raw.SignedBy server d.verifyKeys
  countersigned : raw.SignedBy notary keys

/-- An answer gives a document for a server: all values that name the server are vouched for, and of their documents it
    is the first one that is valid longest. -/
def Answers (notary server : String) (keys : Dictionary String) (raws : List Json) (d : KeyDocument) : Prop :=
  ∃ documents, List.Forall₂ (Vouches notary server keys) (valuesFor server raws) documents ∧ IsFirstLongest documents d

section Notary
variable {notary server : String} {keys : Dictionary String} {raw : Json} {raws : List Json} {d : KeyDocument}

omit [SignatureScheme] in
/-- A document is a document of the server that its value names. -/
theorem KeyDocument.server_of_field (decodes : KeyDocument.ofJson? raw = some d)
    (named : (raw.field? "server_name").bind Json.text? = some server) : d.server = server := by
  cases raw with
  | obj fields =>
    have read : (Json.obj fields).required Json.text? "server_name" = some d.server :=
      KeyDocument.ofObject?_eq_some.mp decodes (.required "server_name" Json.Codec.text (·.server)) (.tail _ (.head _))
    exact Option.some.inj (read.symm.trans named)
  | _ => simp [Json.field?] at named

theorem checkKeyDocument_eq_ok : checkKeyDocument server raw = .ok d ↔
    KeyDocument.ofJson? raw = some d ∧ d.server = server ∧ raw.SignedBy server d.verifyKeys := by
  unfold checkKeyDocument
  cases KeyDocument.ofJson? raw with
  | none => simp
  | some document =>
    dsimp only
    split
    · rename_i other
      refine ⟨nofun, ?_⟩
      rintro ⟨same, named, -⟩
      cases same
      exact absurd named other
    · rename_i named
      rw [not_not] at named
      constructor
      · intro h
        obtain ⟨⟨⟩, signed, h⟩ := bind_eq_ok.mp h
        cases h
        exact ⟨rfl, named, verify_eq_ok_iff_signedBy.mp signed⟩
      · rintro ⟨same, -, signed⟩
        cases same
        exact bind_eq_ok.mpr ⟨(), verify_eq_ok_iff_signedBy.mpr signed, rfl⟩

theorem notaryStep_other {best : Option KeyDocument}
    (other : (raw.field? "server_name").bind Json.text? ≠ some server) :
    notaryStep notary server keys best raw = .ok best := by
  rw [notaryStep, if_pos other]
  rfl

theorem notaryStep_eq_ok {best best' : Option KeyDocument}
    (named : (raw.field? "server_name").bind Json.text? = some server) :
    notaryStep notary server keys best raw = .ok best' ↔
      ∃ d, Vouches notary server keys raw d ∧ best' = longerValid best d := by
  rw [notaryStep, if_neg (not_not.mpr named)]
  constructor
  · intro h
    obtain ⟨d, checked, h⟩ := bind_eq_ok.mp h
    obtain ⟨⟨⟩, countersigned, h⟩ := bind_eq_ok.mp h
    cases h
    obtain ⟨decodes, -, signed⟩ := checkKeyDocument_eq_ok.mp checked
    exact ⟨d, ⟨decodes, signed, verify_eq_ok_iff_signedBy.mp countersigned⟩, rfl⟩
  · rintro ⟨d, vouches, rfl⟩
    have checked := checkKeyDocument_eq_ok.mpr
      ⟨vouches.decodes, KeyDocument.server_of_field vouches.decodes named, vouches.signed⟩
    have countersigned := verify_eq_ok_iff_signedBy.mpr vouches.countersigned
    exact bind_eq_ok.mpr ⟨d, checked, bind_eq_ok.mpr ⟨(), countersigned, rfl⟩⟩

/-- Values for other servers are passed over. -/
theorem foldlM_notaryStep_valuesFor (best : Option KeyDocument) :
    raws.foldlM (notaryStep notary server keys) best =
      (valuesFor server raws).foldlM (notaryStep notary server keys) best := by
  induction raws generalizing best with
  | nil => rfl
  | cons raw rest ih =>
    by_cases named : (raw.field? "server_name").bind Json.text? = some server
    · have kept : valuesFor server (raw :: rest) = raw :: valuesFor server rest :=
        List.filter_cons_of_pos (by simpa using named)
      rw [kept, List.foldlM_cons, List.foldlM_cons]
      exact bind_congr ih
    · have passed : valuesFor server (raw :: rest) = valuesFor server rest :=
        List.filter_cons_of_neg (by simpa using named)
      rw [passed, List.foldlM_cons, notaryStep_other named, bind_ok]
      exact ih best

theorem foldlM_notaryStep_eq_ok {best best' : Option KeyDocument}
    (named : ∀ raw ∈ raws, (raw.field? "server_name").bind Json.text? = some server) :
    raws.foldlM (notaryStep notary server keys) best = .ok best' ↔
      ∃ documents, List.Forall₂ (Vouches notary server keys) raws documents ∧
        best' = documents.foldl longerValid best := by
  induction raws generalizing best with
  | nil =>
    simp only [List.foldlM_nil, List.forall₂_nil_left_iff, exists_eq_left, List.foldl_nil]
    exact ⟨fun h => (Except.ok.inj h).symm, fun h => h ▸ rfl⟩
  | cons raw rest ih =>
    obtain ⟨first, named⟩ := List.forall_mem_cons.mp named
    rw [List.foldlM_cons, bind_eq_ok]
    simp only [notaryStep_eq_ok first, ih named]
    constructor
    · rintro ⟨_, ⟨d, vouches, rfl⟩, documents, hrest, rfl⟩
      exact ⟨d :: documents, .cons vouches hrest, rfl⟩
    · rintro ⟨_, _ | ⟨vouches, hrest⟩, rfl⟩
      exact ⟨_, ⟨_, vouches, rfl⟩, _, hrest, rfl⟩

theorem notaryDocument_valuesFor :
    notaryDocument notary server keys raws = notaryDocument notary server keys (valuesFor server raws) := by
  rw [notaryDocument, notaryDocument, foldlM_notaryStep_valuesFor]

/-- A notary's answer gives a document if and only if all values that name the server are vouched for, of which there has
    to be one, and the document is the first one of theirs that is valid longest. -/
theorem notaryDocument_eq_ok : notaryDocument notary server keys raws = .ok d ↔ Answers notary server keys raws d := by
  have named : ∀ raw ∈ valuesFor server raws, (raw.field? "server_name").bind Json.text? = some server :=
    fun raw hraw => of_decide_eq_true (List.mem_filter.mp hraw).2
  rw [notaryDocument, foldlM_notaryStep_valuesFor, bind_eq_ok]
  simp only [foldlM_notaryStep_eq_ok named, Answers, ← foldl_longerValid_eq_some]
  constructor
  · rintro ⟨_, ⟨documents, vouched, rfl⟩, h⟩
    split at h
    · rename_i chosen hchosen
      cases h
      exact ⟨documents, vouched, hchosen⟩
    · cases h
  · rintro ⟨documents, vouched, hchosen⟩
    refine ⟨_, ⟨documents, vouched, rfl⟩, ?_⟩
    rw [hchosen]
    rfl

end Notary

end IdentityServer
