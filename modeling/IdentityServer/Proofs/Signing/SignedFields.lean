import IdentityServer.Proofs.Json.RoundTrip
import IdentityServer.Proofs.Text.Base64
import IdentityServer.Signing.SignedJson

/-! # Signed fields

What signing puts into an object that carries no signature yet, and what it leaves: the fields themselves
and the text that is signed. Whoever knows the public key accepts the signed object, also after it has been
written and read back. -/

namespace IdentityServer

namespace Fields
variable {α : Type}

theorem erase_insert (key : String) (value : α) (fields : Fields α) :
    (insert key value fields).erase key = fields.erase key := by
  induction fields with
  | nil => simp [insert, erase]
  | cons head rest ih =>
    obtain ⟨k, v⟩ := head
    rw [insert]
    split
    · rename_i hk
      simp [erase, hk]
    · split
      · simp [erase]
      · rename_i hk _
        simpa [erase, hk] using ih

end Fields

namespace SignedJson

/-- The fields of an object with a single signature. -/
def withSignature (id server signature : String) (fields : Fields Json) : Fields Json :=
  Fields.insert "signatures" (.obj [(server, .obj [(id, .str signature)])]) fields

variable {fields : Fields Json} {id server signature : String}

/-- The other fields are left as they are. -/
theorem field?_withSignature {name : String} (h : "signatures" ≠ name) :
    (Json.obj (withSignature id server signature fields)).field? name = Fields.get? name fields := by
  rw [Json.field?, withSignature, Fields.get?_insert, if_neg h]

/-- A signature is not among what is signed. -/
theorem signedText_withSignature : signedText (withSignature id server signature fields) = signedText fields := by
  rw [signedText, covered, withSignature, Fields.erase_insert]
  rfl

theorem signaturesOf_withSignature :
    signaturesOf server (.obj (withSignature id server signature fields)) = [(id, .str signature)] := by
  simp [signaturesOf, Json.field?, withSignature, Fields.get?_insert, Fields.get?, Json.fields?]

/-- An object of plain values with a signature is read back from its canonical text. -/
theorem parse_withSignature (hordered : fields.Ordered) (hreadable : ∀ field ∈ fields, field.2.Readable)
    (hflat : ∀ field ∈ fields, field.2.depth = 0) :
    Json.parse (Json.obj (withSignature id server signature fields)).canonical =
      some (.obj (withSignature id server signature fields)) := by
  refine Json.parse_canonical ⟨Fields.ordered_insert hordered, Json.fieldsReadable_iff.mpr fun field hf => ?_⟩ ?_
  · rcases Fields.mem_insert hf with rfl | hf
    · exact ⟨List.pairwise_singleton .., ⟨List.pairwise_singleton .., trivial, trivial⟩, trivial⟩
    · exact hreadable field hf
  · refine Nat.succ_le_succ (Json.fieldsDepth_le_iff (n := 126).mpr fun field hf => ?_)
    rcases Fields.mem_insert hf with rfl | hf
    · simp [Json.depth, Json.fieldsDepth]
    · rw [hflat field hf]
      exact Nat.zero_le _

/-! ### What counts -/

/-- What signatures cover contains every other field. -/
theorem field?_covered (value : Json) {name : String} (h : "signatures" ≠ name) (h' : "unsigned" ≠ name) :
    value.field? name = (value.fields?.map covered).bind (Fields.get? name) := by
  cases value with
  | obj fields => simp [Json.field?, Json.fields?, covered, Fields.get?_erase, h, h']
  | _ => rfl

variable [SignatureScheme]

/-- An object is accepted if one of the signatures of the server is valid for what they cover. -/
theorem verify_eq (value : Json) (server : String) (keyFor : String → Option String) :
    verify value server keyFor =
      match value.fields?.map covered with
      | none => .error (.missingSignature server)
      | some signed =>
        if (signaturesOf server value).isEmpty then .error (.missingSignature server)
        else if (signaturesOf server value).any (entryValid keyFor (utf8 (Json.obj signed).canonical)) then .ok ()
        else .error .invalidSignature := by
  cases value <;> rfl

theorem verify_congr {v w : Json} {server : String} {keyFor : String → Option String}
    (hcovered : v.fields?.map covered = w.fields?.map covered)
    (hsignatures : signaturesOf server v = signaturesOf server w) : verify v server keyFor = verify w server keyFor := by
  rw [verify_eq, verify_eq, hcovered, hsignatures]

theorem verify_eq_ok {value : Json} {server : String} {keyFor : String → Option String} :
    verify value server keyFor = .ok () ↔ ∃ fields, value.fields? = some fields ∧
      ∃ entry ∈ signaturesOf server value, entryValid keyFor (utf8 (signedText fields)) entry = true := by
  rw [verify_eq]
  cases value.fields? with
  | none => simp
  | some fields =>
    simp only [Option.map_some, Option.some.injEq, exists_eq_left', ← List.any_eq_true]
    cases signaturesOf server value with
    | nil => simp
    | cons entry rest =>
      rw [List.isEmpty_cons, if_neg Bool.false_ne_true, signedText]
      generalize List.any _ _ = valid
      cases valid <;> simp

/-- The fields of an object with the signature of a key under the name of a server. -/
def signedFields (key : KeyPair) (server : String) (fields : Fields Json) : Fields Json :=
  withSignature key.id server (key.sign (utf8 (signedText fields))) fields

/-- The text of an object with the signature of a key under the name of a server. -/
def signedPayload (key : KeyPair) (server : String) (fields : Fields Json) : String :=
  (Json.obj (signedFields key server fields)).canonical

/-- An object without signatures can always be signed. -/
theorem sign_unsigned (key : KeyPair) (server : String) (h : Fields.get? "signatures" fields = none) :
    sign key server (.obj fields) = .ok (.obj (signedFields key server fields)) := by
  unfold sign
  simp only [h]
  rfl

/-- What a key signs, its public half verifies. -/
theorem verifySignature_sign (lawful : SignatureScheme.Lawful) (key : KeyPair) (message : Bytes) :
    verifySignature key.publicKey (key.sign message) message = true := by
  rw [verifySignature, KeyPair.publicKey, KeyPair.sign, Base64.decode_encode, Base64.decode_encode]
  exact lawful key.seed message key.seed_length

/-- What a key signs is accepted by whoever knows its public half. -/
theorem verify_signedFields (lawful : SignatureScheme.Lawful) {key : KeyPair} {keyFor : String → Option String}
    (hkey : keyFor key.id = some key.publicKey) :
    verify (.obj (signedFields key server fields)) server keyFor = .ok () := by
  have valid : entryValid keyFor (utf8 (signedText (signedFields key server fields)))
      (key.id, .str (key.sign (utf8 (signedText fields)))) = true := by
    rw [entryValid, hkey, signedFields, signedText_withSignature]
    exact verifySignature_sign lawful key _
  have hentries : signaturesOf server (.obj (signedFields key server fields)) =
      [(key.id, .str (key.sign (utf8 (signedText fields))))] := signaturesOf_withSignature
  simp [verify, hentries, valid]

end SignedJson

/-! ### A transparent scheme -/

/-- A scheme without secrets, which keeps the one promise of a scheme: a key is its seed, and so is every
    signature under it. -/
@[reducible] def SignatureScheme.transparent : SignatureScheme where
  publicKey seed := seed
  sign seed _ := seed
  verify key _ signature := signature = key

theorem SignatureScheme.transparent_lawful : @SignatureScheme.Lawful .transparent :=
  fun _ _ _ => decide_eq_true rfl

/-- A key whose seed is 32 zeros. -/
def KeyPair.zeros : KeyPair :=
  ⟨0, List.replicate 32 0, rfl⟩

end IdentityServer
