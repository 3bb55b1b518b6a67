import IdentityServer.Association.Change
import IdentityServer.Proofs.Signing.SignedFields

/-! # Statements and their objects

The object of a statement about an identifier carries no signature yet, so it can always be signed. -/

namespace IdentityServer
open SignedJson

/-- The fields of the object of a binding. -/
def BindingAttestation.fields (a : BindingAttestation) : Fields Json :=
  Fields.ofList (
    [("address", .str a.address), ("medium", .str a.medium.name), ("mxid", .str a.account)] ++
    Json.optionalField "not_after" (a.notAfter.map .ofInt64) ++
    [("not_before", .ofInt64 a.notBefore), ("ts", .ofInt64 a.madeAt)])

/-- The fields of the object of an unbinding. -/
def UnbindingAttestation.fields (a : UnbindingAttestation) : Fields Json :=
  Fields.ofList [("address", .str a.address), ("deleted_ts", .ofInt64 a.deletedAt),
    ("medium", .str a.medium.name), ("mxid", .str a.account)]

theorem BindingAttestation.toJson_eq (a : BindingAttestation) : a.toJson = .obj a.fields := rfl

theorem UnbindingAttestation.toJson_eq (a : UnbindingAttestation) : a.toJson = .obj a.fields := rfl

theorem BindingAttestation.get?_fields (a : BindingAttestation) (name : String) :
    Fields.get? name a.fields =
      if "ts" = name then some (.ofInt64 a.madeAt)
      else if "not_before" = name then some (.ofInt64 a.notBefore)
      else if "not_after" = name then a.notAfter.map .ofInt64
      else if "mxid" = name then some (.str a.account)
      else if "medium" = name then some (.str a.medium.name)
      else if "address" = name then some (.str a.address)
      else none := by
  unfold fields
  cases a.notAfter with
  | none =>
    by_cases hname : "not_after" = name
    · subst hname
      simp [Fields.ofList, Fields.get?_insert, Json.optionalField, Fields.get?]
    · simp [Fields.ofList, Fields.get?_insert, Json.optionalField, Fields.get?, hname]
  | some t => simp [Fields.ofList, Fields.get?_insert, Json.optionalField, Fields.get?]

theorem UnbindingAttestation.get?_fields (a : UnbindingAttestation) (name : String) :
    Fields.get? name a.fields =
      if "mxid" = name then some (.str a.account)
      else if "medium" = name then some (.str a.medium.name)
      else if "deleted_ts" = name then some (.ofInt64 a.deletedAt)
      else if "address" = name then some (.str a.address)
      else none := by
  simp [fields, Fields.ofList, Fields.get?_insert, Fields.get?]

theorem BindingAttestation.unsigned (a : BindingAttestation) : Fields.get? "signatures" a.fields = none := by
  simp [get?_fields]

theorem UnbindingAttestation.unsigned (a : UnbindingAttestation) : Fields.get? "signatures" a.fields = none := by
  simp [get?_fields]

/-! ### Reading statements -/

theorem Medium.ofName?_name (medium : Medium) : Medium.ofName? medium.name = some medium := by
  cases medium <;> rfl

theorem Json.int64?_ofInt64 (n : Int64) : (Json.ofInt64 n).int64? = some n :=
  Text.toInt64?_toInt n

/-- A binding is what its signed object states. -/
theorem BindingAttestation.ofJson?_withSignature (a : BindingAttestation) (id server signature : String) :
    ofJson? (.obj (withSignature id server signature a.fields)) = some a := by
  have hend : Json.optionalInt64 "not_after" (.obj (withSignature id server signature a.fields)) = some a.notAfter := by
    rw [Json.optionalInt64, field?_withSignature (by decide), get?_fields]
    cases a.notAfter with
    | none => rfl
    | some t => simp [Json.ofInt64, Json.int64?, Text.toInt64?_toInt]
  simp [ofJson?, ofObject?, hend, Json.required, field?_withSignature, get?_fields, Json.text?,
    Json.int64?_ofInt64, Medium.ofName?_name]

/-- An unbinding is what its signed object states. -/
theorem UnbindingAttestation.ofJson?_withSignature (a : UnbindingAttestation) (id server signature : String) :
    ofJson? (.obj (withSignature id server signature a.fields)) = some a := by
  simp [ofJson?, ofObject?, Json.required, field?_withSignature, get?_fields, Json.text?,
    Json.int64?_ofInt64, Medium.ofName?_name]

/-- A binding does not tell when it was removed. -/
theorem UnbindingAttestation.ofJson?_binding (a : BindingAttestation) (id server signature : String) :
    ofJson? (.obj (withSignature id server signature a.fields)) = none := by
  simp [ofJson?, ofObject?, Json.required, field?_withSignature, BindingAttestation.get?_fields]

/-- An unbinding does not tell when the binding began. -/
theorem BindingAttestation.ofJson?_unbinding (a : UnbindingAttestation) (id server signature : String) :
    ofJson? (.obj (withSignature id server signature a.fields)) = none := by
  simp [ofJson?, ofObject?, Json.required, field?_withSignature, UnbindingAttestation.get?_fields]

/-- The object states a row, as the statement of a binding or of a removal. -/
def NewAssociation.StatedBy (a : NewAssociation) (tombstone : Bool) (value : Json) : Prop :=
  if tombstone then
    UnbindingAttestation.ofJson? value = some ⟨a.medium, a.address, a.account, a.createdAt⟩ ∧
      a.notBefore = a.createdAt ∧ a.notAfter = none
  else BindingAttestation.ofJson? value = some a.attestation

/-- Whether a value is the statement of a binding, or of a removal. -/
def Json.states (tombstone : Bool) (value : Json) : Bool :=
  if tombstone then (UnbindingAttestation.ofJson? value).isSome else (BindingAttestation.ofJson? value).isSome

theorem NewAssociation.StatedBy.states {a : NewAssociation} {tombstone : Bool} {value : Json}
    (h : a.StatedBy tombstone value) : value.states tombstone = true := by
  cases tombstone with
  | true => exact Option.isSome_iff_exists.mpr ⟨_, h.1⟩
  | false => exact Option.isSome_iff_exists.mpr ⟨_, h⟩

/-- What an object states depends on the fields that signatures cover. -/
theorem BindingAttestation.ofJson?_congr {fields others : Fields Json}
    (h : ∀ name, "signatures" ≠ name → "unsigned" ≠ name →
      (Json.obj fields).field? name = (Json.obj others).field? name) :
    ofJson? (.obj fields) = ofJson? (.obj others) := by
  simp [ofJson?, ofObject?, Json.required, Json.optionalInt64, h]

theorem UnbindingAttestation.ofJson?_congr {fields others : Fields Json}
    (h : ∀ name, "signatures" ≠ name → "unsigned" ≠ name →
      (Json.obj fields).field? name = (Json.obj others).field? name) :
    ofJson? (.obj fields) = ofJson? (.obj others) := by
  simp [ofJson?, ofObject?, Json.required, h]

/-! ### Written statements -/

/-- Texts and words: values that are always read back, without brackets. -/
inductive Json.IsPlain : Json → Prop
  | text (s : String) : IsPlain (.str s)
  | word (n : Int64) : IsPlain (.ofInt64 n)

theorem Json.fitsWord_toInt (n : Int64) : fitsWord n.toInt = true := by
  have hmax : Int64.maxValue.toInt < UInt64.size := by decide
  simp only [fitsWord, Bool.and_eq_true, decide_eq_true_eq]
  exact ⟨n.minValue_le_toInt, Int.lt_of_le_of_lt n.toInt_le hmax⟩

theorem Json.IsPlain.readable {v : Json} (h : v.IsPlain) : v.Readable := by
  cases h with
  | text s => trivial
  | word n => exact Json.fitsWord_toInt n

theorem Json.IsPlain.depth_eq {v : Json} (h : v.IsPlain) : v.depth = 0 := by
  cases h <;> rfl

theorem BindingAttestation.plain (a : BindingAttestation) : ∀ field ∈ a.fields, field.2.IsPlain := by
  intro field hf
  refine (?_ : ∀ field ∈ _, field.2.IsPlain) field (Fields.mem_ofList hf)
  cases a.notAfter with
  | none => simp [Json.optionalField, Json.IsPlain.text, Json.IsPlain.word]
  | some t => simp [Json.optionalField, Json.IsPlain.text, Json.IsPlain.word]

theorem UnbindingAttestation.plain (a : UnbindingAttestation) : ∀ field ∈ a.fields, field.2.IsPlain := by
  intro field hf
  refine (?_ : ∀ field ∈ _, field.2.IsPlain) field (Fields.mem_ofList hf)
  simp [Json.IsPlain.text, Json.IsPlain.word]

/-- The signed text of a statement is read back as the signed object. -/
theorem parse_signed {fields : Fields Json} (hordered : fields.Ordered) (hplain : ∀ field ∈ fields, field.2.IsPlain)
    [SignatureScheme] (key : KeyPair) (server : String) :
    Json.parse (signedPayload key server fields) = some (.obj (signedFields key server fields)) :=
  parse_withSignature hordered (fun field hf => (hplain field hf).readable) fun field hf => (hplain field hf).depth_eq

end IdentityServer
