import IdentityServer.Binding.UnbindRequest
import IdentityServer.Federation.Client
import IdentityServer.Proofs.Association.Attestation
import IdentityServer.Proofs.Json.Unambiguous
import IdentityServer.Signing.KeyRing

/-! # What is signed

The program signs five kinds of messages: requests, bindings, unbindings, invites that are handed on, and its
own key document. All are canonical texts of objects, so a signed byte string is that of one object, and each
kind has a field that no other kind has. -/

namespace IdentityServer

theorem utf8_inj {s t : String} (h : utf8 s = utf8 t) : s = t := by
  have hdata : s.toUTF8.data = t.toUTF8.data := Array.toList_inj.mp h
  exact String.toByteArray_inj.mp (ByteArray.ext hdata)

/-- A message that is signed. -/
inductive SignedMessage where
  | request (r : SignedRequest)
  | binding (a : BindingAttestation)
  | unbinding (a : UnbindingAttestation)
  | invite (n : InviteNotice)
  | document (d : KeyDocument)

namespace SignedMessage
open SignedJson

/-- The object of a message. The signatures of a key document are not part of what is signed. -/
def toJson : SignedMessage → Json
  | .request r => r.toJson
  | .binding a => a.toJson
  | .unbinding a => a.toJson
  | .invite n => Client.noticeClaim n
  | .document d => { d with signatures := .empty }.toJson

def bytes (m : SignedMessage) : Bytes :=
  utf8 m.toJson.canonical

/-- The content of a request is a JSON value; all other messages have a form of their own. -/
def WellFormed : SignedMessage → Prop
  | .request r => ∀ content ∈ r.content, content.WellFormed
  | _ => True

/-- The doubles in the content of a request. -/
def floats : SignedMessage → List Binary64
  | .request r => (r.content.map (·.floats)).getD []
  | _ => []

/-- Messages of one kind that agree in all that is signed: requests up to the case of their methods, invites in
    account and token, key documents up to their signatures. -/
inductive Same : SignedMessage → SignedMessage → Prop
  | request {r s : SignedRequest} (origin : r.origin = s.origin) (destination : r.destination = s.destination)
    (method : Text.upperText r.method = Text.upperText s.method) (uri : r.uri = s.uri)
    (content : r.content = s.content) : Same (.request r) (.request s)
  | binding (a : BindingAttestation) : Same (.binding a) (.binding a)
  | unbinding (a : UnbindingAttestation) : Same (.unbinding a) (.unbinding a)
  | invite {n o : InviteNotice} (account : n.account = o.account) (token : n.token = o.token) :
    Same (.invite n) (.invite o)
  | document {d e : KeyDocument} (server : d.server = e.server) (verifyKeys : d.verifyKeys = e.verifyKeys)
    (oldVerifyKeys : d.oldVerifyKeys = e.oldVerifyKeys) (validUntil : d.validUntil = e.validUntil) :
    Same (.document d) (.document e)

end SignedMessage

/-! ### Fields of the objects -/

theorem SignedRequest.field?_toJson (r : SignedRequest) (name : String) :
    r.toJson.field? name =
      if "uri" = name then some (.str r.uri)
      else if "origin" = name then some (.str r.origin)
      else if "method" = name then some (.str (Text.upperText r.method))
      else if "destination" = name then some (.str r.destination)
      else if "content" = name then r.content
      else none := by
  unfold toJson
  cases r.content with
  | none =>
    simp only [Json.field?, Json.ofFields, Fields.ofList, List.nil_append, List.foldl_cons, List.foldl_nil,
      Fields.get?_insert, ite_self]
    rfl
  | some content =>
    simp only [Json.field?, Json.ofFields, Fields.ofList, List.cons_append, List.nil_append, List.foldl_cons,
      List.foldl_nil, Fields.get?_insert]
    rfl

theorem KeyDocument.field?_unsigned (d : KeyDocument) (name : String) :
    ({ d with signatures := .empty } : KeyDocument).toJson.field? name =
      if "verify_keys" = name then some (.ofDictionary keyToJson d.verifyKeys)
      else if "valid_until_ts" = name then some (.ofInt64 d.validUntil)
      else if "server_name" = name then some (.str d.server)
      else if "old_verify_keys" = name then
        if d.oldVerifyKeys.isEmpty then none else some (.ofDictionary retiredToJson d.oldVerifyKeys)
      else none := by
  have hempty : (Dictionary.empty : Dictionary (Dictionary String)).isEmpty = true := rfl
  unfold toJson optionalMap
  cases d.oldVerifyKeys.isEmpty with
  | true =>
    simp only [hempty, Json.field?, Json.ofFields, Fields.ofList, if_true, List.cons_append, List.nil_append,
      List.foldl_cons, List.foldl_nil, Fields.get?_insert, ite_self]
    rfl
  | false =>
    simp only [hempty, Json.field?, Json.ofFields, Fields.ofList, if_true, Bool.false_eq_true, if_false,
      List.cons_append, List.nil_append, List.foldl_cons, List.foldl_nil, Fields.get?_insert]
    rfl

theorem Client.field?_noticeClaim (n : InviteNotice) (name : String) :
    (noticeClaim n).field? name =
      if "mxid" = name then some (.str n.account) else if "token" = name then some (.str n.token) else none := rfl

theorem Fields.erase_of_absent {α : Type} {key : String} {fields : Fields α} (h : fields.get? key = none) :
    fields.erase key = fields := by
  induction fields with
  | nil => rfl
  | cons head rest ih =>
    obtain ⟨k, v⟩ := head
    by_cases hk : k = key
    · simp [get?, hk] at h
    · have hrest : erase key rest = rest := ih (by simpa [get?, hk] using h)
      simp [erase, hk] at hrest ⊢
      exact hrest

namespace SignedMessage
open SignedJson

/-- A field that the objects of a kind have and those of no other kind. -/
def mark : SignedMessage → String
  | .request _ => "uri"
  | .binding _ => "ts"
  | .unbinding _ => "deleted_ts"
  | .invite _ => "token"
  | .document _ => "server_name"

def markOf? (v : Json) : Option String :=
  ["uri", "ts", "deleted_ts", "token", "server_name"].find? fun name => (v.field? name).isSome

theorem markOf?_toJson (m : SignedMessage) : markOf? m.toJson = some m.mark := by
  cases m with
  | request r => simp [markOf?, toJson, mark, SignedRequest.field?_toJson]
  | binding a =>
    have field : ∀ name, (binding a).toJson.field? name = Fields.get? name a.fields := fun _ => rfl
    simp [markOf?, mark, field, BindingAttestation.get?_fields]
  | unbinding a =>
    have field : ∀ name, (unbinding a).toJson.field? name = Fields.get? name a.fields := fun _ => rfl
    simp [markOf?, mark, field, UnbindingAttestation.get?_fields]
  | invite n => simp [markOf?, toJson, mark, Client.field?_noticeClaim]
  | document d => simp [markOf?, toJson, mark, KeyDocument.field?_unsigned]

/-! ### What is signed -/

def fields (m : SignedMessage) : Fields Json :=
  m.toJson.fields?.getD []

theorem toJson_eq (m : SignedMessage) : m.toJson = .obj m.fields := by
  cases m <;> rfl

theorem get?_fields (m : SignedMessage) (name : String) : Fields.get? name m.fields = m.toJson.field? name := by
  rw [toJson_eq, Json.field?]

/-- No message carries a signature or unsigned data. -/
theorem unsigned (m : SignedMessage) :
    Fields.get? "signatures" m.fields = none ∧ Fields.get? "unsigned" m.fields = none := by
  have binding : ∀ (c : BindingAttestation) (name : String), c.toJson.field? name = Fields.get? name c.fields :=
    fun _ _ => rfl
  have unbinding : ∀ (c : UnbindingAttestation) (name : String), c.toJson.field? name = Fields.get? name c.fields :=
    fun _ _ => rfl
  simp only [get?_fields]
  cases m <;>
    simp [toJson, binding, unbinding, SignedRequest.field?_toJson, BindingAttestation.get?_fields,
      UnbindingAttestation.get?_fields, Client.field?_noticeClaim, KeyDocument.field?_unsigned]

theorem signedText_fields (m : SignedMessage) : signedText m.fields = m.toJson.canonical := by
  rw [signedText, covered, Fields.erase_of_absent m.unsigned.1, Fields.erase_of_absent m.unsigned.2, toJson_eq]

theorem sign_request [SignatureScheme] (key : KeyPair) (r : SignedRequest) :
    (r.sign key).signature = key.sign (request r).bytes := rfl

theorem sign_document [SignatureScheme] (ring : KeyRing) (server : String) (now : Int64) :
    (ring.document server now).signatures = .single server (.single ring.current.id
      (ring.current.sign (document (ring.document server now)).bytes)) := rfl

end SignedMessage

/-! ### Objects tell messages apart -/

theorem Json.ofInt64_inj {m n : Int64} (h : Json.ofInt64 m = Json.ofInt64 n) : m = n := by
  -- Reading is a left inverse of writing, here and for the attestations below.
  have hread := congrArg Json.int64? h
  rw [Json.int64?_ofInt64, Json.int64?_ofInt64] at hread
  exact Option.some.inj hread

theorem Json.ofDictionary_inj {α : Type} {write : α → Json} (hwrite : Function.Injective write) {d e : Dictionary α}
    (h : Json.ofDictionary write d = .ofDictionary write e) : d = e := by
  refine Dictionary.ext ((List.map_inj_right ?_).mp (Json.obj.inj h))
  rintro ⟨name, x⟩ ⟨other, y⟩ hxy
  obtain ⟨hname, hvalue⟩ := Prod.mk.inj hxy
  exact Prod.ext hname (hwrite hvalue)

theorem KeyDocument.keyToJson_injective : Function.Injective keyToJson := by
  intro k l h
  simpa [keyToJson] using h

theorem KeyDocument.retiredToJson_injective : Function.Injective retiredToJson := by
  rintro ⟨k, t⟩ ⟨l, u⟩ h
  simp only [retiredToJson, Json.obj.injEq, List.cons.injEq, Prod.mk.injEq, Json.str.injEq, true_and, and_true] at h
  obtain ⟨htime, rfl⟩ := h
  rw [Json.ofInt64_inj htime]

/-- A map without entries is left out, and only such a one. -/
theorem KeyDocument.oldVerifyKeys_inj {d e : Dictionary RetiredKey}
    (h : (if d.isEmpty then none else some (Json.ofDictionary retiredToJson d)) =
      if e.isEmpty then none else some (Json.ofDictionary retiredToJson e)) : d = e := by
  have none_of : ∀ {c : Dictionary RetiredKey}, c.isEmpty = true → c.entries = [] := List.isEmpty_iff.mp
  split at h <;> split at h
  · rename_i hd he
    exact Dictionary.ext ((none_of hd).trans (none_of he).symm)
  · cases h
  · cases h
  · exact Json.ofDictionary_inj retiredToJson_injective (Option.some.inj h)

theorem BindingAttestation.toJson_inj {a b : BindingAttestation} (h : a.toJson = b.toJson) : a = b := by
  have hfields : a.fields = b.fields := Json.obj.inj h
  have hread := ofJson?_withSignature a "" "" ""
  rw [hfields, ofJson?_withSignature] at hread
  exact (Option.some.inj hread).symm

theorem UnbindingAttestation.toJson_inj {a b : UnbindingAttestation} (h : a.toJson = b.toJson) : a = b := by
  have hfields : a.fields = b.fields := Json.obj.inj h
  have hread := ofJson?_withSignature a "" "" ""
  rw [hfields, ofJson?_withSignature] at hread
  exact (Option.some.inj hread).symm

namespace SignedMessage

theorem same_of_request {r s : SignedRequest} (h : r.toJson = s.toJson) : Same (.request r) (.request s) := by
  have field : ∀ name, r.toJson.field? name = s.toJson.field? name := fun name => by rw [h]
  simp only [SignedRequest.field?_toJson] at field
  refine .request ?_ ?_ ?_ ?_ ?_
  · simpa using field "origin"
  · simpa using field "destination"
  · simpa using field "method"
  · simpa using field "uri"
  · simpa using field "content"

theorem same_of_document {d e : KeyDocument} (h : (document d).toJson = (document e).toJson) :
    Same (.document d) (.document e) := by
  have field : ∀ name, (document d).toJson.field? name = (document e).toJson.field? name := fun name => by rw [h]
  simp only [toJson, KeyDocument.field?_unsigned] at field
  refine .document ?_ ?_ ?_ ?_
  · simpa using field "server_name"
  · exact Json.ofDictionary_inj KeyDocument.keyToJson_injective (by simpa using field "verify_keys")
  · exact KeyDocument.oldVerifyKeys_inj (by simpa using field "old_verify_keys")
  · exact Json.ofInt64_inj (by simpa using field "valid_until_ts")

/-- Messages with one object are of one kind and the same. -/
theorem same_of_toJson {a b : SignedMessage} (h : a.toJson = b.toJson) : a.Same b := by
  -- The mark is read off the object, so only messages of one kind are left to compare.
  have hmark : a.mark = b.mark := by
    have hown := markOf?_toJson a
    rw [h, markOf?_toJson] at hown
    exact (Option.some.inj hown).symm
  cases a with
  | request r =>
    cases b with
    | request s => exact same_of_request h
    | _ => simp [mark] at hmark
  | binding c =>
    cases b with
    | binding d =>
      rw [BindingAttestation.toJson_inj h]
      exact .binding d
    | _ => simp [mark] at hmark
  | unbinding c =>
    cases b with
    | unbinding d =>
      rw [UnbindingAttestation.toJson_inj h]
      exact .unbinding d
    | _ => simp [mark] at hmark
  | invite n =>
    cases b with
    | invite o =>
      simp only [toJson, Client.noticeClaim, Json.obj.injEq, List.cons.injEq, Prod.mk.injEq, Json.str.injEq, true_and,
        and_true] at h
      exact .invite h.1 h.2
    | _ => simp [mark] at hmark
  | document d =>
    cases b with
    | document e => exact same_of_document h
    | _ => simp [mark] at hmark

end SignedMessage

/-! ### Bytes tell messages apart -/

theorem Json.IsPlain.floats_eq {v : Json} (h : v.IsPlain) : v.floats = [] := by
  cases h <;> rfl

theorem Json.floats_ofDictionary {α : Type} {write : α → Json} (hwrite : ∀ x, (write x).floats = [])
    (d : Dictionary α) : (Json.ofDictionary write d).floats = [] := by
  refine List.eq_nil_iff_forall_not_mem.mpr fun x hx => ?_
  obtain ⟨field, hfield, hx⟩ := Json.mem_fieldsFloats hx
  obtain ⟨entry, -, rfl⟩ := List.mem_map.mp hfield
  rw [hwrite] at hx
  cases hx

theorem KeyDocument.floats_optionalMap {α : Type} {write : α → Json} (hwrite : ∀ x, (write x).floats = [])
    {name : String} {d : Dictionary α} {field : String × Json} (h : field ∈ optionalMap name write d) :
    field.2.floats = [] := by
  unfold optionalMap at h
  split at h
  · cases h
  · rw [List.mem_singleton.mp h]
    exact Json.floats_ofDictionary hwrite d

theorem KeyDocument.floats_toJson (d : KeyDocument) : d.toJson.floats = [] := by
  refine List.eq_nil_iff_forall_not_mem.mpr fun x hx => ?_
  obtain ⟨field, hfield, hx⟩ := Json.mem_fieldsFloats hx
  have hpair := Fields.mem_ofList hfield
  simp only [List.mem_append, List.mem_cons, List.not_mem_nil, or_false] at hpair
  suffices field.2.floats = [] by
    rw [this] at hx
    cases hx
  rcases hpair with ((hold | rfl) | hsignatures) | rfl | rfl
  · exact floats_optionalMap (fun _ => rfl) hold
  · rfl
  · exact floats_optionalMap (Json.floats_ofDictionary fun _ => rfl) hsignatures
  · rfl
  · exact Json.floats_ofDictionary (fun _ => rfl) d.verifyKeys

namespace SignedMessage

/-- All doubles in the object of a message come from the content of a request. -/
theorem floats_toJson (m : SignedMessage) : m.toJson.floats ⊆ m.floats := by
  intro x hx
  have hfields := hx
  rw [toJson_eq] at hfields
  obtain ⟨field, hfield, hfloat⟩ := Json.mem_fieldsFloats hfields
  cases m with
  | request r =>
    have hpair := Fields.mem_ofList hfield
    cases hcontent : r.content with
    | none =>
      simp only [hcontent, List.nil_append, List.mem_cons, List.not_mem_nil, or_false] at hpair
      rcases hpair with rfl | rfl | rfl | rfl <;> cases hfloat
    | some content =>
      simp only [hcontent, List.cons_append, List.nil_append, List.mem_cons, List.not_mem_nil, or_false] at hpair
      rcases hpair with rfl | rfl | rfl | rfl | rfl
      · rw [floats, hcontent]
        exact hfloat
      all_goals cases hfloat
  | binding a =>
    rw [(a.plain field hfield).floats_eq] at hfloat
    cases hfloat
  | unbinding a =>
    rw [(a.plain field hfield).floats_eq] at hfloat
    cases hfloat
  | invite n =>
    rcases List.mem_cons.mp hfield with rfl | hfield
    · cases hfloat
    · rw [List.mem_singleton.mp hfield] at hfloat
      cases hfloat
  | document d =>
    rw [toJson, KeyDocument.floats_toJson] at hx
    cases hx

theorem same_of_bytes {a b : SignedMessage} (ha : a.WellFormed) (hb : b.WellFormed)
    (apart : ∀ x ∈ a.floats, ∀ y ∈ b.floats, Json.floatLayout.text x = Json.floatLayout.text y → x = y)
    (h : a.bytes = b.bytes) : a.Same b := by
  have finite : ∀ m : SignedMessage, m.WellFormed → ∀ x ∈ m.floats, x.isFinite = true := by
    intro m hm x hx
    cases m with
    | request r =>
      cases hcontent : r.content with
      | none =>
        rw [floats, hcontent] at hx
        cases hx
      | some content =>
        rw [floats, hcontent] at hx
        exact Json.WellFormed.isFinite content (hm content hcontent) hx
    | _ => cases hx
  have written : Json.WrittenApart a.toJson.floats b.toJson.floats :=
    Json.WrittenApart.mono ⟨finite a ha, finite b hb, apart⟩ a.floats_toJson b.floats_toJson
  exact same_of_toJson (Json.canonical_inj written (utf8_inj h))

theorem wellFormed_unbind (origin destination account : String) (medium : Medium) (address : String) :
    (request (.unbind origin destination account medium address)).WellFormed := by
  intro content hcontent
  cases hcontent
  have outer : "mxid" < "threepid" := by decide
  have inner : "address" < "medium" := by decide
  exact ⟨List.pairwise_pair.mpr outer, trivial, ⟨List.pairwise_pair.mpr inner, trivial, trivial, trivial⟩, trivial⟩

theorem unbind_inj {origin destination account address origin' destination' account' address' : String}
    {medium medium' : Medium}
    (h : (request (.unbind origin destination account medium address)).bytes =
      (request (.unbind origin' destination' account' medium' address')).bytes) :
    origin = origin' ∧ destination = destination' ∧ account = account' ∧ medium = medium' ∧ address = address' := by
  have same := same_of_bytes (wellFormed_unbind origin destination account medium address)
    (wellFormed_unbind origin' destination' account' medium' address') (fun _ hx => absurd hx List.not_mem_nil) h
  obtain ⟨horigin, hdestination, -, -, hcontent⟩ := same
  simp only [SignedRequest.unbind, SignedRequest.unbindContent, Option.some.injEq, Json.obj.injEq, List.cons.injEq,
    Prod.mk.injEq, Json.str.injEq, true_and, and_true] at hcontent
  obtain ⟨haccount, haddress, hname⟩ := hcontent
  have hmedium := congrArg Medium.ofName? hname
  rw [Medium.ofName?_name, Medium.ofName?_name] at hmedium
  exact ⟨horigin, hdestination, haccount, Option.some.inj hmedium, haddress⟩

/-- Signed bytes are those of one message: of one kind, and the same in all its fields up to the case of a
    method, as far as different doubles in the contents of requests are written differently. So a request to unbind
    is told by its bytes. -/
theorem bytes_unambiguous :
    (∀ a b : SignedMessage, a.WellFormed → b.WellFormed →
      (∀ x ∈ a.floats, ∀ y ∈ b.floats, Json.floatLayout.text x = Json.floatLayout.text y → x = y) →
      a.bytes = b.bytes → a.Same b) ∧
    ∀ (origin destination account : String) (medium : Medium) (address : String)
      (origin' destination' account' : String) (medium' : Medium) (address' : String),
      utf8 (SignedRequest.unbind origin destination account medium address).signedText =
        utf8 (SignedRequest.unbind origin' destination' account' medium' address').signedText →
      origin = origin' ∧ destination = destination' ∧ account = account' ∧ medium = medium' ∧ address = address' :=
  ⟨fun _ _ ha hb apart h => same_of_bytes ha hb apart h, fun _ _ _ _ _ _ _ _ _ _ h => unbind_inj h⟩

/-- Two requests whose methods differ in case, with the numbers 0.5 and 1.5 in their content. -/
theorem bytes_unambiguous_halves :
    let content : Json := .obj [("a", .float ⟨0x3FE0000000000000⟩), ("b", .arr [.null, .float ⟨0x3FF8000000000000⟩])]
    Same (.request ⟨"a.org", "b.org", "put", "/send", some content⟩)
      (.request ⟨"a.org", "b.org", "PUT", "/send", some content⟩) := by
  intro content
  have ordered : "a" < "b" := by decide
  have half : Binary64.isFinite ⟨0x3FE0000000000000⟩ = true := by decide
  have more : Binary64.isFinite ⟨0x3FF8000000000000⟩ = true := by decide
  have formed : content.WellFormed := ⟨List.pairwise_pair.mpr ordered, half, ⟨trivial, more, trivial⟩, trivial⟩
  have apart : ∀ x ∈ content.floats, ∀ y ∈ content.floats,
      Json.floatLayout.text x = Json.floatLayout.text y → x = y := by
    decide +kernel
  have upper : Text.upperText "put" = Text.upperText "PUT" := by decide +kernel
  refine bytes_unambiguous.1 _ _ ?_ ?_ apart ?_
  · rintro _ ⟨rfl⟩
    exact formed
  · rintro _ ⟨rfl⟩
    exact formed
  · simp only [bytes, toJson, SignedRequest.toJson, upper]

end SignedMessage

end IdentityServer
