import IdentityServer.Association.Change
import IdentityServer.Federation.KeyDocument
import IdentityServer.Invite.Token
import IdentityServer.Proofs.Json.Format
import IdentityServer.Replication.Batch
import Mathlib.Tactic.Tauto

/-! # What travels between servers

The formats of statements, log entries, invites, key documents and batches. -/

namespace IdentityServer
open Json (Codec Field RecordPart record)

/-! ### Statements and invites -/

def BindingAttestation.parts : List (RecordPart BindingAttestation) := [
  .required "address" Codec.text (·.address), .required "medium" (Codec.medium Json.isNull) (·.medium),
  .required "mxid" Codec.text (·.account), .optionalWord "not_after" false (·.notAfter),
  .required "not_before" Codec.word (·.notBefore), .required "ts" Codec.word (·.madeAt)]

theorem BindingAttestation.ofObject?_eq_some {v : Json} {a : BindingAttestation} :
    ofObject? v = some a ↔ ∀ P ∈ parts, P.Reads v a := by
  cases a
  simp [ofObject?, parts, RecordPart.required, RecordPart.optionalWord, Option.bind_eq_some_iff]
  tauto

theorem BindingAttestation.exists_ofObject? {v : Json} (h : ∀ P ∈ parts, P.Found v) : ∃ a, ofObject? v = some a := by
  simp [parts, RecordPart.required, RecordPart.optionalWord] at h
  simp [ofObject?, Option.bind_eq_some_iff]
  tauto

def BindingAttestation.objects : Codec BindingAttestation :=
  .ofParts parts toJson ofObject? (by decide) (fun ⟨_, _, _, _, notAfter, _⟩ => by cases notAfter <;> rfl)
    (fun _ _ => ofObject?_eq_some) fun _ => exists_ofObject?

def UnbindingAttestation.parts : List (RecordPart UnbindingAttestation) := [
  .required "address" Codec.text (·.address), .required "deleted_ts" Codec.word (·.deletedAt),
  .required "medium" (Codec.medium Json.isNull) (·.medium), .required "mxid" Codec.text (·.account)]

theorem UnbindingAttestation.ofObject?_eq_some {v : Json} {a : UnbindingAttestation} :
    ofObject? v = some a ↔ ∀ P ∈ parts, P.Reads v a := by
  cases a
  simp [ofObject?, parts, RecordPart.required, Option.bind_eq_some_iff]
  tauto

theorem UnbindingAttestation.exists_ofObject? {v : Json} (h : ∀ P ∈ parts, P.Found v) : ∃ a, ofObject? v = some a := by
  simp [parts, RecordPart.required] at h
  simp [ofObject?, Option.bind_eq_some_iff]
  tauto

def UnbindingAttestation.objects : Codec UnbindingAttestation :=
  .ofParts parts toJson ofObject? (by decide) (fun _ => rfl) (fun _ _ => ofObject?_eq_some) fun _ => exists_ofObject?

def InviteToken.parts : List (RecordPart InviteToken) := [
  .required "address" Codec.text (·.address), .required "id" Codec.word (·.id),
  .required "medium" (Codec.medium Json.isNull) (·.medium), .required "received_ts" Codec.word (·.receivedAt),
  .required "room_id" Codec.text (·.room), .required "sender" Codec.text (·.sender),
  .optionalWord "sent_ts" true (·.sentAt), .required "token" Codec.text (·.token)]

theorem InviteToken.ofObject?_eq_some {v : Json} {t : InviteToken} :
    ofObject? v = some t ↔ ∀ P ∈ parts, P.Reads v t := by
  cases t
  simp [ofObject?, parts, RecordPart.required, RecordPart.optionalWord, Option.bind_eq_some_iff]
  tauto

theorem InviteToken.exists_ofObject? {v : Json} (h : ∀ P ∈ parts, P.Found v) : ∃ t, ofObject? v = some t := by
  simp [parts, RecordPart.required, RecordPart.optionalWord] at h
  simp [ofObject?, Option.bind_eq_some_iff]
  tauto

def InviteToken.objects : Codec InviteToken :=
  .ofParts parts toJson ofObject? (by decide) (fun ⟨_, _, _, _, _, _, _, sentAt⟩ => by cases sentAt <;> rfl)
    (fun _ _ => ofObject?_eq_some) fun _ => exists_ofObject?

/-! ### Log entries -/

def Association.parts : List (RecordPart Association) := [
  .required "account_id" Codec.text (·.account), .required "address" Codec.text (·.address),
  .required "created_at" Codec.word (·.createdAt), .required "medium" (Codec.medium Json.isVoid) (·.medium),
  .optionalWord "not_after" true (·.notAfter), .required "not_before" Codec.word (·.notBefore),
  .required "sequence_no" Codec.word (·.sequence), .required "signed_payload" Codec.text (·.signedPayload)]

theorem Association.ofObject?_eq_some {v : Json} {a : Association} :
    ofObject? v = some a ↔ ∀ P ∈ parts, P.Reads v a := by
  obtain ⟨⟨_, _, _, _, _, _, _⟩, _⟩ := a
  simp [ofObject?, parts, RecordPart.required, RecordPart.optionalWord, Option.bind_eq_some_iff]
  tauto

theorem Association.exists_ofObject? {v : Json} (h : ∀ P ∈ parts, P.Found v) : ∃ a, ofObject? v = some a := by
  simp [parts, RecordPart.required, RecordPart.optionalWord] at h
  simp [ofObject?, Option.bind_eq_some_iff]
  tauto

def Tombstone.parts : List (RecordPart Tombstone) := [
  .required "account_id" Codec.text (·.account), .required "address" Codec.text (·.address),
  .required "deleted_at" Codec.word (·.deletedAt), .required "medium" (Codec.medium Json.isVoid) (·.medium),
  .required "sequence_no" Codec.word (·.sequence), .required "signed_payload" Codec.text (·.signedPayload)]

theorem Tombstone.ofObject?_eq_some {v : Json} {t : Tombstone} : ofObject? v = some t ↔ ∀ P ∈ parts, P.Reads v t := by
  obtain ⟨⟨_, _, _, _, _⟩, _⟩ := t
  simp [ofObject?, parts, RecordPart.required, Option.bind_eq_some_iff]
  tauto

theorem Tombstone.exists_ofObject? {v : Json} (h : ∀ P ∈ parts, P.Found v) : ∃ t, ofObject? v = some t := by
  simp [parts, RecordPart.required] at h
  simp [ofObject?, Option.bind_eq_some_iff]
  tauto

namespace Change

theorem ofObject?_eq_bound {v : Json} {a : Association} :
    ofObject? v = some (.bound a) ↔ v.field? "kind" = some (.str "bound") ∧ Association.ofObject? v = some a := by
  simp only [ofObject?, Option.bind_eq_bind, Option.bind_eq_some_iff, Codec.required_iff Codec.text?_eq_some]
  constructor
  · rintro ⟨kind, hkind, h⟩
    split at h
    · rename_i hbound
      exact ⟨hbound ▸ hkind, by simpa using h⟩
    · split at h <;> simp at h
  · rintro ⟨hkind, h⟩
    exact ⟨_, hkind, by simp [h]⟩

theorem ofObject?_eq_tombstone {v : Json} {t : Tombstone} :
    ofObject? v = some (.tombstone t) ↔ v.field? "kind" = some (.str "tombstone") ∧ Tombstone.ofObject? v = some t := by
  simp only [ofObject?, Option.bind_eq_bind, Option.bind_eq_some_iff, Codec.required_iff Codec.text?_eq_some]
  constructor
  · rintro ⟨kind, hkind, h⟩
    split at h
    · simp at h
    · split at h
      · rename_i htombstone
        exact ⟨htombstone ▸ hkind, by simpa using h⟩
      · cases h
  · rintro ⟨hkind, h⟩
    exact ⟨_, hkind, by simp [h]⟩

def bound? : Change → Option Association
  | .bound a => some a
  | .tombstone _ => none

def tombstone? : Change → Option Tombstone
  | .bound _ => none
  | .tombstone t => some t

theorem bind_bound?_eq_some {v : Json} {a : Association} :
    (ofObject? v).bind bound? = some a ↔ ofObject? v = some (.bound a) := by
  rcases ofObject? v with _ | (a | t) <;> simp [bound?]

theorem bind_tombstone?_eq_some {v : Json} {t : Tombstone} :
    (ofObject? v).bind tombstone? = some t ↔ ofObject? v = some (.tombstone t) := by
  rcases ofObject? v with _ | (a | t) <;> simp [tombstone?]

def boundParts : List (RecordPart Association) :=
  .tag "kind" "bound" :: Association.parts

def boundCodec : Codec Association :=
  .ofParts boundParts (fun a => (bound a).toJson) (fun v => (ofObject? v).bind bound?) (by decide)
    (fun ⟨⟨_, _, _, _, notAfter, _, _⟩, _⟩ => by cases notAfter <;> rfl)
    (fun v a => by
      rw [bind_bound?_eq_some, ofObject?_eq_bound, Association.ofObject?_eq_some, boundParts, List.forall_mem_cons]
      rfl)
    (fun v h => by
      obtain ⟨hkind, hparts⟩ := List.forall_mem_cons.mp h
      obtain ⟨a, ha⟩ := Association.exists_ofObject? hparts
      exact ⟨a, bind_bound?_eq_some.mpr (ofObject?_eq_bound.mpr ⟨hkind, ha⟩)⟩)

theorem read_boundCodec (v : Json) (a : Association) : boundCodec.read v = some a ↔ ofObject? v = some (.bound a) :=
  bind_bound?_eq_some

def tombstoneParts : List (RecordPart Tombstone) :=
  .tag "kind" "tombstone" :: Tombstone.parts

def tombstoneCodec : Codec Tombstone :=
  .ofParts tombstoneParts (fun t => (tombstone t).toJson) (fun v => (ofObject? v).bind tombstone?) (by decide)
    (fun _ => rfl)
    (fun v t => by
      rw [bind_tombstone?_eq_some, ofObject?_eq_tombstone, Tombstone.ofObject?_eq_some, tombstoneParts,
        List.forall_mem_cons]
      rfl)
    (fun v h => by
      obtain ⟨hkind, hparts⟩ := List.forall_mem_cons.mp h
      obtain ⟨t, ht⟩ := Tombstone.exists_ofObject? hparts
      exact ⟨t, bind_tombstone?_eq_some.mpr (ofObject?_eq_tombstone.mpr ⟨hkind, ht⟩)⟩)

theorem read_tombstoneCodec (v : Json) (t : Tombstone) :
    tombstoneCodec.read v = some t ↔ ofObject? v = some (.tombstone t) :=
  bind_tombstone?_eq_some

/-- The fields of an entry go by its kind. -/
def fields (v : Json) : List Field :=
  match v.field? "kind" with
  | some (.str "tombstone") => tombstoneParts.map (·.toField)
  | _ => boundParts.map (·.toField)

theorem fields_tombstone {v : Json} (h : v.field? "kind" = some (.str "tombstone")) :
    fields v = tombstoneParts.map (·.toField) := by
  simp [fields, h]

theorem fields_bound {v : Json} (h : v.field? "kind" ≠ some (.str "tombstone")) :
    fields v = boundParts.map (·.toField) := by
  unfold fields
  split
  · rename_i hkind
    exact absurd hkind h
  · rfl

def objects : Codec Change where
  toFormat := .ofFields fields
  write := toJson
  read := ofObject?
  read_write
    | .bound a => (read_boundCodec ..).mp (boundCodec.read_write a)
    | .tombstone t => (read_tombstoneCodec ..).mp (tombstoneCodec.read_write t)
  exists_iff v := by
    by_cases hkind : v.field? "kind" = some (.str "tombstone")
    · have same : (∃ c, ofObject? v = some c) ↔ ∃ t, tombstoneCodec.read v = some t := by
        simp only [read_tombstoneCodec]
        refine ⟨?_, fun ⟨t, h⟩ => ⟨_, h⟩⟩
        rintro ⟨a | t, h⟩
        · simp [(ofObject?_eq_bound.mp h).1] at hkind
        · exact ⟨t, h⟩
      rw [same, tombstoneCodec.exists_iff]
      simp only [Json.Format.ofFields, fields_tombstone hkind]
      rfl
    · have same : (∃ c, ofObject? v = some c) ↔ ∃ a, boundCodec.read v = some a := by
        simp only [read_boundCodec]
        refine ⟨?_, fun ⟨a, h⟩ => ⟨_, h⟩⟩
        rintro ⟨a | t, h⟩
        · exact ⟨a, h⟩
        · exact absurd (ofObject?_eq_tombstone.mp h).1 hkind
      rw [same, boundCodec.exists_iff]
      simp only [Json.Format.ofFields, fields_bound hkind]
      rfl
  write_read {v c} h := by
    simp only [Json.Format.ofFields]
    cases c with
    | bound a =>
      rw [fields_bound (by simp [(ofObject?_eq_bound.mp h).1])]
      exact boundCodec.write_read ((read_boundCodec ..).mpr h)
    | tombstone t =>
      rw [fields_tombstone (ofObject?_eq_tombstone.mp h).1]
      exact tombstoneCodec.write_read ((read_tombstoneCodec ..).mpr h)

end Change

/-! ### Key documents -/

namespace KeyDocument

def keyParts : List (RecordPart String) := [.required "key" Codec.text id]

def keyObjects : Codec String :=
  .ofParts keyParts keyToJson keyOfObject? (by decide) (fun _ => rfl)
    (fun v key => by simp [keyOfObject?, keyParts, RecordPart.required])
    (fun v h => by simpa [keyOfObject?, keyParts, RecordPart.required] using h)

def keyCodec : Codec String :=
  keyObjects.laidOut (fun _ => keyLayout) fun _ => ⟨_, rfl⟩

@[simp] theorem keyCodec_read : keyCodec.read = keyOfJson? := rfl

def retiredParts : List (RecordPart RetiredKey) := [
  .required "expired_ts" Codec.word (·.expiredAt), .required "key" Codec.text (·.key)]

theorem retiredOfObject?_eq_some {v : Json} {key : RetiredKey} :
    retiredOfObject? v = some key ↔ ∀ P ∈ retiredParts, P.Reads v key := by
  cases key
  simp [retiredOfObject?, retiredParts, RecordPart.required, Option.bind_eq_some_iff]
  tauto

def retiredObjects : Codec RetiredKey :=
  .ofParts retiredParts retiredToJson retiredOfObject? (by decide)
    (fun _ => congrArg Json.obj
      (Fields.ofList_ordered (Fields.ordered_of_keys ["expired_ts", "key"] (by decide) rfl)).symm)
    (fun _ _ => retiredOfObject?_eq_some)
    (fun v h => by
      simp [retiredParts, RecordPart.required] at h
      simp [retiredOfObject?, Option.bind_eq_some_iff]
      tauto)

def retiredCodec : Codec RetiredKey :=
  retiredObjects.laidOut (fun _ => retiredLayout) fun _ => ⟨_, rfl⟩

@[simp] theorem retiredCodec_read : retiredCodec.read = retiredOfJson? := rfl

def parts : List (RecordPart KeyDocument) := [
  .sparse "old_verify_keys" retiredCodec (·.oldVerifyKeys), .required "server_name" Codec.text (·.server),
  .sparse "signatures" Codec.text.map (·.signatures), .required "valid_until_ts" Codec.word (·.validUntil),
  .required "verify_keys" keyCodec.map (·.verifyKeys)]

theorem ofObject?_eq_some {v : Json} {d : KeyDocument} : ofObject? v = some d ↔ ∀ P ∈ parts, P.Reads v d := by
  cases d
  simp [ofObject?, parts, RecordPart.required, RecordPart.sparse, Option.bind_eq_some_iff]
  tauto

theorem exists_ofObject? {v : Json} (h : ∀ P ∈ parts, P.Found v) : ∃ d, ofObject? v = some d := by
  simp [parts, RecordPart.required, RecordPart.sparse] at h
  simp [ofObject?, Option.bind_eq_some_iff]
  tauto

def objects : Codec KeyDocument :=
  .ofParts parts toJson ofObject? (by decide)
    (fun ⟨_, _, ⟨oldKeys, _⟩, _, ⟨signatures, _⟩⟩ => by cases oldKeys <;> cases signatures <;> rfl)
    (fun _ _ => ofObject?_eq_some) fun _ => exists_ofObject?

end KeyDocument

/-! ### Batches -/

namespace ReplicatedRecord

def parts : List (RecordPart ReplicatedRecord) := [
  .required "sequence_no" Codec.word (·.sequence), .required "signed" Codec.anything (·.signed),
  .orElse "tombstone" false Codec.flag (·.tombstone)]

theorem ofObject?_eq_some {v : Json} {r : ReplicatedRecord} : ofObject? v = some r ↔ ∀ P ∈ parts, P.Reads v r := by
  cases r
  simp [ofObject?, parts, RecordPart.required, RecordPart.orElse, Option.bind_eq_some_iff, -Bool.exists_bool]
  tauto

theorem exists_ofObject? {v : Json} (h : ∀ P ∈ parts, P.Found v) : ∃ r, ofObject? v = some r := by
  simp [parts, RecordPart.required, RecordPart.orElse, -Bool.exists_bool] at h
  simp [ofObject?, Option.bind_eq_some_iff, -Bool.exists_bool]
  tauto

def objects : Codec ReplicatedRecord :=
  .ofParts parts toJson ofObject? (by decide) (fun _ => rfl) (fun _ _ => ofObject?_eq_some) fun _ => exists_ofObject?

def codec : Codec ReplicatedRecord :=
  objects.laidOut (fun _ => layout) fun _ => ⟨_, rfl⟩

@[simp] theorem codec_read : codec.read = ofJson? := rfl

@[simp] theorem codec_write : codec.write = toJson := rfl

end ReplicatedRecord

namespace ReplicationBatch

def parts : List (RecordPart ReplicationBatch) := [
  .required "origin" Codec.text (·.origin), .required "records" ReplicatedRecord.codec.list (·.records)]

theorem ofObject?_eq_some {v : Json} {b : ReplicationBatch} : ofObject? v = some b ↔ ∀ P ∈ parts, P.Reads v b := by
  cases b
  simp [ofObject?, parts, RecordPart.required, Option.bind_eq_some_iff, Codec.required_list]

theorem exists_ofObject? {v : Json} (h : ∀ P ∈ parts, P.Found v) : ∃ b, ofObject? v = some b := by
  simp [parts, RecordPart.required, Option.bind_eq_some_iff, Codec.required_list] at h
  simp [ofObject?, Option.bind_eq_some_iff]
  tauto

def objects : Codec ReplicationBatch :=
  .ofParts parts toJson ofObject? (by decide)
    (fun _ => congrArg Json.obj
      (Fields.ofList_ordered (Fields.ordered_of_keys ["origin", "records"] (by decide) rfl)).symm)
    (fun _ _ => ofObject?_eq_some) fun _ => exists_ofObject?

end ReplicationBatch

namespace ReplicationAck

def parts : List (RecordPart ReplicationAck) := [.required "last_sequence_applied" Codec.word (·.lastApplied)]

theorem ofObject?_eq_some {v : Json} {a : ReplicationAck} : ofObject? v = some a ↔ ∀ P ∈ parts, P.Reads v a := by
  cases a
  simp [ofObject?, parts, RecordPart.required, Option.bind_eq_some_iff]

theorem exists_ofObject? {v : Json} (h : ∀ P ∈ parts, P.Found v) : ∃ a, ofObject? v = some a := by
  simpa [ofObject?, parts, RecordPart.required, Option.bind_eq_some_iff] using h

def objects : Codec ReplicationAck :=
  .ofParts parts toJson ofObject? (by decide) (fun _ => rfl) (fun _ _ => ofObject?_eq_some) fun _ => exists_ofObject?

end ReplicationAck

/-! ### Every type -/

/-- The types that are written as JSON, those of parts included. -/
inductive WireType where
  | binding
  | unbinding
  | change
  | invite
  | currentKey
  | retiredKey
  | keyDocument
  | entry
  | batch
  | ack

namespace WireType

def Value : WireType → Type
  | .binding => BindingAttestation
  | .unbinding => UnbindingAttestation
  | .change => Change
  | .invite => InviteToken
  | .currentKey => String
  | .retiredKey => RetiredKey
  | .keyDocument => KeyDocument
  | .entry => ReplicatedRecord
  | .batch => ReplicationBatch
  | .ack => ReplicationAck

def encode : (t : WireType) → t.Value → Json
  | .binding => BindingAttestation.toJson
  | .unbinding => UnbindingAttestation.toJson
  | .change => Change.toJson
  | .invite => InviteToken.toJson
  | .currentKey => KeyDocument.keyToJson
  | .retiredKey => KeyDocument.retiredToJson
  | .keyDocument => KeyDocument.toJson
  | .entry => ReplicatedRecord.toJson
  | .batch => ReplicationBatch.toJson
  | .ack => ReplicationAck.toJson

def decode : (t : WireType) → Json → Option t.Value
  | .binding => BindingAttestation.ofJson?
  | .unbinding => UnbindingAttestation.ofJson?
  | .change => Change.ofJson?
  | .invite => InviteToken.ofJson?
  | .currentKey => KeyDocument.keyOfJson?
  | .retiredKey => KeyDocument.retiredOfJson?
  | .keyDocument => KeyDocument.ofJson?
  | .entry => ReplicatedRecord.ofJson?
  | .batch => ReplicationBatch.ofJson?
  | .ack => ReplicationAck.ofJson?

/-- The order in which a list holds the fields; that of an entry of the log begins with its kind. -/
def layout : WireType → Json → Json.Layout
  | .binding, _ => BindingAttestation.layout
  | .unbinding, _ => UnbindingAttestation.layout
  | .change, v => Change.layout (v.items?.bind List.head?)
  | .invite, _ => InviteToken.layout
  | .currentKey, _ => KeyDocument.keyLayout
  | .retiredKey, _ => KeyDocument.retiredLayout
  | .keyDocument, _ => KeyDocument.layout
  | .entry, _ => ReplicatedRecord.layout
  | .batch, _ => ReplicationBatch.layout
  | .ack, _ => ReplicationAck.layout

/-- The object that a value stands for: itself, or what the layout makes of a list. -/
def object? (t : WireType) (v : Json) : Option Json :=
  (t.layout v).object? v

def objects : (t : WireType) → Codec t.Value
  | .binding => BindingAttestation.objects
  | .unbinding => UnbindingAttestation.objects
  | .change => Change.objects
  | .invite => InviteToken.objects
  | .currentKey => KeyDocument.keyObjects
  | .retiredKey => KeyDocument.retiredObjects
  | .keyDocument => KeyDocument.objects
  | .entry => ReplicatedRecord.objects
  | .batch => ReplicationBatch.objects
  | .ack => ReplicationAck.objects

/-- The fields that a type looks for in a value. -/
def fields : WireType → Json → List Field
  | .binding, _ => BindingAttestation.parts.map (·.toField)
  | .unbinding, _ => UnbindingAttestation.parts.map (·.toField)
  | .change, v => Change.fields v
  | .invite, _ => InviteToken.parts.map (·.toField)
  | .currentKey, _ => KeyDocument.keyParts.map (·.toField)
  | .retiredKey, _ => KeyDocument.retiredParts.map (·.toField)
  | .keyDocument, _ => KeyDocument.parts.map (·.toField)
  | .entry, _ => ReplicatedRecord.parts.map (·.toField)
  | .batch, _ => ReplicationBatch.parts.map (·.toField)
  | .ack, _ => ReplicationAck.parts.map (·.toField)

/-- The integers of a value that have to be there. -/
def words : (t : WireType) → t.Value → List (String × Int64)
  | .binding, a => [("not_before", a.notBefore), ("ts", a.madeAt)]
  | .unbinding, a => [("deleted_ts", a.deletedAt)]
  | .change, .bound a => [("created_at", a.createdAt), ("not_before", a.notBefore), ("sequence_no", a.sequence)]
  | .change, .tombstone t => [("deleted_at", t.deletedAt), ("sequence_no", t.sequence)]
  | .invite, t => [("id", t.id), ("received_ts", t.receivedAt)]
  | .retiredKey, key => [("expired_ts", key.expiredAt)]
  | .keyDocument, d => [("valid_until_ts", d.validUntil)]
  | .entry, r => [("sequence_no", r.sequence)]
  | .ack, a => [("last_sequence_applied", a.lastApplied)]
  | .currentKey, _ | .batch, _ => []

/-- The integers of a value that need not be there. -/
def optionalWords : (t : WireType) → t.Value → List (String × Option Int64)
  | .binding, a => [("not_after", a.notAfter)]
  | .change, .bound a => [("not_after", a.notAfter)]
  | .invite, t => [("sent_ts", t.sentAt)]
  | _, _ => []

def medium? : (t : WireType) → t.Value → Option Medium
  | .binding, a => some a.medium
  | .unbinding, a => some a.medium
  | .change, c => some c.identifier.medium
  | .invite, t => some t.medium
  | _, _ => none

/-- What is nothing beside the name of a medium. -/
def isNothing : WireType → Json → Bool
  | .change => Json.isVoid
  | _ => Json.isNull

def kind? : (t : WireType) → t.Value → Option String
  | .change, .bound _ => some "bound"
  | .change, .tombstone _ => some "tombstone"
  | _, _ => none

/-- The maps and marks that may be absent but not null, and the map that has to be there. -/
def neverNull : WireType → List String
  | .keyDocument => ["verify_keys", "old_verify_keys", "signatures"]
  | .entry => ["tombstone"]
  | _ => []

variable {t : WireType} {v w : Json} {x : t.Value}

theorem objects_write (t : WireType) : t.objects.write = t.encode := by
  cases t <;> rfl

theorem objects_format (t : WireType) : t.objects.toFormat = .ofFields t.fields := by
  cases t <;> rfl

theorem encode_eq_obj (x : t.Value) : ∃ fields, t.encode x = .obj fields := by
  cases t with
  | change => cases x <;> exact ⟨_, rfl⟩
  | _ => exact ⟨_, rfl⟩

theorem decode_eq (v : Json) : t.decode v = (t.object? v).bind t.objects.read := by
  cases t <;> rfl

@[simp] theorem object?_obj (t : WireType) (fields : Fields Json) : t.object? (.obj fields) = some (.obj fields) := rfl

theorem decode_obj (fields : Fields Json) : t.decode (.obj fields) = t.objects.read (.obj fields) :=
  decode_eq _

theorem decode_encode (x : t.Value) : t.decode (t.encode x) = some x := by
  obtain ⟨fields, hencode⟩ := encode_eq_obj x
  rw [hencode, decode_obj, ← hencode, ← objects_write, t.objects.read_write]

/-- What is read, is read from an object. -/
theorem exists_object_of_decode (h : t.decode v = some x) : ∃ w, t.object? v = some w ∧ t.objects.read w = some x := by
  rwa [decode_eq, Option.bind_eq_some_iff] at h

/-- A list is read like the object that it stands for. -/
theorem decode_object (h : t.object? v = some w) : t.decode v = t.decode w := by
  have object : t.object? w = some w := by
    unfold object? Json.Layout.object? at h
    split at h
    · cases h
      rfl
    · split at h <;> cases h
      rfl
    · cases h
  rw [decode_eq, decode_eq, h, object]

theorem exists_read_iff : (∃ x, t.objects.read v = some x) ↔ ∀ F ∈ t.fields v, F.Takes (v.field? F.name) := by
  rw [t.objects.exists_iff, objects_format]
  rfl

theorem exists_decode_iff : (∃ x, t.decode v = some x) ↔
    ∃ w, t.object? v = some w ∧ ∀ F ∈ t.fields w, F.Takes (w.field? F.name) := by
  simp only [decode_eq, Option.bind_eq_some_iff, ← exists_read_iff]
  rw [exists_comm]
  simp only [exists_and_left]

theorem encode_of_read (h : t.objects.read v = some x) :
    t.encode x = record ((t.fields v).map fun F => (F.name, F.kept (v.field? F.name))) := by
  rw [← objects_write, t.objects.write_read h, objects_format]
  rfl

/-- Values whose fields are taken alike and kept alike are read alike. -/
theorem read_congr (hfields : t.fields v = t.fields w)
    (same : ∀ F ∈ t.fields w, (F.Takes (v.field? F.name) ↔ F.Takes (w.field? F.name)) ∧
      F.kept (v.field? F.name) = F.kept (w.field? F.name)) : t.objects.read v = t.objects.read w := by
  refine t.objects.read_congr ?_ ?_
  · rw [objects_format]
    simp only [Json.Format.ofFields, hfields]
    exact forall₂_congr fun F hF => (same F hF).1
  · rw [objects_format]
    simp only [Json.Format.ofFields, hfields]
    exact congrArg record (List.map_congr_left fun F hF => congrArg (Prod.mk F.name) (same F hF).2)

/-- Which fields a value needs depends on its kind at most. -/
theorem fields_congr (h : t = .change → v.field? "kind" = w.field? "kind") : t.fields v = t.fields w := by
  cases t with
  | change =>
    change Change.fields v = Change.fields w
    unfold Change.fields
    rw [h rfl]
  | _ => rfl

theorem exists_kind (v : Json) : ∃ F ∈ Change.fields v, F.name = "kind" := by
  unfold Change.fields
  split
  · exact ⟨_, List.mem_cons_self, rfl⟩
  · exact ⟨_, List.mem_cons_self, rfl⟩

theorem field?_insert (name key : String) (value : Json) (fields : Fields Json) :
    (Json.obj (fields.insert name value)).field? key = if name = key then some value else (Json.obj fields).field? key :=
  Fields.get?_insert ..

theorem field?_erase (name key : String) (fields : Fields Json) :
    (Json.obj (fields.erase name)).field? key = if name = key then none else (Json.obj fields).field? key :=
  Fields.get?_erase ..

/-- What a type does not know is passed over. -/
theorem decode_insert_unknown {fields : Fields Json} {name : String} (value : Json)
    (unknown : ∀ F ∈ t.fields (.obj fields), F.name ≠ name) :
    t.decode (.obj (fields.insert name value)) = t.decode (.obj fields) := by
  rw [decode_obj, decode_obj]
  refine read_congr (fields_congr ?_) fun F hF => ?_
  · rintro rfl
    obtain ⟨F, hF, hkind⟩ := exists_kind (.obj fields)
    rw [field?_insert, if_neg fun h => unknown F hF (hkind.trans h.symm)]
  · rw [field?_insert, if_neg (unknown F hF).symm]
    exact ⟨Iff.rfl, rfl⟩

/-- The names of the integers that may be absent or null. -/
def optionalNames : WireType → List String
  | .binding | .change => ["not_after"]
  | .invite => ["sent_ts"]
  | _ => []

theorem null_as_absent {F : Field} {name : String} (hname : name ∈ t.optionalNames) (hF : F ∈ t.fields v)
    (h : name = F.name) : (F.Takes (some .null) ↔ F.Takes none) ∧ F.kept (some .null) = F.kept none := by
  subst h
  cases t with
  | binding =>
    revert F
    simp [fields, BindingAttestation.parts, optionalNames, RecordPart.required, RecordPart.optionalWord]
  | change =>
    revert F
    change ∀ F ∈ Change.fields v, _
    unfold Change.fields
    split
    · simp [Change.tombstoneParts, Tombstone.parts, optionalNames, RecordPart.tag, RecordPart.required]
    · simp [Change.boundParts, Association.parts, optionalNames, RecordPart.tag, RecordPart.required,
        RecordPart.optionalWord]
  | invite =>
    revert F
    simp [fields, InviteToken.parts, optionalNames, RecordPart.required, RecordPart.optionalWord]
  | _ => cases hname

theorem decode_insert_null {fields : Fields Json} {name : String} (hname : name ∈ t.optionalNames) :
    t.decode (.obj (fields.insert name .null)) = t.decode (.obj (fields.erase name)) := by
  rw [decode_obj, decode_obj]
  refine read_congr (fields_congr ?_) fun F hF => ?_
  · rintro rfl
    cases List.mem_singleton.mp hname
    rw [field?_insert, field?_erase, if_neg (by decide), if_neg (by decide)]
  · rw [field?_insert, field?_erase]
    split
    · rename_i h
      exact null_as_absent hname hF h
    · exact ⟨Iff.rfl, rfl⟩

theorem null_refused {name : String} (hname : name ∈ t.neverNull) (v : Json) :
    ∃ F ∈ t.fields v, F.name = name ∧ ¬ F.Takes (some .null) := by
  revert name
  cases t with
  | keyDocument => simp [fields, KeyDocument.parts, neverNull, RecordPart.required, RecordPart.sparse, Codec.map]
  | entry =>
    simp [fields, ReplicatedRecord.parts, neverNull, RecordPart.required, RecordPart.orElse, Codec.flag, Codec.exact]
  | _ =>
    intro name hname
    cases hname

theorem ne_null_of_read (h : t.objects.read v = some x) : ∀ name ∈ t.neverNull, v.field? name ≠ some .null := by
  intro name hname hnull
  obtain ⟨F, hF, rfl, hrefused⟩ := null_refused hname v
  exact hrefused (hnull ▸ exists_read_iff.mp ⟨x, h⟩ F hF)

/-- What an object that is read has under its names. -/
theorem field?_of_read (h : t.objects.read v = some x) :
    (∀ word ∈ t.words x, v.field? word.1 = some (.ofInt64 word.2)) ∧
    (∀ word ∈ t.optionalWords x,
      v.field? word.1 = word.2.map .ofInt64 ∨ word.2 = none ∧ v.field? word.1 = some .null) ∧
    (∀ medium ∈ t.medium? x, ∃ named, v.field? "medium" = some named ∧ named.Spells t.isNothing medium.name) ∧
    ∀ kind ∈ t.kind? x, v.field? "kind" = some (.str kind) := by
  have text {name s} : v.required Json.text? name = some s ↔ v.field? name = some (.str s) :=
    Codec.required_iff Codec.text?_eq_some
  have word {name n} : v.required Json.int64? name = some n ↔ v.field? name = some (.ofInt64 n) :=
    Codec.required_iff Codec.int64?_eq_some
  have medium {isNothing name m} : v.required (Json.medium? isNothing) name = some m ↔
      ∃ named, v.field? name = some named ∧ named.Spells isNothing m.name := by
    simp only [Json.required, Option.bind_eq_some_iff, Codec.medium?_eq_some]
  cases t with
  | binding =>
    replace h := BindingAttestation.ofObject?_eq_some.mp h
    simp [BindingAttestation.parts, RecordPart.required, RecordPart.optionalWord, text, word, medium,
      Codec.optionalInt64_iff] at h
    simp [words, optionalWords, medium?, isNothing, kind?, h]
  | unbinding =>
    replace h := UnbindingAttestation.ofObject?_eq_some.mp h
    simp [UnbindingAttestation.parts, RecordPart.required, text, word, medium] at h
    simp [words, optionalWords, medium?, isNothing, kind?, h]
  | invite =>
    replace h := InviteToken.ofObject?_eq_some.mp h
    simp [InviteToken.parts, RecordPart.required, RecordPart.optionalWord, text, word, medium,
      Codec.optionalInt64_iff] at h
    simp [words, optionalWords, medium?, isNothing, kind?, h]
  | change =>
    cases x with
    | bound a =>
      obtain ⟨hkind, h⟩ := Change.ofObject?_eq_bound.mp h
      replace h := Association.ofObject?_eq_some.mp h
      simp [Association.parts, RecordPart.required, RecordPart.optionalWord, text, word, medium,
        Codec.optionalInt64_iff] at h
      simp [words, optionalWords, medium?, isNothing, kind?, Change.identifier, hkind, h]
    | tombstone u =>
      obtain ⟨hkind, h⟩ := Change.ofObject?_eq_tombstone.mp h
      replace h := Tombstone.ofObject?_eq_some.mp h
      simp [Tombstone.parts, RecordPart.required, text, word, medium] at h
      simp [words, optionalWords, medium?, isNothing, kind?, Change.identifier, hkind, h]
  | currentKey => simp [words, optionalWords, medium?, isNothing, kind?]
  | retiredKey =>
    replace h := KeyDocument.retiredOfObject?_eq_some.mp h
    simp [KeyDocument.retiredParts, RecordPart.required, text, word] at h
    simp [words, optionalWords, medium?, isNothing, kind?, h]
  | keyDocument =>
    replace h := KeyDocument.ofObject?_eq_some.mp h
    simp [KeyDocument.parts, RecordPart.required, RecordPart.sparse, text, word] at h
    simp [words, optionalWords, medium?, isNothing, kind?, h]
  | entry =>
    replace h := ReplicatedRecord.ofObject?_eq_some.mp h
    simp [ReplicatedRecord.parts, RecordPart.required, RecordPart.orElse, word] at h
    simp [words, optionalWords, medium?, isNothing, kind?, h]
  | batch => simp [words, optionalWords, medium?, isNothing, kind?]
  | ack =>
    replace h := ReplicationAck.ofObject?_eq_some.mp h
    simp [ReplicationAck.parts, RecordPart.required, word] at h
    simp [words, optionalWords, medium?, isNothing, kind?, h]

/-- Values are what their objects state. Whatever object a value was read from, the value is written with the fields of
    its type only, and always in the same way from then on. A list is read like the object that its layout makes of it. An
    object is read if and only if every field of the type is there as it has to be: integers are integers of a signed word,
    names of media and kinds are the known ones, and null stands for nothing but an optional integer that is absent. -/
theorem decode_encode_stable (t : WireType) :
    (∀ x, t.decode (t.encode x) = some x) ∧
    (∀ fields, t.object? (.obj fields) = some (.obj fields)) ∧
    (∀ v w, t.object? v = some w → t.decode v = t.decode w) ∧
    (∀ v x, t.decode v = some x →
      (t.decode (t.encode x)).map (fun y => (t.encode y).canonical) = some (t.encode x).canonical ∧
      ∃ w, t.object? v = some w ∧
        t.encode x = Json.record ((t.fields w).map fun F => (F.name, F.kept (w.field? F.name))) ∧
        (∀ word ∈ t.words x, w.field? word.1 = some (.ofInt64 word.2)) ∧
        (∀ word ∈ t.optionalWords x,
          w.field? word.1 = word.2.map .ofInt64 ∨ word.2 = none ∧ w.field? word.1 = some .null) ∧
        (∀ medium ∈ t.medium? x, ∃ named, w.field? "medium" = some named ∧ named.Spells t.isNothing medium.name) ∧
        (∀ kind ∈ t.kind? x, w.field? "kind" = some (.str kind)) ∧
        ∀ name ∈ t.neverNull, w.field? name ≠ some .null) ∧
    (∀ v, (∃ x, t.decode v = some x) ↔ ∃ w, t.object? v = some w ∧ ∀ F ∈ t.fields w, F.Takes (w.field? F.name)) ∧
    (∀ (fields : Fields Json) name value, (∀ F ∈ t.fields (.obj fields), F.name ≠ name) →
      t.decode (.obj (fields.insert name value)) = t.decode (.obj fields)) ∧
    (∀ (fields : Fields Json), ∀ name ∈ t.optionalNames,
      t.decode (.obj (fields.insert name .null)) = t.decode (.obj (fields.erase name))) := by
  refine ⟨decode_encode, fun fields => rfl, fun v w => decode_object, fun v x h => ⟨?_, ?_⟩,
    fun v => exists_decode_iff, fun _ _ value => decode_insert_unknown value, fun _ _ => decode_insert_null⟩
  · rw [decode_encode, Option.map_some]
  · obtain ⟨w, object, hread⟩ := exists_object_of_decode h
    obtain ⟨hwords, hoptional, hmedium, hkind⟩ := field?_of_read hread
    exact ⟨w, object, encode_of_read hread, hwords, hoptional, hmedium, hkind, ne_null_of_read hread⟩

end WireType

end IdentityServer
