import IdentityServer.Proofs.Binding.UnbindCompleteness
import IdentityServer.Proofs.Json.Indented
import IdentityServer.Proofs.Json.WireTypes
import IdentityServer.Proofs.Signing.Republication
import IdentityServer.Proofs.Signing.SignedMessages

/-! # The key document of the server itself

What the server publishes of its keys is a document that it would accept from another server: as it is signed, as it is
shown, and as it is read back from its text. -/

namespace IdentityServer

/-! ### The texts of a document -/

namespace Json

/-- Values that are read back from their text, with at most `n` brackets inside one another. -/
def LegibleWithin (n : Nat) (v : Json) : Prop :=
  v.Legible ∧ v.depth ≤ n

theorem IsPlain.legibleWithin {v : Json} (h : v.IsPlain) (n : Nat) : v.LegibleWithin n := by
  refine ⟨?_, h.depth_eq ▸ Nat.zero_le n⟩
  cases h with
  | text s => trivial
  | word m => exact fitsWord_toInt m

theorem legibleWithin_obj {fields : Fields Json} {n : Nat} (h : ∀ field ∈ fields, field.2.LegibleWithin n) :
    (obj fields).LegibleWithin (n + 1) :=
  ⟨fieldsLegible_iff.mpr fun field hfield => (h field hfield).1,
    Nat.succ_le_succ (fieldsDepth_le_iff.mpr fun field hfield => (h field hfield).2)⟩

variable {α : Type} {write write' : α → Json} {n : Nat}

theorem legibleWithin_ofDictionary (hwrite : ∀ x, (write x).LegibleWithin n) (d : Dictionary α) :
    (ofDictionary write d).LegibleWithin (n + 1) := by
  refine legibleWithin_obj fun field hfield => ?_
  obtain ⟨entry, -, rfl⟩ := List.mem_map.mp hfield
  exact hwrite entry.2

theorem sorted_ofDictionary (hwrite : ∀ x, (write x).sorted = write' x) (d : Dictionary α) :
    (ofDictionary write d).sorted = ofDictionary write' d := by
  have ordered : Fields.Ordered (d.entries.map fun entry => (entry.1, write' entry.2)) :=
    List.pairwise_map.mpr d.ordered
  rw [ofDictionary, sorted, sortedFields_eq, List.map_map, ofFields]
  simp only [Function.comp_def, hwrite]
  rw [Fields.ofList_ordered ordered, ofDictionary]

end Json

namespace KeyDocument
variable {α : Type} {name : String} {write write' : α → Json} {d : Dictionary α} {n : Nat}

/-- A retired key as it is shown. -/
def retiredToShow (k : RetiredKey) : Json :=
  .obj [("key", .str k.key), ("expired_ts", .ofInt64 k.expiredAt)]

theorem legibleWithin_optionalMap (hwrite : ∀ x, (write x).LegibleWithin n) :
    ∀ field ∈ optionalMap name write d, field.2.LegibleWithin (n + 1) := by
  unfold optionalMap
  split
  · exact List.forall_mem_nil _
  · intro field hfield
    rw [List.mem_singleton.mp hfield]
    exact Json.legibleWithin_ofDictionary hwrite d

theorem sorted_optionalMap (hwrite : ∀ x, (write x).sorted = write' x) :
    (optionalMap name write d).map (fun field => (field.1, field.2.sorted)) = optionalMap name write' d := by
  unfold optionalMap
  split
  · rfl
  · rw [List.map_cons, Json.sorted_ofDictionary hwrite]
    rfl

theorem legibleWithin_key (key : String) : (keyToJson key).LegibleWithin 1 :=
  Json.legibleWithin_obj (by simp [Json.IsPlain.legibleWithin, Json.IsPlain.text])

theorem legibleWithin_retired (k : RetiredKey) : (retiredToShow k).LegibleWithin 1 :=
  Json.legibleWithin_obj (by simp [Json.IsPlain.legibleWithin, Json.IsPlain.text, Json.IsPlain.word])

theorem legibleWithin_signatures (d : Dictionary String) : (signaturesToJson d).LegibleWithin 1 :=
  Json.legibleWithin_ofDictionary (fun s => (Json.IsPlain.text s).legibleWithin 0) d

theorem legibleWithin_shown (d : KeyDocument) : (Json.obj d.shownFields).LegibleWithin 3 := by
  refine Json.legibleWithin_obj fun field hfield => ?_
  simp only [shownFields, List.mem_append, List.mem_cons, List.not_mem_nil, or_false] at hfield
  obtain (((rfl | rfl) | hold) | rfl) | hsignatures := hfield
  · exact (Json.IsPlain.text d.server).legibleWithin 2
  · exact Json.legibleWithin_ofDictionary legibleWithin_key d.verifyKeys
  · exact legibleWithin_optionalMap legibleWithin_retired field hold
  · exact (Json.IsPlain.word d.validUntil).legibleWithin 2
  · exact legibleWithin_optionalMap legibleWithin_signatures field hsignatures

theorem keys_optionalMap : ((optionalMap name write d).map (·.1)).Sublist [name] := by
  unfold optionalMap
  split
  · exact List.nil_sublist _
  · exact List.Sublist.refl _

/-- The names of the fields that are shown, all of which may be there. -/
theorem keys_shown (d : KeyDocument) : (d.shownFields.map (·.1)).Sublist
    (["server_name", "verify_keys"] ++ ["old_verify_keys"] ++ ["valid_until_ts"] ++ ["signatures"]) := by
  simp only [shownFields, List.map_append]
  exact (((List.Sublist.refl _).append keys_optionalMap).append (List.Sublist.refl _)).append keys_optionalMap

theorem sorted_retired (k : RetiredKey) : (retiredToShow k).sorted = retiredToJson k := by
  have ordered : Fields.Ordered [("expired_ts", Json.ofInt64 k.expiredAt), ("key", .str k.key)] :=
    Fields.ordered_of_keys ["expired_ts", "key"] (by decide) rfl
  exact congrArg Json.obj ((Fields.ofList_swap (by decide) [] [] ..).trans (Fields.ofList_ordered ordered))

/-- What is shown is the document, with its fields in the order of their meaning. -/
theorem sorted_shown (d : KeyDocument) : (Json.obj d.shownFields).sorted = d.toJson := by
  have key (key : String) : (keyToJson key).sorted = keyToJson key := rfl
  have signatures (d : Dictionary String) : (signaturesToJson d).sorted = signaturesToJson d :=
    Json.sorted_ofDictionary (fun _ => rfl) d
  have fields : Json.sortedFields d.shownFields =
      [("server_name", .str d.server)] ++ [("verify_keys", .ofDictionary keyToJson d.verifyKeys)] ++
      optionalMap "old_verify_keys" retiredToJson d.oldVerifyKeys ++ [("valid_until_ts", .ofInt64 d.validUntil)] ++
      optionalMap "signatures" signaturesToJson d.signatures := by
    rw [Json.sortedFields_eq, shownFields, List.map_append, List.map_append, List.map_append]
    change _ ++ (optionalMap _ retiredToShow _).map _ ++ _ ++ (optionalMap _ signaturesToJson _).map _ = _
    rw [sorted_optionalMap sorted_retired, sorted_optionalMap signatures, List.map_cons, List.map_cons,
      Json.sorted_ofDictionary key]
    rfl
  have distinct : ((Json.sortedFields d.shownFields).map (·.1)).Nodup := by
    rw [Json.sortedFields_eq, List.map_map]
    exact List.Nodup.sublist d.keys_shown (by decide)
  have moved (server keys old last signatures : List (String × Json)) :
      (server ++ keys ++ old ++ last ++ signatures).Perm (old ++ server ++ signatures ++ (last ++ keys)) := by
    classical
    refine List.perm_iff_count.mpr fun field => ?_
    simp only [List.count_append]
    omega
  exact congrArg Json.obj (Fields.ofList_perm distinct (fields ▸ moved ..))

theorem parse_canonical (d : KeyDocument) : Json.parse d.toJson.canonical = some d.toJson := by
  have legible := d.legibleWithin_shown
  rw [← sorted_shown]
  exact Json.parse_canonical (Json.readable_sorted _ legible.1)
    ((Json.depth_sorted_le _).trans (legible.2.trans (by decide)))

open SignedJson

/-- A document with a single signature is its object without signatures, signed. -/
theorem toJson_signed (d : KeyDocument) (id server signature : String) :
    ({ d with signatures := .single server (.single id signature) } : KeyDocument).toJson =
      .obj (withSignature id server signature (SignedMessage.document d).fields) := by
  let signed : String × Json := ("signatures", .obj [(server, .obj [(id, .str signature)])])
  let last := [("valid_until_ts", Json.ofInt64 d.validUntil), ("verify_keys", .ofDictionary keyToJson d.verifyKeys)]
  let front := optionalMap "old_verify_keys" retiredToJson d.oldVerifyKeys ++ [("server_name", .str d.server)]
  have distinct : ((front ++ ([signed] ++ last)).map (·.1)).Nodup := by
    rw [List.map_append, List.map_append]
    exact List.Nodup.sublist ((keys_optionalMap.append (.refl ["server_name"])).append
      (.refl ["signatures", "valid_until_ts", "verify_keys"])) (by decide)
  have moved : (front ++ ([signed] ++ last)).Perm (front ++ last ++ [signed]) := by
    rw [List.append_assoc front]
    exact List.perm_append_comm.append_left front
  calc Json.obj (Fields.ofList (front ++ [signed] ++ last))
      _ = .obj (Fields.ofList (front ++ last ++ [signed])) := by
        rw [List.append_assoc front, Fields.ofList_perm distinct moved]
      _ = .obj (Fields.insert signed.1 signed.2 (Fields.ofList (front ++ last))) := by
        rw [Fields.ofList_append]
        rfl
      _ = _ := by
        change _ = Json.obj (Fields.insert _ _ (Fields.ofList (front ++ [] ++ last)))
        rw [List.append_nil]

end KeyDocument

namespace KeyRing
variable [SignatureScheme] (ring : KeyRing) (server : String) (now : Int64)

theorem verify_document (lawful : SignatureScheme.Lawful) :
    SignedJson.verify (ring.document server now).toJson server (ring.document server now).verifyKeys.get? = .ok () := by
  let message := SignedMessage.document (ring.document server now)
  have signed : (ring.document server now).toJson =
      .obj (SignedJson.signedFields ring.current server message.fields) := by
    rw [SignedJson.signedFields, message.signedText_fields]
    exact KeyDocument.toJson_signed ..
  rw [signed]
  exact SignedJson.verify_signedFields lawful ((Dictionary.get?_single ..).trans (if_pos rfl))

theorem ofJson?_document : KeyDocument.ofJson? (ring.document server now).toJson = some (ring.document server now) :=
  @WireType.decode_encode .keyDocument _

theorem checkKeyDocument_own (lawful : SignatureScheme.Lawful) :
    checkKeyDocument server (ring.document server now).toJson = .ok (ring.document server now) := by
  have named : (ring.document server now).server = server := rfl
  simp only [checkKeyDocument, ofJson?_document, named, ne_eq, not_true_eq_false, if_false,
    verify_document ring server now lawful]
  rfl

end KeyRing

end IdentityServer
