import IdentityServer.Proofs.Identifier.Address
import IdentityServer.Proofs.Replication.Trust

/-! # Addresses that receivers take

What a receiver takes from its peers is about canonical addresses, and it takes records about any of them. So an address
that has been brought to its canonical spelling is one that every peer knows by the same text. -/

namespace IdentityServer

/-! ### Addresses of records -/

/-- A value states one identifier. -/
theorem NewAssociation.StatedBy.identifier_eq {a b : NewAssociation} {tombstone : Bool} {value : Json}
    (ha : a.StatedBy tombstone value) (hb : b.StatedBy tombstone value) : a.medium = b.medium ∧ a.address = b.address := by
  cases tombstone with
  | true =>
    have same := Option.some.inj (ha.1.symm.trans hb.1)
    exact ⟨congrArg UnbindingAttestation.medium same, congrArg UnbindingAttestation.address same⟩
  | false =>
    have same : a.attestation = b.attestation := Option.some.inj (ha.symm.trans hb)
    exact ⟨congrArg BindingAttestation.medium same, congrArg BindingAttestation.address same⟩

namespace Receiver
open Address ReplicatedRecord
variable [SignatureScheme] {peers : List Peer} {origin : String} {batch : ReplicationBatch} {table : ReplicatedTable}

theorem trusted_iff {peer : Peer} {sent : ReplicatedRecord} : sent.Trusted peer ↔
    SignedJson.verify sent.signed peer.name (fun _ => some peer.verifyKey) = .ok () ∧
    ∃ a : NewAssociation, a.StatedBy sent.tombstone sent.signed ∧ HasShape a.medium a.address.toList ∧
      Account.validate a.account = .ok () := by
  simp only [← canonicalize_eq_self_iff, verify_peer]
  exact ⟨fun h => ⟨h.signed, h.stated⟩, fun ⟨signed, stated⟩ => ⟨signed, stated⟩⟩

/-- Some batch of the server with a record about the address is taken. -/
def Takes (peers : List Peer) (origin : String) (table : ReplicatedTable) (medium : Medium) (address : String) : Prop :=
  ∃ batch ack next, applyBatch peers origin batch table = .ok (ack, next) ∧ ∃ sent ∈ batch.records,
    ∃ a : NewAssociation, a.StatedBy sent.tombstone sent.signed ∧ a.medium = medium ∧ a.address = address

/-- A binding of an address that takes the first place of a log. -/
def bindingOf (medium : Medium) (address payload : String) : LogRow :=
  ⟨⟨medium, address, "@a:b", 0, none, 0, payload⟩, 1, false, true⟩

omit [SignatureScheme] in
/-- What is stated of a binding does not depend on the text that is signed. -/
theorem statement_bindingOf (medium : Medium) (address payload : String) :
    (bindingOf medium address payload).statement = (bindingOf medium address "").statement := rfl

theorem genuine_bindingOf (key : KeyPair) (server : String) {medium : Medium} {address : String}
    (h : HasShape medium address.toList) : LogRow.Genuine key server (bindingOf medium address
      (SignedJson.signedPayload key server (bindingOf medium address "").statement)) := by
  have account : Account.validate "@a:b" = .ok () := by decide +kernel
  exact ⟨canonicalize_eq_self_iff.mpr h, account,
    congrArg (SignedJson.signedPayload key server) (statement_bindingOf medium address _).symm, nofun⟩

/-- A receiver that knows a server and its key takes records about exactly the canonical addresses from it. -/
theorem takes_iff (lawful : SignatureScheme.Lawful) {peer : Peer} {key : KeyPair} (known : peerOf? peers origin = some peer)
    (trusted : peer.verifyKey = key.publicKey) {medium : Medium} {address : String} :
    Takes peers origin table medium address ↔ HasShape medium address.toList := by
  constructor
  · rintro ⟨batch, ack, next, taken, sent, hsent, a, stated, rfl, rfl⟩
    obtain ⟨peer, -, -, records⟩ := exists_applyBatch_iff.mp ⟨ack, next, taken⟩
    obtain ⟨-, a', stated', shape, -⟩ := trusted_iff.mp (records sent hsent)
    obtain ⟨medium, address⟩ := stated'.identifier_eq stated
    rw [← medium, ← address]
    exact shape
  · intro shape
    have genuine := genuine_bindingOf key origin shape
    have verified := genuine.verified lawful (name_of_peerOf? known) trusted
    have stated := (verified_eq_ok_iff.mp verified).2.1.stated
    have taken : ∃ ack next, applyBatch peers origin ⟨origin, [_]⟩ table = .ok (ack, next) :=
      exists_applyBatch_iff.mpr ⟨peer, known, rfl, List.forall_mem_singleton.mpr (exists_verified_iff.mp ⟨_, verified⟩)⟩
    obtain ⟨ack, next, taken⟩ := taken
    exact ⟨_, ack, next, taken, _, List.mem_singleton_self _, _, stated, rfl, rfl⟩

end Receiver

namespace Address
open Text

/-- A canonical spelling has the shape of its medium and is its own canonical spelling, and every text of the shape is.
    Blanks around an address make no difference to it, and neither do the number of plus signs and the formatting behind
    them to a phone number. A receiver takes a batch exactly if it knows the sender, and each record is signed by it and
    about an address of the shape and a well-formed account; and from a server whose key it knows it takes records about
    every such address. -/
theorem canonical_addresses :
    (∀ medium raw address, canonicalize medium raw = .ok address →
      canonicalize medium address = .ok address ∧ HasShape medium address.toList) ∧
    (∀ medium (raw padded : String), Padded raw.toList padded.toList →
      canonicalize medium padded = canonicalize medium raw) ∧
    (∀ signs signs' rest formatted address, trim (List.replicate signs '+' ++ rest) = List.replicate signs '+' ++ rest →
      rest.head? ≠ some '+' → Formatted rest formatted →
      canonicalize .msisdn (String.ofList (List.replicate signs '+' ++ rest)) = .ok address →
      canonicalize .msisdn (String.ofList (List.replicate signs' '+' ++ formatted)) = .ok address) ∧
    (∀ medium address, canonicalize medium address = .ok address ↔ HasShape medium address.toList) ∧
    (∀ [SignatureScheme] peers origin batch table,
      (∃ ack next, Receiver.applyBatch peers origin batch table = .ok (ack, next)) ↔
        ∃ peer, Receiver.peerOf? peers origin = some peer ∧ batch.origin = origin ∧ ∀ sent ∈ batch.records,
          SignedJson.verify sent.signed peer.name (fun _ => some peer.verifyKey) = .ok () ∧
          ∃ a : NewAssociation, a.StatedBy sent.tombstone sent.signed ∧ HasShape a.medium a.address.toList ∧
            Account.validate a.account = .ok ()) ∧
    ∀ [SignatureScheme], SignatureScheme.Lawful → ∀ peers origin peer (key : KeyPair) table,
      Receiver.peerOf? peers origin = some peer → peer.verifyKey = key.publicKey → ∀ medium address,
        Receiver.Takes peers origin table medium address ↔ HasShape medium address.toList := by
  refine ⟨fun medium raw address h => ⟨canonicalize_canonical h, hasShape_of_canonicalize h⟩,
    fun medium raw padded => canonicalize_padded, ?_, fun medium address => canonicalize_eq_self_iff, ?_, ?_⟩
  · intro signs signs' rest formatted address trimmed unsigned h canonical
    exact canonicalize_formatted trimmed unsigned h canonical signs'
  · intro scheme peers origin batch table
    simp only [Receiver.exists_applyBatch_iff, Receiver.trusted_iff]
  · intro scheme lawful peers origin peer key table known trusted medium address
    exact Receiver.takes_iff lawful known trusted

/-- A word that ends in a sigma, a number with its formatting, and a receiver that takes the one and not the capitals. -/
theorem canonical_addresses_lowered :
    let _ : SignatureScheme := .transparent
    let peer : Peer := ⟨"b.org", "https://b.org", KeyPair.zeros.publicKey⟩
    canonicalize .email "\u3000ΟΔΟΣ@Example.COM\n" = .ok "οδος@example.com" ∧
    canonicalize .email "οδος@example.com" = .ok "οδος@example.com" ∧
    canonicalize .msisdn "++(12) 34-56.78" = .ok "+12345678" ∧
    Receiver.Takes [peer] "b.org" {} .email "οδος@example.com" ∧
    ¬ Receiver.Takes [peer] "b.org" {} .email "ΟΔΟΣ@example.com" := by
  intro scheme peer
  obtain ⟨canonical, -, formatted, fixed, -, takes⟩ := canonical_addresses
  have lowered : canonicalize .email "\u3000ΟΔΟΣ@Example.COM\n" = .ok "οδος@example.com" := by decide +kernel
  have known := takes SignatureScheme.transparent_lawful [peer] "b.org" peer .zeros {} rfl rfl .email
  obtain ⟨same, shape⟩ := canonical .email _ _ lowered
  have spelled : Formatted "12345678".toList "(12) 34-56.78".toList :=
    .insert (by decide) <| .keep _ <| .keep _ <| .insert (by decide) <| .insert (by decide) <| .keep _ <| .keep _ <|
      .insert (by decide) <| .keep _ <| .keep _ <| .insert (by decide) <| .keep _ <| .keep _ .nil
  refine ⟨lowered, same, ?_, (known _).mpr shape, fun taken => ?_⟩
  · exact formatted 1 2 _ _ "+12345678" (by decide) (by decide) spelled (by decide)
  · exact absurd ((fixed _ _).mpr ((known _).mp taken)) (by decide +kernel)

end Address

end IdentityServer
