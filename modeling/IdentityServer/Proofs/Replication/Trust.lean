import IdentityServer.Proofs.Binding.SignedLog
import IdentityServer.Proofs.Replication.Acceptance
import IdentityServer.Proofs.Replication.Reception

/-! # What a receiver trusts

A batch is taken exactly if its sender is known by the name it gives and every record carries a signature of the
sender over a well-formed statement of the kind that its mark says. Nothing else in a record has any influence but on
the text that is kept: neither unsigned data nor the signatures of others. A mark that says the wrong kind spoils the
whole batch. -/

namespace IdentityServer
open SignedJson

/-! ### Tables without texts -/

/-- A record without its text. -/
def ReplicatedAssociation.unsealed (r : ReplicatedAssociation) : ReplicatedAssociation :=
  { r with signedPayload := "" }

namespace ReplicatedTable
variable {table : ReplicatedTable}

def unsealed (table : ReplicatedTable) : ReplicatedTable :=
  ⟨table.rows.map ReplicatedAssociation.unsealed⟩

/-- No text has a say in what is kept. -/
theorem unsealed_apply (r : ReplicatedAssociation) :
    (table.apply r).2.unsealed = (table.unsealed.apply r.unsealed).2 := by
  have refused : table.unsealed.isRefused r.unsealed = table.isRefused r := List.any_map
  unfold apply
  rw [refused]
  split
  · rfl
  · simp only [unsealed, List.map_append, List.map_cons, List.map_nil, List.filter_map]
    rfl

theorem unsealed_applyAll (records : List ReplicatedAssociation) :
    (table.applyAll records).unsealed = table.unsealed.applyAll (records.map ReplicatedAssociation.unsealed) := by
  induction records generalizing table with
  | nil => rfl
  | cons r rest ih =>
    rw [List.map_cons]
    refine ih.trans ?_
    rw [unsealed_apply]
    rfl

end ReplicatedTable

/-! ### Records -/

namespace ReplicatedRecord
variable {sent other : ReplicatedRecord} {origin server : String} {row : ReplicatedAssociation}

/-- What a record gives: place and mark are its own, everything else is in the signed value. -/
structure Gives (sent : ReplicatedRecord) (origin : String) (row : ReplicatedAssociation) : Prop where
  origin : row.origin = origin
  place : row.originSequence = sent.sequence
  mark : row.tombstone = sent.tombstone
  payload : row.signedPayload = sent.signed.canonical
  stated : row.toNewAssociation.StatedBy sent.tombstone sent.signed

theorem read?_eq_some : Receiver.read? origin sent = some row ↔ sent.Gives origin row := by
  obtain ⟨place, mark, signed⟩ := sent
  obtain ⟨⟨medium, address, account, notBefore, notAfter, createdAt, payload⟩, name, number, tombstone⟩ := row
  cases mark with
  | true =>
    constructor
    · intro h
      obtain ⟨a, ha, hrow⟩ := Option.map_eq_some_iff.mp h
      cases hrow
      exact ⟨rfl, rfl, rfl, rfl, ha, rfl, rfl⟩
    · rintro ⟨horigin, hplace, hmark, hpayload, ha, hbefore, hafter⟩
      cases horigin
      cases hplace
      cases hmark
      cases hpayload
      cases hbefore
      cases hafter
      exact Option.map_eq_some_iff.mpr ⟨_, ha, rfl⟩
  | false =>
    constructor
    · intro h
      obtain ⟨a, ha, hrow⟩ := Option.map_eq_some_iff.mp h
      cases hrow
      exact ⟨rfl, rfl, rfl, rfl, ha⟩
    · rintro ⟨horigin, hplace, hmark, hpayload, ha⟩
      cases horigin
      cases hplace
      cases hmark
      cases hpayload
      exact Option.map_eq_some_iff.mpr ⟨_, ha, rfl⟩

/-- Records that differ at most in unsigned data and in the signatures of others than the server. -/
structure Alike (server : String) (sent other : ReplicatedRecord) : Prop where
  sequence : sent.sequence = other.sequence
  tombstone : sent.tombstone = other.tombstone
  covered : sent.signed.fields?.map covered = other.signed.fields?.map covered
  signatures : signaturesOf server sent.signed = signaturesOf server other.signed

/-- A record can be a list as well, but no signature is found in one. -/
theorem Alike.read? (h : Alike server sent other) {fields : Fields Json} (object : other.signed.fields? = some fields) :
    (Receiver.read? origin sent).map ReplicatedAssociation.unsealed =
      (Receiver.read? origin other).map ReplicatedAssociation.unsealed := by
  have same : ∀ name, "signatures" ≠ name → "unsigned" ≠ name → sent.signed.field? name = other.signed.field? name := by
    intro name hname hname'
    rw [field?_covered _ hname hname', field?_covered _ hname hname', h.covered]
  have hcovered := h.covered
  rw [object, Option.map_some] at hcovered
  obtain ⟨own, hown, -⟩ := Option.map_eq_some_iff.mp hcovered
  have hsent : sent.signed = .obj own := Json.fields?_eq_some.mp hown
  have hother : other.signed = .obj fields := Json.fields?_eq_some.mp object
  rw [hsent, hother] at same
  unfold Receiver.read?
  rw [hsent, hother, h.tombstone, h.sequence, BindingAttestation.ofJson?_congr same,
    UnbindingAttestation.ofJson?_congr same]
  dsimp only
  split
  · cases UnbindingAttestation.ofJson? (.obj fields) <;> rfl
  · cases BindingAttestation.ofJson? (.obj fields) <;> rfl

variable [SignatureScheme] {peer : Peer}

/-- A record that the receiver trusts: one of the signatures under the name of the peer is valid under its key, and
    the signed value is the statement of the kind that the mark says, about a canonical address and a well-formed
    account. -/
structure Trusted (peer : Peer) (sent : ReplicatedRecord) : Prop where
  signed : ∃ fields id signature, sent.signed.fields? = some fields ∧
    (id, .str signature) ∈ signaturesOf peer.name sent.signed ∧
    verifySignature peer.verifyKey signature (utf8 (signedText fields)) = true
  stated : ∃ a : NewAssociation, a.StatedBy sent.tombstone sent.signed ∧
    Address.canonicalize a.medium a.address = .ok a.address ∧ Account.validate a.account = .ok ()

theorem verify_peer {value : Json} :
    verify value peer.name (fun _ => some peer.verifyKey) = .ok () ↔ ∃ fields id signature,
      value.fields? = some fields ∧ (id, .str signature) ∈ signaturesOf peer.name value ∧
        verifySignature peer.verifyKey signature (utf8 (signedText fields)) = true := by
  rw [verify_eq_ok]
  constructor
  · rintro ⟨fields, hfields, ⟨id, entry⟩, hentry, valid⟩
    cases entry with
    | str signature => exact ⟨fields, id, signature, hfields, hentry, valid⟩
    | _ => cases valid
  · rintro ⟨fields, id, signature, hfields, hentry, valid⟩
    exact ⟨fields, hfields, _, hentry, valid⟩

omit [SignatureScheme] in
theorem checkIdentifiers_unsealed : Receiver.checkIdentifiers row.unsealed = Receiver.checkIdentifiers row := rfl

omit [SignatureScheme] in
theorem checkIdentifiers_eq_ok : Receiver.checkIdentifiers row = .ok () ↔
    Address.canonicalize row.medium row.address = .ok row.address ∧ Account.validate row.account = .ok () := by
  rw [Receiver.checkIdentifiers, bind_eq_ok]
  constructor
  · rintro ⟨address, haddress, h⟩
    by_cases same : address = row.address
    · rw [if_neg (not_not.mpr same)] at h
      exact ⟨same ▸ haddress, h⟩
    · rw [if_pos same] at h
      cases h
  · rintro ⟨haddress, haccount⟩
    refine ⟨_, haddress, ?_⟩
    rw [if_neg (not_not.mpr rfl)]
    exact haccount

theorem verified_eq_ok_iff : Receiver.verified peer sent = .ok row ↔
    verify sent.signed peer.name (fun _ => some peer.verifyKey) = .ok () ∧ sent.Gives peer.name row ∧
      Receiver.checkIdentifiers row = .ok () := by
  rw [← read?_eq_some]
  unfold Receiver.verified
  cases verify sent.signed peer.name (fun _ => some peer.verifyKey) with
  | error e => simp
  | ok =>
    cases Receiver.read? peer.name sent with
    | none => simp
    | some r =>
      simp only [true_and, Option.some.injEq]
      constructor
      · intro h
        split at h
        · cases h
        · cases h
          exact ⟨rfl, by assumption⟩
      · rintro ⟨rfl, hcheck⟩
        rw [hcheck]

/-- A receiver takes exactly the records that it trusts. -/
theorem exists_verified_iff : (∃ row, Receiver.verified peer sent = .ok row) ↔ sent.Trusted peer := by
  simp only [verified_eq_ok_iff, checkIdentifiers_eq_ok, verify_peer]
  constructor
  · rintro ⟨row, signed, gives, wellFormed⟩
    exact ⟨signed, row.toNewAssociation, gives.stated, wellFormed⟩
  · rintro ⟨signed, a, stated, wellFormed⟩
    let row : ReplicatedAssociation :=
      { a with
        signedPayload := sent.signed.canonical
        origin := peer.name
        originSequence := sent.sequence
        tombstone := sent.tombstone }
    exact ⟨row, signed, ⟨rfl, rfl, rfl, rfl, stated⟩, wellFormed⟩

theorem Alike.verified (h : Alike peer.name sent other) :
    (Receiver.verified peer sent).map ReplicatedAssociation.unsealed =
      (Receiver.verified peer other).map ReplicatedAssociation.unsealed := by
  unfold Receiver.verified
  rw [verify_congr h.covered h.signatures]
  cases accepted : verify other.signed peer.name (fun _ => some peer.verifyKey) with
  | error e => rfl
  | ok =>
    obtain ⟨fields, object, -⟩ := verify_eq_ok.mp accepted
    have hread : (Receiver.read? peer.name sent).map _ = (Receiver.read? peer.name other).map _ := h.read? object
    cases hsent : Receiver.read? peer.name sent with
    | none =>
      rw [hsent] at hread
      rw [Option.map_eq_none_iff.mp hread.symm]
    | some r =>
      rw [hsent] at hread
      obtain ⟨q, hother, hqr⟩ := Option.map_eq_some_iff.mp hread.symm
      have hcheck : Receiver.checkIdentifiers q = Receiver.checkIdentifiers r := by
        rw [← checkIdentifiers_unsealed, hqr, checkIdentifiers_unsealed]
      rw [hother]
      simp only [hcheck]
      cases Receiver.checkIdentifiers r with
      | error fault => rfl
      | ok => exact congrArg Except.ok hqr.symm

end ReplicatedRecord

/-! ### Batches -/

namespace Receiver
open ReplicatedRecord
variable [SignatureScheme] {peers : List Peer} {origin : String} {batch other : ReplicationBatch}
  {table : ReplicatedTable}

/-- A receiver at work: it verifies all records, and then puts them into the table one by one, with no way back. -/
def receive (peers : List Peer) (origin : String) (batch : ReplicationBatch) :
    ExceptT ServiceError (StateM ReplicatedTable) ReplicationAck := do
  match peerOf? peers origin with
  | none => throw (.notAuthorized origin)
  | some peer =>
    if batch.origin ≠ origin then throw (.notAuthorized batch.origin)
    let records ← batch.records.mapM fun sent => ExceptT.mk (pure (verified peer sent))
    records.forM fun record => modify fun table => (table.apply record).2
    return ⟨greatestSequence batch⟩

omit [SignatureScheme] in
theorem run_forM_apply (records : List ReplicatedAssociation) :
    StateT.run (ExceptT.run (records.forM fun record => modify fun table => (table.apply record).2 :
      ExceptT ServiceError (StateM ReplicatedTable) Unit)) table = (.ok (), table.applyAll records) := by
  induction records generalizing table with
  | nil => rfl
  | cons r rest ih => exact ih

/-- A batch that is refused has left no trace in the table, wherever the bad record stands. -/
theorem run_receive (peers : List Peer) (origin : String) (batch : ReplicationBatch) (table : ReplicatedTable) :
    StateT.run (receive peers origin batch).run table =
      match applyBatch peers origin batch table with
      | .ok (ack, next) => (.ok ack, next)
      | .error e => (.error e, table) := by
  unfold receive applyBatch
  cases peerOf? peers origin with
  | none => rfl
  | some peer =>
    dsimp only
    by_cases horigin : batch.origin = origin
    · rw [if_neg (not_not.mpr horigin), if_neg (not_not.mpr horigin)]
      rw [run_bind, run_mapM_pure]
      cases batch.records.mapM (verified peer) with
      | error e => rfl
      | ok records =>
        dsimp only
        rw [run_bind, run_forM_apply]
        rfl
    · rw [if_pos horigin, if_pos horigin]
      rfl

theorem exists_applyBatch_iff : (∃ ack next, applyBatch peers origin batch table = .ok (ack, next)) ↔
    ∃ peer, peerOf? peers origin = some peer ∧ batch.origin = origin ∧ ∀ sent ∈ batch.records, sent.Trusted peer := by
  simp only [applyBatch_eq_ok, accepted?_eq_some, ← mapM_eq_ok, ← exists_verified_iff, ← exists_mapM_eq_ok]
  constructor
  · rintro ⟨-, -, records, ⟨peer, hpeer, horigin, hrecords⟩, -, -⟩
    exact ⟨peer, hpeer, horigin, records, hrecords⟩
  · rintro ⟨peer, hpeer, horigin, records, hrecords⟩
    exact ⟨_, _, records, ⟨peer, hpeer, horigin, hrecords⟩, rfl, rfl⟩

/-- Batches whose records differ at most in unsigned data and in the signatures of others than the server. -/
structure Alike (server : String) (batch other : ReplicationBatch) : Prop where
  origin : batch.origin = other.origin
  records : List.Forall₂ (ReplicatedRecord.Alike server) batch.records other.records

/-- The answer to a batch, without the texts in the table. -/
def unsealed (answer : Except ServiceError (ReplicationAck × ReplicatedTable)) :
    Except ServiceError (ReplicationAck × ReplicatedTable) :=
  answer.map fun taken => (taken.1, taken.2.unsealed)

omit [SignatureScheme] in
theorem unsealed_applied (ack : ReplicationAck) (records : Except ServiceError (List ReplicatedAssociation)) :
    unsealed (records >>= fun records => pure (ack, table.applyAll records)) =
      (records.map (List.map ReplicatedAssociation.unsealed)).map fun records => (ack, table.unsealed.applyAll records) := by
  cases records with
  | error e => rfl
  | ok records =>
    rw [bind_ok]
    exact congrArg (fun next => Except.ok (ack, next)) (table.unsealed_applyAll records)

/-- Such batches are answered alike, and leave tables that differ in their texts at most. -/
theorem Alike.applyBatch (h : Alike origin batch other) {copy : ReplicatedTable} (same : table.unsealed = copy.unsealed) :
    unsealed (applyBatch peers origin batch table) = unsealed (applyBatch peers origin other copy) := by
  have places : batch.records.map (·.sequence) = other.records.map (·.sequence) := by
    rw [← List.forall₂_eq_eq_eq, List.forall₂_map_left_iff, List.forall₂_map_right_iff]
    exact h.records.imp fun _ _ => ReplicatedRecord.Alike.sequence
  unfold Receiver.applyBatch
  cases hpeer : peerOf? peers origin with
  | none => rfl
  | some peer =>
    obtain rfl := name_of_peerOf? hpeer
    have records := map_mapM_congr (h.records.imp fun _ _ => ReplicatedRecord.Alike.verified)
    dsimp only
    rw [h.origin, greatestSequence, greatestSequence, places]
    split
    · rfl
    · rw [unsealed_applied, unsealed_applied, records, same]

/-- A record with the mark of the other kind spoils every batch, if the signed value is no statement of this kind. -/
theorem refused_of_flipped {sent : ReplicatedRecord} (h : sent.signed.states (!sent.tombstone) = false)
    (hsent : { sent with tombstone := !sent.tombstone } ∈ batch.records) :
    ∃ e, applyBatch peers origin batch table = .error e := by
  cases hanswer : applyBatch peers origin batch table with
  | error e => exact ⟨e, rfl⟩
  | ok taken =>
    obtain ⟨peer, -, -, trusted⟩ := exists_applyBatch_iff.mp ⟨taken.1, taken.2, hanswer⟩
    obtain ⟨a, stated, -⟩ := (trusted _ hsent).stated
    rw [stated.states] at h
    cases h

/-- Of every receiver and every batch: the batch is taken exactly if its sender is a peer under the name it gives, and
    the receiver trusts every record. One that is refused has not touched the table, wherever the bad record stands.
    Every row that is added is what a record gives, and what the record carries besides, unsigned or signed by others,
    shows in the texts only. What a binder has written is never taken with the other mark. -/
theorem batches_trusted {ω : Type} (peers : List Peer) (origin : String) (batch : ReplicationBatch)
    (table : ReplicatedTable) :
    ((∃ ack next, applyBatch peers origin batch table = .ok (ack, next)) ↔
      ∃ peer, peerOf? peers origin = some peer ∧ batch.origin = origin ∧ ∀ sent ∈ batch.records, sent.Trusted peer) ∧
    (StateT.run (receive peers origin batch).run table =
      match applyBatch peers origin batch table with
      | .ok (ack, next) => (.ok ack, next)
      | .error e => (.error e, table)) ∧
    (∀ ack next, applyBatch peers origin batch table = .ok (ack, next) →
      ∀ row ∈ next.rows, row ∈ table.rows ∨ ∃ sent ∈ batch.records, sent.Gives origin row) ∧
    (∀ other copy, Alike origin batch other → table.unsealed = copy.unsealed →
      unsealed (applyBatch peers origin batch table) = unsealed (applyBatch peers origin other copy)) ∧
    ∀ settings (service : Service ω) acts,
      ∀ r ∈ (Ledger.serve settings (Ledger.start service).service acts).database.associations.rows,
        ∃ sent, ReplicatedRecord.ofChange r.toChange = .ok sent ∧
          ({ sent with tombstone := !sent.tombstone } ∈ batch.records →
            ∃ e, applyBatch peers origin batch table = .error e) := by
  refine ⟨exists_applyBatch_iff, run_receive peers origin batch table, ?_, ?_, ?_⟩
  · intro ack next taken row hrow
    obtain ⟨records, hrecords, -, rfl⟩ := applyBatch_eq_ok.mp taken
    rcases ReplicatedTable.mem_applyAll hrow with hrow | hrow
    · exact .inl hrow
    · obtain ⟨sent, hsent, hread, -⟩ := exists_left_of_mem (accepted?_eq_stated hrecords) hrow
      exact .inr ⟨sent, hsent, read?_eq_some.mp hread⟩
  · exact fun other copy alike same => alike.applyBatch same
  · intro settings service acts r hr
    obtain ⟨earlier, act, later, -, -, -, genuine⟩ := Ledger.entries_written settings service acts r hr
    exact ⟨_, genuine.ofChange, refused_of_flipped (r.states_other _ _)⟩

/-- A record with a note that nobody has signed, and with a signature of another server. -/
def annotated (sent : ReplicatedRecord) : ReplicatedRecord :=
  { sent with signed := .obj (Fields.insert "unsigned" (.str "note") (Fields.insert "signatures"
      (.obj [("b.org", .obj [("ed25519:0", .str "AAAA")]), ("c.org", .null)]) ((sent.signed.fields?).getD []))) }

omit [SignatureScheme] in
/-- What is not signed by the sender is kept with the text and has no effect, and a binding that is sent as a removal
    is refused. -/
theorem batches_trusted_annotated :
    let _ : SignatureScheme := .transparent
    let batch := zeroBatch [("a@c.org", 5)]
    let other : ReplicationBatch := ⟨"b.org", [annotated (zeroRecord "a@c.org" 5)]⟩
    let acts : List (Ledger.Act Unit) := [.event (.bind 0 .email "john@example.com" "@john:a.org" true)]
    let log := (Ledger.serve (Ledger.lasting 1000) (Ledger.start (Ledger.fresh [])).service acts).database.associations
    (∃ next, applyBatch [zeroPeer] "b.org" batch {} = .ok (⟨5⟩, next) ∧
      ∀ row ∈ next.rows, ∃ sent ∈ batch.records, sent.Gives "b.org" row) ∧
    unsealed (applyBatch [zeroPeer] "b.org" batch {}) = unsealed (applyBatch [zeroPeer] "b.org" other {}) ∧
    log.rows.length = 1 ∧
    ∀ r ∈ log.rows, ∃ sent, ReplicatedRecord.ofChange r.toChange = .ok sent ∧
      ∃ e, applyBatch [zeroPeer] "b.org" ⟨"b.org", [{ sent with tombstone := !sent.tombstone }]⟩ {} = .error e := by
  intro scheme batch other acts log
  have trusted := @batches_trusted scheme Unit [zeroPeer] "b.org"
  refine ⟨?_, ?_, by decide +kernel +zetaReduce, fun r hr => ?_⟩
  · have accepted : applyBatch [zeroPeer] "b.org" batch {} = .ok (⟨5⟩, _) :=
      applyBatch_of_isSome (by decide +kernel +zetaReduce)
    obtain ⟨-, -, rows, -⟩ := trusted batch {}
    exact ⟨_, accepted, fun row hrow => (rows _ _ accepted row hrow).resolve_left List.not_mem_nil⟩
  · obtain ⟨-, -, -, alike, -⟩ := trusted batch {}
    exact alike other {} ⟨rfl, .cons ⟨rfl, rfl, rfl, rfl⟩ .nil⟩ rfl
  · obtain ⟨-, -, -, -, flipped⟩ := trusted batch {}
    obtain ⟨sent, hsent, -⟩ := flipped (Ledger.lasting 1000) (Ledger.fresh []) acts r hr
    obtain ⟨-, -, -, -, flipped⟩ := trusted ⟨"b.org", [{ sent with tombstone := !sent.tombstone }]⟩ {}
    obtain ⟨same, hsame, refused⟩ := flipped (Ledger.lasting 1000) (Ledger.fresh []) acts r hr
    cases hsent.symm.trans hsame
    exact ⟨sent, hsent, refused List.mem_cons_self⟩

end Receiver

end IdentityServer
