import IdentityServer.Proofs.Binding.GenuineLog
import IdentityServer.Proofs.Replication.Acceptance
import IdentityServer.Proofs.Replication.Replica

/-! # What a receiver makes of a batch

A receiver that knows the sender by its name and its public key accepts every batch of a genuine log. What
it keeps of an entry is the entry itself, with the text that was signed, and it acknowledges the last place
of the batch. -/

namespace IdentityServer
open SignedJson

/-! ### Entries on their way -/

namespace LogRow
variable {r : LogRow}

/-- A removal is kept with the time of the removal as the time at which it begins. -/
theorem ofUnbinding_eq (origin : String) (ht : r.tombstone = true) (hbefore : r.notBefore = r.createdAt)
    (hafter : r.notAfter = none) :
    Receiver.ofUnbinding origin r.signedPayload r.sequence ⟨r.medium, r.address, r.account, r.createdAt⟩ =
      r.replica origin := by
  obtain ⟨⟨medium, address, account, notBefore, notAfter, createdAt, payload⟩, sequence, tombstone, active⟩ := r
  dsimp only at ht hbefore hafter
  rw [ht, hbefore, hafter]
  rfl

theorem ofBinding_eq (origin : String) (ht : r.tombstone = false) :
    Receiver.ofBinding origin r.signedPayload r.sequence r.attestation = r.replica origin := by
  rw [replica, ht]
  rfl

variable [SignatureScheme] {key : KeyPair} {server : String}

/-- A genuine entry as it is sent. -/
def record (key : KeyPair) (server : String) (r : LogRow) : ReplicatedRecord :=
  ⟨r.sequence, r.tombstone, .obj (signedFields key server r.statement)⟩

theorem Genuine.ofChange (h : r.Genuine key server) :
    ReplicatedRecord.ofChange r.toChange = .ok (r.record key server) := by
  rw [ReplicatedRecord.ofChange, toChange_signedPayload, h.signed,
    parse_signed r.ordered_statement r.plain_statement key server]
  simp [record]

/-- What the signed value states is the entry. -/
theorem Genuine.read? (h : r.Genuine key server) :
    Receiver.read? server (r.record key server) = some (r.replica server) := by
  have hpayload : (Json.obj (signedFields key server r.statement)).canonical = r.signedPayload := h.signed.symm
  unfold Receiver.read? record
  simp only [hpayload]
  unfold statement
  cases ht : r.tombstone with
  | true =>
    obtain ⟨hbefore, hafter⟩ := h.tombstone ht
    simp only [if_true, signedFields, UnbindingAttestation.ofJson?_withSignature, Option.map_some,
      ofUnbinding_eq server ht hbefore hafter]
  | false =>
    simp only [Bool.false_eq_true, if_false, signedFields, BindingAttestation.ofJson?_withSignature, Option.map_some,
      ofBinding_eq server ht]

theorem Genuine.checkIdentifiers (h : r.Genuine key server) : Receiver.checkIdentifiers (r.replica server) = .ok () := by
  have haddress : Address.canonicalize (r.replica server).medium (r.replica server).address = .ok r.address := h.address
  have haccount : Account.validate (r.replica server).account = .ok () := h.account
  rw [Receiver.checkIdentifiers, haddress, bind_ok, haccount]
  simp [replica]

/-- A receiver with the public key of the sender keeps a genuine entry as it is. -/
theorem Genuine.verified (h : r.Genuine key server) (lawful : SignatureScheme.Lawful) {peer : Peer}
    (name : peer.name = server) (trusted : peer.verifyKey = key.publicKey) :
    Receiver.verified peer (r.record key server) = .ok (r.replica server) := by
  have accepted : SignedJson.verify (r.record key server).signed server (fun _ => some peer.verifyKey) = .ok () :=
    verify_signedFields lawful (congrArg some trusted)
  unfold Receiver.verified
  simp only [name, accepted, h.read?, h.checkIdentifiers]

end LogRow

/-! ### Batches -/

namespace Receiver

/-- The last place of a batch in the order of the log is the greatest one. -/
theorem greatestSequence_eq {batch : ReplicationBatch} {last : Int64}
    (ascending : batch.records.Pairwise fun a b => a.sequence < b.sequence) (hlast : batch.lastSequence? = some last) :
    greatestSequence batch = last := by
  rw [ReplicationBatch.lastSequence?, ← List.getLast?_map] at hlast
  have hplaces : (batch.records.map (·.sequence)).Pairwise (· < ·) := List.pairwise_map.mpr ascending
  have greatest : (batch.records.map (·.sequence)).max? = some last := by
    refine List.max?_eq_some_iff.mpr ⟨List.mem_of_getLast? hlast, fun n hn => ?_⟩
    obtain ⟨front, hfront⟩ := List.getLast?_eq_some_iff.mp hlast
    rw [hfront] at hplaces hn
    rcases List.mem_append.mp hn with hn | hn
    · exact Int64.le_of_lt ((List.pairwise_append.mp hplaces).2.2 n hn last (by simp))
    · rw [List.mem_singleton.mp hn]
      exact Int64.le_refl _
  rw [greatestSequence, greatest, Option.getD_some]

end Receiver

/-- The entries of a page of a genuine log can always be sent. -/
theorem Sender.ofChanges_page [SignatureScheme] {key : KeyPair} {db : Database} (settings : ServiceSettings)
    (receiver : Peer) (genuine : db.associations.Genuine key settings.serverName) :
    ReplicationBatch.ofChanges settings.serverName (page settings receiver db) =
      .ok ⟨settings.serverName, (db.associations.rowsSince (db.cursors.get receiver.name) settings.batchLimit).map
        (LogRow.record key settings.serverName)⟩ := by
  refine ofChanges_eq_ok.mpr ⟨rfl, ?_⟩
  rw [page, AssociationLog.changesSince_eq_rows, List.forall₂_map_left_iff, List.forall₂_map_right_iff,
    List.forall₂_same]
  exact fun r hr => (genuine r (AssociationLog.mem_of_mem_rowsSince hr)).ofChange

namespace Sender.Sends
variable {settings : ServiceSettings} {receiver : Peer} {db : Database} {batch : ReplicationBatch} {last : Int64}

theorem records_ascending (h : Sends settings receiver db batch last) (sound : db.associations.Sound) :
    batch.records.Pairwise fun a b => a.sequence < b.sequence := by
  have hpage : (page settings receiver db).Pairwise fun a b => a.sequence < b.sequence := by
    rw [page, AssociationLog.changesSince_eq]
    exact (sound.changes_ascending.filter _).sublist (List.take_sublist ..)
  have hplaces := List.pairwise_map.mpr hpage
  rw [sequences_ofChange h.records] at hplaces
  exact List.pairwise_map.mp hplaces

variable [SignatureScheme] {key : KeyPair}

theorem records_eq (h : Sends settings receiver db batch last) (genuine : db.associations.Genuine key settings.serverName) :
    batch.records = (db.associations.rowsSince (db.cursors.get receiver.name) settings.batchLimit).map
      (LogRow.record key settings.serverName) := by
  have hbatch := h.batch_eq.symm.trans (ofChanges_page settings receiver genuine)
  cases hbatch
  rfl

/-- A receiver that knows the sender and its key accepts what it sends, acknowledges its last place and
    applies the entries of the page. -/
theorem applyBatch_eq (h : Sends settings receiver db batch last) (sound : db.associations.Sound)
    (genuine : db.associations.Genuine key settings.serverName) (lawful : SignatureScheme.Lawful) {peers : List Peer}
    {entry : Peer} (known : Receiver.peerOf? peers settings.serverName = some entry)
    (trusted : entry.verifyKey = key.publicKey) (table : ReplicatedTable) :
    Receiver.applyBatch peers settings.serverName batch table =
      .ok (⟨last⟩, table.applyAll
        ((db.associations.rowsSince (db.cursors.get receiver.name) settings.batchLimit).map
          (LogRow.replica settings.serverName))) := by
  have origin : batch.origin = settings.serverName := (ofChanges_eq_ok.mp h.batch_eq).1
  have hverified : Receiver.accepted? peers settings.serverName batch =
      some ((db.associations.rowsSince (db.cursors.get receiver.name) settings.batchLimit).map
        (LogRow.replica settings.serverName)) := by
    refine Receiver.accepted?_eq_some.mpr ⟨entry, known, origin, ?_⟩
    rw [h.records_eq genuine, List.forall₂_map_left_iff, List.forall₂_map_right_iff, List.forall₂_same]
    exact fun r hr => (genuine r (AssociationLog.mem_of_mem_rowsSince hr)).verified lawful
      (Receiver.name_of_peerOf? known) trusted
  refine Receiver.applyBatch_eq_ok.mpr ⟨_, hverified, ?_, rfl⟩
  rw [Receiver.greatestSequence_eq (h.records_ascending sound) h.last_eq]

end Sender.Sends

end IdentityServer
