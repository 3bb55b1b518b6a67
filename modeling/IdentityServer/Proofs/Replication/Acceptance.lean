import IdentityServer.Proofs.Association.Attestation
import IdentityServer.Proofs.Outcome
import IdentityServer.Proofs.Store.Convergence
import IdentityServer.Proofs.Text.Integer
import IdentityServer.Replication.Receiver

/-! # Taking batches

A batch is accepted exactly if the receiver can verify every record of it, and what it verified is then
applied record by record. So the table that calls leave depends on the records alone, not on how they were
split into batches, and an acknowledged record is lost only if two identifiers claim one place of one
origin. -/

namespace IdentityServer.Receiver

theorem name_of_peerOf? {peers : List Peer} {name : String} {peer : Peer} (h : peerOf? peers name = some peer) :
    peer.name = name := by
  have hfound := List.find?_some h
  exact beq_iff_eq.mp hfound

theorem le_greatestSequence {batch : ReplicationBatch} {sent : ReplicatedRecord} (h : sent ∈ batch.records) :
    sent.sequence ≤ greatestSequence batch := by
  have hplace : sent.sequence ∈ batch.records.map (·.sequence) := List.mem_map_of_mem h
  rw [greatestSequence]
  cases hmax : (batch.records.map (·.sequence)).max? with
  | none =>
    rw [List.max?_eq_none_iff.mp hmax] at hplace
    cases hplace
  | some greatest => exact (List.max?_eq_some_iff.mp hmax).2 _ hplace

section Batches
variable [SignatureScheme] {peers : List Peer} {origin : String} {batch : ReplicationBatch}
  {table next : ReplicatedTable} {ack : ReplicationAck} {records : List ReplicatedAssociation}

/-- The records that a receiver takes from a batch of a server; nothing if it refuses the batch. -/
def accepted? (peers : List Peer) (origin : String) (batch : ReplicationBatch) : Option (List ReplicatedAssociation) :=
  match peerOf? peers origin with
  | none => none
  | some peer => if batch.origin = origin then (batch.records.mapM (verified peer)).toOption else none

theorem accepted?_eq_some :
    accepted? peers origin batch = some records ↔ ∃ peer, peerOf? peers origin = some peer ∧ batch.origin = origin ∧
      List.Forall₂ (fun sent kept => verified peer sent = .ok kept) batch.records records := by
  unfold accepted?
  cases hpeer : peerOf? peers origin with
  | none => simp
  | some peer =>
    simp only [Option.some.injEq, exists_eq_left', ← mapM_eq_ok]
    split
    · rename_i horigin
      cases batch.records.mapM (verified peer) <;> simp [Except.toOption, horigin]
    · rename_i horigin
      simp [horigin]

theorem applyBatch_eq_ok :
    applyBatch peers origin batch table = .ok (ack, next) ↔
      ∃ records, accepted? peers origin batch = some records ∧ ack = ⟨greatestSequence batch⟩ ∧
        next = table.applyAll records := by
  simp only [accepted?_eq_some]
  unfold applyBatch
  cases hpeer : peerOf? peers origin with
  | none => simp
  | some peer =>
    by_cases horigin : batch.origin = origin
    · simp only [horigin, ne_eq, not_true_eq_false, if_false, bind_eq_ok, mapM_eq_ok]
      constructor
      · rintro ⟨records, hrecords, hanswer⟩
        cases hanswer
        exact ⟨records, ⟨peer, rfl, trivial, hrecords⟩, rfl, rfl⟩
      · rintro ⟨records, ⟨_, hpeer', -, hrecords⟩, rfl, rfl⟩
        cases hpeer'
        exact ⟨records, hrecords, rfl⟩
    · simp only [ne_eq, horigin, not_false_eq_true, if_true]
      refine ⟨nofun, ?_⟩
      rintro ⟨-, ⟨-, -, hsame, -⟩, -⟩
      cases hsame

theorem applyBatch_of_isSome (h : (accepted? peers origin batch).isSome = true) :
    applyBatch peers origin batch table =
      .ok (⟨greatestSequence batch⟩, table.applyAll ((accepted? peers origin batch).getD [])) := by
  obtain ⟨records, hrecords⟩ := Option.isSome_iff_exists.mp h
  refine applyBatch_eq_ok.mpr ⟨records, hrecords, rfl, ?_⟩
  rw [hrecords, Option.getD_some]

/-- What is kept of a record is what its signed value states, at the place and of the origin of the record. -/
theorem verified_eq_ok {peer : Peer} {sent : ReplicatedRecord} {kept : ReplicatedAssociation}
    (h : verified peer sent = .ok kept) :
    read? peer.name sent = some kept ∧ kept.origin = peer.name ∧ kept.originSequence = sent.sequence := by
  unfold verified at h
  split at h
  · cases h
  · split at h
    · cases h
    · rename_i r hread
      split at h
      · cases h
      · cases h
        refine ⟨hread, ?_⟩
        unfold read? at hread
        split at hread
        · obtain ⟨a, -, rfl⟩ := Option.map_eq_some_iff.mp hread
          exact ⟨rfl, rfl⟩
        · obtain ⟨a, -, rfl⟩ := Option.map_eq_some_iff.mp hread
          exact ⟨rfl, rfl⟩

/-- What a receiver takes from a batch is what the signed values of the batch state. -/
theorem accepted?_eq_stated (h : accepted? peers origin batch = some records) :
    List.Forall₂ (fun sent kept => read? origin sent = some kept ∧ kept.origin = origin ∧
      kept.originSequence = sent.sequence) batch.records records := by
  obtain ⟨peer, hpeer, -, hrecords⟩ := accepted?_eq_some.mp h
  have hname := name_of_peerOf? hpeer
  subst hname
  exact hrecords.imp fun _ _ => verified_eq_ok

/-! ### What an acknowledgement covers -/

/-- Of the identifier of every record of an accepted batch the table keeps that record or a newer one, unless a
    record of another identifier has claimed its place. The acknowledgement counts it either way. -/
theorem acknowledged_kept (accepted : applyBatch peers origin batch table = .ok (ack, next)) :
    ∀ sent ∈ batch.records, sent.sequence ≤ ack.lastApplied ∧ ∃ stated, read? origin sent = some stated ∧
      ((∃ row ∈ next.rows, row.origin = origin ∧ row.identifier = stated.identifier ∧
          sent.sequence ≤ row.originSequence) ∨
        ∃ rival, (rival ∈ table.rows ∨ ∃ other ∈ batch.records, read? origin other = some rival) ∧
          rival.origin = origin ∧ rival.originSequence = sent.sequence ∧ rival.identifier ≠ stated.identifier) := by
  obtain ⟨records, hrecords, rfl, rfl⟩ := applyBatch_eq_ok.mp accepted
  have stated := accepted?_eq_stated hrecords
  intro sent hsent
  refine ⟨le_greatestSequence hsent, ?_⟩
  obtain ⟨r, hr, hread, horigin, hplace⟩ := exists_right_of_mem stated hsent
  refine ⟨r, hread, ?_⟩
  rcases ReplicatedTable.covers_applyAll_or table hr with
    ⟨row, hrow, hsame, hle⟩ | ⟨rival, hrival, hrorigin, hrplace, hid⟩
  · obtain ⟨hroworigin, hrowid⟩ := ReplicatedAssociation.sameSubject_iff.mp hsame
    exact .inl ⟨row, hrow, hroworigin.trans horigin, hrowid, hplace ▸ hle⟩
  · refine .inr ⟨rival, ?_, hrorigin.trans horigin, hrplace.trans hplace, hid⟩
    rcases List.mem_append.mp hrival with hrival | hrival
    · exact .inl hrival
    · obtain ⟨other, hother, hstated, -⟩ := exists_left_of_mem stated hrival
      exact .inr ⟨other, hother, hstated⟩

end Batches

/-- A server whose key and signatures are three zero bytes. -/
def zeroPeer : Peer := ⟨"b.org", "https://b.org", "AAAA"⟩

/-- The record of a binding of an email address by this server, at a place in its log. -/
def zeroRecord (address : String) (sequence : Int64) : ReplicatedRecord where
  sequence := sequence
  tombstone := false
  signed := .obj (SignedJson.withSignature "ed25519:0" "b.org" "AAAA"
    (BindingAttestation.mk .email address "@john:b.org" 0 none 0).fields)

def zeroBatch (records : List (String × Int64)) : ReplicationBatch :=
  ⟨"b.org", records.map fun r => zeroRecord r.1 r.2⟩

/-- A batch in which an older record of the same identifier comes last. -/
theorem acknowledged_kept_stale :
    let _ : SignatureScheme := .transparent
    let batch := zeroBatch [("a@c.org", 5), ("a@c.org", 4)]
    (∃ next, applyBatch [zeroPeer] "b.org" batch {} = .ok (⟨5⟩, next) ∧ next.rows.map (·.originSequence) = [5]) ∧
    ∀ sent ∈ batch.records, sent.sequence ≤ 5 := by
  intro scheme batch
  have accepted : applyBatch [zeroPeer] "b.org" batch {} = .ok (⟨5⟩, _) :=
    applyBatch_of_isSome (by decide +kernel +zetaReduce)
  exact ⟨⟨_, accepted, by decide +kernel +zetaReduce⟩, fun sent hsent => (acknowledged_kept accepted sent hsent).1⟩

/-- Of two records of different identifiers in one place the second one is acknowledged and lost. -/
theorem displaced_record_acknowledged :
    let _ : SignatureScheme := .transparent
    let batch := zeroBatch [("a@c.org", 5), ("d@c.org", 5)]
    ∃ next, applyBatch [zeroPeer] "b.org" batch {} = .ok (⟨5⟩, next) ∧
      (∃ sent ∈ batch.records, (read? "b.org" sent).map (·.identifier) = some ⟨.email, "d@c.org"⟩) ∧
      ∀ row ∈ next.rows, row.identifier ≠ ⟨.email, "d@c.org"⟩ := by
  intro scheme batch
  have accepted : applyBatch [zeroPeer] "b.org" batch {} = .ok (⟨5⟩, _) :=
    applyBatch_of_isSome (by decide +kernel +zetaReduce)
  exact ⟨_, accepted, by decide +kernel +zetaReduce, by decide +kernel +zetaReduce⟩

/-! ### Calls -/

section Calls
variable [SignatureScheme] {peers : List Peer} {table : ReplicatedTable}

/-- A call that hands records to a table: one record, or a batch that `origin` has sent. -/
inductive Call where
  | record (r : ReplicatedAssociation)
  | batch (origin : String) (batch : ReplicationBatch)

namespace Call

/-- The records that a call applies, in their order. A batch that is refused has none. -/
def applied (peers : List Peer) : Call → List ReplicatedAssociation
  | .record r => [r]
  | .batch origin sent => (accepted? peers origin sent).getD []

/-- The table after a call. A batch that is refused leaves it as it is. -/
def after (peers : List Peer) (table : ReplicatedTable) : Call → ReplicatedTable
  | .record r => (table.apply r).2
  | .batch origin sent =>
    match applyBatch peers origin sent table with
    | .ok (_, next) => next
    | .error _ => table

theorem after_eq (call : Call) : call.after peers table = table.applyAll (call.applied peers) := by
  cases call with
  | record r => rfl
  | batch origin sent =>
    rw [after, applied]
    split
    · rename_i ack next haccepted
      obtain ⟨records, hrecords, -, rfl⟩ := applyBatch_eq_ok.mp haccepted
      rw [hrecords, Option.getD_some]
    · rename_i e hrefused
      cases hrecords : accepted? peers origin sent with
      | none => rfl
      | some records =>
        have haccepted : applyBatch peers origin sent table = .ok (_, table.applyAll records) :=
          applyBatch_eq_ok.mpr ⟨records, hrecords, rfl, rfl⟩
        rw [hrefused] at haccepted
        cases haccepted

end Call

def run (peers : List Peer) (table : ReplicatedTable) (calls : List Call) : ReplicatedTable :=
  calls.foldl (Call.after peers) table

/-- The records that calls apply, in their order. -/
def handed (peers : List Peer) (calls : List Call) : List ReplicatedAssociation :=
  calls.flatMap (Call.applied peers)

theorem run_eq (calls : List Call) : run peers table calls = table.applyAll (handed peers calls) := by
  induction calls generalizing table with
  | nil => rfl
  | cons call rest ih =>
    rw [handed, List.flatMap_cons, ReplicatedTable.applyAll_append, ← call.after_eq]
    exact ih

/-- Two runs of calls on an empty table that apply the same records, in any order and any number of times,
    leave the same table, if no two different records claim one place of one origin: the rows are records
    that were applied, and of the identifier of every one of them there is exactly one row, the record of the
    highest place. A record is kept at its turn exactly if it is newer than all that were applied for its
    origin and identifier before. -/
theorem calls_converge (peers : List Peer) (calls others : List Call)
    (same : ∀ r, r ∈ handed peers calls ↔ r ∈ handed peers others) (own : OwnPlaces (handed peers calls)) :
    let table := run peers {} calls
    table.ordered = (run peers {} others).ordered ∧ table.rows.Perm (run peers {} others).rows ∧
    (∀ r ∈ table.rows, r ∈ handed peers calls) ∧
    (∀ r ∈ handed peers calls, ∃ q ∈ handed peers calls, table.rows.filter (fun p => p.sameSubject r) = [q] ∧
      ∀ p ∈ handed peers calls, p.sameSubject r = true → p.originSequence ≤ q.originSequence) ∧
    ∀ before r after, handed peers calls = before ++ r :: after →
      (((({} : ReplicatedTable).applyAll before).apply r).1 = true ↔
        ∀ q ∈ before, q.sameSubject r = true → q.originSequence < r.originSequence) := by
  intro table
  have others_own : OwnPlaces (handed peers others) := fun a ha b hb =>
    own a ((same a).mpr ha) b ((same b).mpr hb)
  have rows_iff : ∀ r, r ∈ table.rows ↔ r ∈ (run peers {} others).rows := by
    intro r
    simp only [table, run_eq, ReplicatedTable.mem_applyAll_empty_iff own,
      ReplicatedTable.mem_applyAll_empty_iff others_own, same]
  have perm : table.rows.Perm (run peers {} others).rows := by
    have nodup : ∀ calls : List Call, (run peers {} calls).rows.Nodup := by
      intro calls
      rw [run_eq]
      exact (ReplicatedTable.OneEach.applyAll .nil _).nodup
    exact (List.perm_ext_iff_of_nodup (nodup calls) (nodup others)).mpr rows_iff
  have htable : table = ({} : ReplicatedTable).applyAll (handed peers calls) := run_eq calls
  have known : ∀ r ∈ table.rows, r ∈ handed peers calls := by
    intro r hr
    rw [htable, ReplicatedTable.mem_applyAll_empty_iff own] at hr
    exact hr.1
  refine ⟨ReplicatedTable.ordered_eq (fun a ha b hb => own a (known a ha) b (known b hb)) perm, perm, known, ?_, ?_⟩
  · intro r hr
    rw [htable]
    exact ReplicatedTable.kept_of_mem own hr
  · intro before r after hsplit
    refine ReplicatedTable.apply_applyAll_iff fun a ha b hb => own a ?_ b ?_
    · rw [hsplit, List.append_cons]
      exact List.mem_append_left _ ha
    · rw [hsplit, List.append_cons]
      exact List.mem_append_left _ hb

end Calls

/-- Three records in the order of their places, and the last one of them before, between and after. -/
theorem calls_converge_shuffled :
    let _ : SignatureScheme := .transparent
    let calls : List Call := [.batch "b.org" (zeroBatch [("a@c.org", 1), ("d@c.org", 2), ("a@c.org", 3)])]
    let others : List Call := [.batch "b.org" (zeroBatch [("a@c.org", 3), ("a@c.org", 1)]),
      .batch "b.org" (zeroBatch [("a@c.org", 3), ("d@c.org", 2), ("a@c.org", 3)])]
    (run [zeroPeer] {} calls).ordered = (run [zeroPeer] {} others).ordered ∧
    (run [zeroPeer] {} calls).rows.map (·.originSequence) = [2, 3] := by
  intro scheme calls others
  have own : OwnPlaces (handed [zeroPeer] calls) := by decide +kernel +zetaReduce
  have there : ∀ r ∈ handed [zeroPeer] calls, r ∈ handed [zeroPeer] others := by decide +kernel +zetaReduce
  have back : ∀ r ∈ handed [zeroPeer] others, r ∈ handed [zeroPeer] calls := by decide +kernel +zetaReduce
  have converged := calls_converge [zeroPeer] calls others (fun r => ⟨there r, back r⟩) own
  exact ⟨converged.1, by decide +kernel +zetaReduce⟩

end IdentityServer.Receiver
