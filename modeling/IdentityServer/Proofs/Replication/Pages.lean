import IdentityServer.Proofs.Replication.Push
import IdentityServer.Proofs.Store.LogReplay

/-! # Pages of the log

A page holds the entries that come next after a place, so the entries up to the last place of a page are
those up to the place before it and the page. What is put at the end of the log is beyond every place that
was reached before. -/

namespace IdentityServer

/-! ### Ascending lists -/

section Ascending
variable {α : Type} {key : α → Int64} {l : List α}

theorem split_at_place (h : l.Pairwise fun a b => key a < key b) (place : Int64) :
    l = (l.filter fun a => key a ≤ place) ++ l.filter fun a => place < key a := by
  induction l with
  | nil => rfl
  | cons a l ih =>
    obtain ⟨hhead, htail⟩ := List.pairwise_cons.mp h
    by_cases ha : key a ≤ place
    · have ha' : ¬ place < key a := Int64.not_lt.mpr ha
      simp only [List.filter_cons, ha, ha', decide_true, decide_false, if_true, List.cons_append]
      exact congrArg (a :: ·) (ih htail)
    · have above : ∀ b ∈ a :: l, place < key b := by
        intro b hb
        rcases List.mem_cons.mp hb with rfl | hb
        · exact Int64.not_le.mp ha
        · exact Int64.lt_trans (Int64.not_le.mp ha) (hhead b hb)
      rw [List.filter_eq_nil_iff.mpr fun b hb => by simpa using above b hb, List.nil_append]
      exact (List.filter_eq_self.mpr fun b hb => by simpa using above b hb).symm

/-- The elements up to the last one of a page are those before the page and the page. -/
theorem filter_le_last (h : l.Pairwise fun a b => key a < key b) {place : Int64} {limit : Nat} {x : α}
    (hx : ((l.filter fun a => place < key a).take limit).getLast? = some x) :
    (l.filter fun a => key a ≤ key x) =
      (l.filter fun a => key a ≤ place) ++ (l.filter fun a => place < key a).take limit := by
  have hsplit := split_at_place h place
  have hafter : (l.filter fun a => place < key a).Pairwise fun a b => key a < key b := h.filter _
  have hplace : place < key x := by
    simpa using (List.mem_filter.mp (List.mem_of_mem_take (List.mem_of_getLast? hx))).2
  have hbefore : ∀ a ∈ l.filter fun a => key a ≤ place, key a ≤ key x := by
    intro a ha
    exact Int64.le_trans (by simpa using (List.mem_filter.mp ha).2) (Int64.le_of_lt hplace)
  generalize (l.filter fun a => place < key a) = after at hsplit hafter hx ⊢
  generalize (l.filter fun a => key a ≤ place) = before at hsplit hbefore ⊢
  obtain ⟨page, hpage⟩ := List.getLast?_eq_some_iff.mp hx
  rw [← List.take_append_drop limit after, hpage, List.append_assoc, List.pairwise_append] at hafter
  obtain ⟨-, hrest, hpagex⟩ := hafter
  have hup : ∀ a ∈ page ++ [x], key a ≤ key x := by
    intro a ha
    rcases List.mem_append.mp ha with ha | ha
    · exact Int64.le_of_lt (hpagex a ha x (by simp))
    · rw [List.mem_singleton.mp ha]
      exact Int64.le_refl _
  have hbeyond : ∀ a ∈ after.drop limit, ¬ key a ≤ key x := fun a ha =>
    Int64.not_le.mpr ((List.pairwise_cons.mp hrest).1 a ha)
  calc l.filter (fun a => key a ≤ key x)
      = (before ++ (after.take limit ++ after.drop limit)).filter (fun a => key a ≤ key x) := by
        rw [List.take_append_drop, ← hsplit]
    _ = before ++ after.take limit := by
        rw [List.filter_append, List.filter_append, hpage, List.filter_eq_self.mpr fun a ha => by simpa using hbefore a ha,
          List.filter_eq_self.mpr fun a ha => by simpa using hup a ha,
          List.filter_eq_nil_iff.mpr fun a ha => by simpa using hbeyond a ha, List.append_nil]

/-- From a place on that is not before the page, the page brings what it holds beyond this place. -/
theorem filter_le_last_beyond (h : l.Pairwise fun a b => key a < key b) {cursor place : Int64} {limit : Nat} {x : α}
    (hx : ((l.filter fun a => cursor < key a).take limit).getLast? = some x) (hcursor : cursor ≤ place)
    (hplace : place ≤ key x) :
    (l.filter fun a => key a ≤ key x) =
      (l.filter fun a => key a ≤ place) ++
        ((l.filter fun a => cursor < key a).take limit).filter fun a => place < key a := by
  have hbefore : ((l.filter fun a => key a ≤ key x).filter fun a => key a ≤ place) =
      l.filter fun a => key a ≤ place := by
    rw [List.filter_filter]
    refine List.filter_congr fun a _ => ?_
    by_cases ha : key a ≤ place
    · simp [ha, Int64.le_trans ha hplace]
    · simp [ha]
  have hbeyond : ((l.filter fun a => key a ≤ key x).filter fun a => place < key a) =
      ((l.filter fun a => cursor < key a).take limit).filter fun a => place < key a := by
    rw [filter_le_last h hx, List.filter_append, List.filter_eq_nil_iff.mpr, List.nil_append]
    intro a ha
    have hle : key a ≤ cursor := by simpa using (List.mem_filter.mp ha).2
    simpa using Int64.le_trans hle hcursor
  rw [← hbefore, ← hbeyond]
  exact split_at_place (h.filter _) place

end Ascending

/-! ### Pages -/

namespace AssociationLog
variable {log next : AssociationLog}

/-- The entries up to a place. -/
def through (log : AssociationLog) (place : Int64) : List Change :=
  log.changes.filter fun c => c.sequence ≤ place

/-- The entries after a place. -/
def beyond (log : AssociationLog) (place : Int64) : List Change :=
  log.changes.filter fun c => place < c.sequence

theorem changesSince_eq (cursor : Int64) (limit : Nat) : log.changesSince cursor limit = (log.beyond cursor).take limit := by
  rw [changesSince, beyond, changes, List.filter_map, ← List.map_take]
  congr 3
  funext r
  simp

theorem changes_ascending (ascending : log.rows.Pairwise fun a b => a.sequence < b.sequence) :
    log.changes.Pairwise fun a b => a.sequence < b.sequence := by
  rw [changes, List.pairwise_map]
  simpa using ascending

theorem Sound.changes_ascending (h : log.Sound) : log.changes.Pairwise fun a b => a.sequence < b.sequence :=
  AssociationLog.changes_ascending h.ascending

theorem Sound.changes_bounded (h : log.Sound) : ∀ c ∈ log.changes, 0 < c.sequence ∧ c.sequence ≤ log.last := by
  intro c hc
  obtain ⟨r, hr, rfl⟩ := List.mem_map.mp hc
  rw [LogRow.toChange_sequence]
  exact h.bounded r hr

/-! Only the numbers have to ascend for these; a log may otherwise be in any state. -/

section Ascending
variable {cursor : Int64} {limit : Nat} {c : Change}

theorem through_append_beyond (ascending : log.changes.Pairwise fun a b => a.sequence < b.sequence) (place : Int64) :
    log.through place ++ log.beyond place = log.changes :=
  (split_at_place ascending place).symm

/-- A page brings the entries up to its last place. -/
theorem through_page (ascending : log.changes.Pairwise fun a b => a.sequence < b.sequence)
    (hc : (log.changesSince cursor limit).getLast? = some c) :
    log.through c.sequence = log.through cursor ++ log.changesSince cursor limit := by
  rw [changesSince_eq] at hc ⊢
  exact filter_le_last ascending hc

/-- What is beyond the last place of a page is what was beyond the cursor, without the page. -/
theorem beyond_page (ascending : log.changes.Pairwise fun a b => a.sequence < b.sequence)
    (hc : (log.changesSince cursor limit).getLast? = some c) : log.beyond c.sequence = (log.beyond cursor).drop limit := by
  have parts : log.changesSince cursor limit ++ log.beyond c.sequence = log.beyond cursor := by
    refine @List.append_cancel_left _ (log.through cursor) _ _ ?_
    rw [← List.append_assoc, ← through_page ascending hc, through_append_beyond ascending, through_append_beyond ascending]
  rw [changesSince_eq] at parts
  exact List.append_cancel_left (parts.trans (List.take_append_drop limit _).symm)

end Ascending

/-- An entry that is put to the log is beyond every place that was reached. -/
theorem Extends.written_through (h : Extends log next) {place : Int64} (hplace : place ≤ log.last) :
    (next.written.filter fun r => r.sequence ≤ place) = log.written.filter fun r => r.sequence ≤ place := by
  obtain ⟨added, hadded, -, above⟩ := h
  rw [hadded, List.filter_append, List.append_right_eq_self, List.filter_eq_nil_iff]
  intro r hr
  simpa using Int64.lt_of_le_of_lt hplace (above r hr)

theorem through_eq_written (place : Int64) :
    log.through place = (log.written.filter fun r => r.sequence ≤ place).map LogRow.toChange := by
  rw [through, changes_eq_written, List.filter_map]
  congr 2
  funext r
  simp

theorem Extends.through_eq (h : Extends log next) {place : Int64} (hplace : place ≤ log.last) :
    next.through place = log.through place := by
  rw [through_eq_written, through_eq_written, h.written_through hplace]

end AssociationLog

/-! ### Batches -/

theorem ReplicatedRecord.sequence_ofChange {c : Change} {r : ReplicatedRecord} (h : ofChange c = .ok r) :
    r.sequence = c.sequence := by
  unfold ofChange at h
  split at h
  · cases h
    rfl
  · cases h

theorem sequences_ofChange {changes : List Change} {records : List ReplicatedRecord}
    (h : List.Forall₂ (fun c r => ReplicatedRecord.ofChange c = .ok r) changes records) :
    changes.map Change.sequence = records.map ReplicatedRecord.sequence := by
  induction h with
  | nil => rfl
  | cons hr _ ih => rw [List.map_cons, List.map_cons, ih, ReplicatedRecord.sequence_ofChange hr]

namespace Sender.Sends
variable {settings : ServiceSettings} {peer : Peer} {db : Database} {batch : ReplicationBatch} {last : Int64}

theorem records (h : Sends settings peer db batch last) :
    List.Forall₂ (fun c r => ReplicatedRecord.ofChange c = .ok r) (page settings peer db) batch.records :=
  (ofChanges_eq_ok.mp h.batch_eq).2

theorem length_eq (h : Sends settings peer db batch last) :
    batch.records.length = (page settings peer db).length :=
  h.records.length_eq.symm

/-- A batch ends with the last entry of the page. -/
theorem last_entry (h : Sends settings peer db batch last) :
    ∃ c, (page settings peer db).getLast? = some c ∧ c.sequence = last := by
  have hlast := h.last_eq
  rw [ReplicationBatch.lastSequence?, ← List.getLast?_map, ← sequences_ofChange h.records, List.getLast?_map] at hlast
  exact Option.map_eq_some_iff.mp hlast

theorem length_pos (h : Sends settings peer db batch last) : 1 ≤ batch.records.length := by
  obtain ⟨c, hc, -⟩ := h.last_entry
  rw [h.length_eq]
  exact List.length_pos_of_mem (List.mem_of_getLast? hc)

theorem length_le (h : Sends settings peer db batch last) : batch.records.length ≤ settings.batchLimit := by
  rw [h.length_eq, page, AssociationLog.changesSince, List.length_map]
  exact List.length_take_le ..

theorem cursor_lt (h : Sends settings peer db batch last) : db.cursors.get peer.name < last := by
  obtain ⟨c, hc, rfl⟩ := h.last_entry
  have hmem := List.mem_of_getLast? hc
  rw [page, AssociationLog.changesSince_eq] at hmem
  simpa using (List.mem_filter.mp (List.mem_of_mem_take hmem)).2

theorem last_le (h : Sends settings peer db batch last) (sound : db.associations.Sound) :
    last ≤ db.associations.last := by
  obtain ⟨c, hc, rfl⟩ := h.last_entry
  have hmem := List.mem_of_getLast? hc
  rw [page, AssociationLog.changesSince_eq] at hmem
  exact (sound.changes_bounded c (List.mem_filter.mp (List.mem_of_mem_take hmem)).1).2

theorem through_last (h : Sends settings peer db batch last) (sound : db.associations.Sound) :
    db.associations.through last = db.associations.through (db.cursors.get peer.name) ++ page settings peer db := by
  obtain ⟨c, hc, rfl⟩ := h.last_entry
  exact AssociationLog.through_page sound.changes_ascending hc

end Sender.Sends

/-! ### Cursors -/

theorem CursorTable.get_advance (table : CursorTable) (peer name : String) (position now : Int64) :
    (table.advance peer position now).get name =
      if peer = name then
        match table.rows.get? peer with
        | some cursor => max cursor.position position
        | none => position
      else table.get name := by
  unfold advance get
  rw [Dictionary.get?_insert]
  split <;> rfl

/-- A cursor that is moved on is at its new place. -/
theorem CursorTable.get_advance_self {table : CursorTable} {peer : String} {position : Int64} (now : Int64)
    (h : table.get peer < position) : (table.advance peer position now).get peer = position := by
  rw [get_advance, if_pos rfl]
  unfold get at h
  split
  · rename_i cursor hcursor
    rw [hcursor] at h
    exact if_pos (Int64.le_of_lt h)
  · rfl

theorem CursorTable.get_advance_other {table : CursorTable} {peer name : String} (position now : Int64)
    (h : name ≠ peer) : (table.advance peer position now).get name = table.get name := by
  rw [get_advance, if_neg h.symm]

end IdentityServer
