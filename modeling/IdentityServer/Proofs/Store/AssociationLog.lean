import IdentityServer.Proofs.Outcome

/-! # What a call writes to the log

A call on the store of associations fails, finds nothing to do, or puts one entry at the end of the log
under the number after the greatest one and takes the mark from the entry that was active for the same
identifier. What is written once stays: the marks apart, the log only grows. -/

namespace IdentityServer

/-- The entry without its mark, if it has one and satisfies `p`. -/
def LogRow.cleared (p : LogRow → Bool) (r : LogRow) : LogRow :=
  if r.active && p r then { r with active := false } else r

/-- The entry as it was written, whether it is still active or not. -/
def LogRow.written (r : LogRow) : LogRow :=
  { r with active := false }

namespace LogRow
variable {p : LogRow → Bool} {r : LogRow}

@[simp] theorem cleared_sequence : (r.cleared p).sequence = r.sequence := by
  unfold cleared
  split <;> rfl

@[simp] theorem cleared_identifier : (r.cleared p).identifier = r.identifier := by
  unfold cleared
  split <;> rfl

@[simp] theorem cleared_tombstone : (r.cleared p).tombstone = r.tombstone := by
  unfold cleared
  split <;> rfl

@[simp] theorem cleared_written : (r.cleared p).written = r.written := by
  unfold cleared
  split <;> rfl

@[simp] theorem cleared_active : (r.cleared p).active = (r.active && !p r) := by
  unfold cleared
  cases h : r.active <;> cases h' : p r <;> simp [h]

@[simp] theorem written_sequence : r.written.sequence = r.sequence := rfl

@[simp] theorem written_toChange : r.written.toChange = r.toChange := rfl

@[simp] theorem toChange_sequence : r.toChange.sequence = r.sequence := by
  unfold toChange
  split <;> rfl

@[simp] theorem toChange_isTombstone : r.toChange.isTombstone = r.tombstone := by
  unfold toChange
  split <;> simp_all [Change.isTombstone]

@[simp] theorem toChange_signedPayload : r.toChange.signedPayload = r.signedPayload := by
  unfold toChange
  split <;> rfl

end LogRow

namespace AssociationLog
variable {log : AssociationLog}

/-- The entries as they were written. -/
def written (log : AssociationLog) : List LogRow :=
  log.rows.map LogRow.written

/-- What the log records. -/
def changes (log : AssociationLog) : List Change :=
  log.rows.map LogRow.toChange

theorem changes_eq_written : log.changes = log.written.map LogRow.toChange := by
  simp [changes, written]

/-- The log with an entry at its end and without the marks of the entries that satisfy `p`. -/
def put (log : AssociationLog) (p : LogRow → Bool) (new : NewAssociation) (tombstone : Bool) : AssociationLog where
  rows := log.rows.map (LogRow.cleared p) ++ [{ new with sequence := log.last + 1, tombstone, active := !tombstone }]
  last := log.last + 1

@[simp] theorem put_written {p : LogRow → Bool} {new : NewAssociation} {tombstone : Bool} :
    (log.put p new tombstone).written =
      log.written ++ [{ new with sequence := log.last + 1, tombstone, active := false }] := by
  simp [put, written]
  rfl

/-! ### Statements -/

theorem run_deactivate (p : LogRow → Bool) :
    (deactivate p).run log =
      .ok (log.rows.countP fun r => r.active && p r, { log with rows := log.rows.map (LogRow.cleared p) }) :=
  rfl

theorem run_append {new : NewAssociation} {tombstone active : Bool} :
    (append new tombstone active).run log =
      if log.last = Int64.maxValue then .error .numbersExhausted
      else .ok (log.last + 1,
        ⟨log.rows ++ [{ new with sequence := log.last + 1, tombstone, active }], log.last + 1⟩) := by
  by_cases h : log.last = Int64.maxValue
  · rw [if_pos h]
    simp [append, nextNumber, h]
  · rw [if_neg h]
    simp [append, nextNumber, h]

/-- A new binding supersedes the active one of its identifier, unless no number is left. -/
theorem execute_upsert {new : NewAssociation} :
    (upsert new).execute log =
      if log.last = Int64.maxValue then .error (.storage .numbersExhausted)
      else .ok (log.last + 1, log.put (fun r => r.identifier = ⟨new.medium, new.address⟩) new false) := by
  by_cases h : log.last = Int64.maxValue
  · rw [if_pos h]
    refine Transaction.execute_error ?_
    rw [upsert, StateT.run_bind, run_deactivate, bind_ok, run_append, if_pos h]
  · rw [if_neg h]
    refine Transaction.execute_ok ?_
    rw [upsert, StateT.run_bind, run_deactivate, bind_ok, run_append, if_neg h]
    rfl

/-- The bindings that a removal is about. -/
def removes (identifier : Identifier) (owner : String) (now : Int64) (r : LogRow) : Bool :=
  r.identifier = identifier && r.account = owner && r.notEnded now

theorem map_cleared_eq {p : LogRow → Bool} {rows : List LogRow}
    (h : (rows.countP fun r => r.active && p r) = 0) : rows.map (LogRow.cleared p) = rows := by
  rw [List.countP_eq_zero] at h
  have same : ∀ r ∈ rows, LogRow.cleared p r = id r := fun r hr => if_neg (h r hr)
  rw [List.map_congr_left same, List.map_id]

/-- A removal that finds no such binding leaves the log as it is; one that finds it records a tombstone,
    unless no number is left. -/
theorem execute_delete {identifier : Identifier} {owner : String} {tombstone : NewTombstone} {now : Int64} :
    (delete identifier owner tombstone now).execute log =
      if (log.rows.countP fun r => r.active && removes identifier owner now r) = 0 then .ok (false, log)
      else if log.last = Int64.maxValue then .error (.storage .numbersExhausted)
      else .ok (true, log.put (removes identifier owner now)
        { tombstone.toRow with medium := identifier.medium, address := identifier.address } true) := by
  have hrun : (delete identifier owner tombstone now).run log =
      (if (log.rows.countP fun r => r.active && removes identifier owner now r) = 0 then pure false else
        append { tombstone.toRow with medium := identifier.medium, address := identifier.address } true false >>=
          fun _ => pure true : Transaction AssociationLog Bool).run
        { log with rows := log.rows.map (LogRow.cleared (removes identifier owner now)) } := rfl
  by_cases h : (log.rows.countP fun r => r.active && removes identifier owner now r) = 0
  · rw [if_pos h]
    refine Transaction.execute_ok ?_
    rw [hrun, if_pos h, map_cleared_eq h]
    rfl
  rw [if_neg h]
  rw [if_neg h, StateT.run_bind, run_append] at hrun
  by_cases hlast : log.last = Int64.maxValue
  · rw [if_pos hlast]
    refine Transaction.execute_error ?_
    rw [hrun, if_pos hlast, bind_error]
  · rw [if_neg hlast]
    refine Transaction.execute_ok ?_
    rw [hrun, if_neg hlast]
    rfl

/-- What a call does to the log. -/
inductive Writes (log : AssociationLog) : AssociationLog → Prop
  | nothing : Writes log log
  | binding (new : NewAssociation) (room : log.last ≠ Int64.maxValue) :
    Writes log (log.put (fun r => r.identifier = ⟨new.medium, new.address⟩) new false)
  | removal (p : LogRow → Bool) (new : NewAssociation) (room : log.last ≠ Int64.maxValue)
    (about : ∀ r, p r = true → r.identifier = ⟨new.medium, new.address⟩)
    (found : ∃ r ∈ log.rows, r.active = true ∧ p r = true) : Writes log (log.put p new true)

end AssociationLog

/-! ### Calls -/

/-- A call on the store of associations. -/
inductive StoreCall where
  | upsert (new : NewAssociation)
  | delete (identifier : Identifier) (owner : String) (tombstone : NewTombstone) (now : Int64)

namespace Database
open AssociationLog
variable {db : Database}

/-- The database after a call. One that fails leaves it as it is. -/
def after (db : Database) : StoreCall → Database
  | .upsert new =>
    match db.upsert new with
    | .ok (_, next) => next
    | .error _ => db
  | .delete identifier owner tombstone now =>
    match db.delete identifier owner tombstone now with
    | .ok (_, next) => next
    | .error _ => db

theorem upsert_ok {new : NewAssociation} {n : Int64} {next : Database} (h : db.upsert new = .ok (n, next)) :
    db.associations.last ≠ Int64.maxValue ∧ n = db.associations.last + 1 ∧
      next = { db with associations :=
        db.associations.put (fun r => r.identifier = ⟨new.medium, new.address⟩) new false } := by
  simp only [upsert, bind_eq_ok, execute_upsert] at h
  obtain ⟨-, -, ⟨m, log⟩, hlog, hnext⟩ := h
  split at hlog
  · cases hlog
  · rename_i hroom
    cases hlog
    cases hnext
    exact ⟨hroom, rfl, rfl⟩

theorem delete_ok {identifier : Identifier} {owner : String} {tombstone : NewTombstone} {now : Int64}
    {found : Bool} {next : Database} (h : db.delete identifier owner tombstone now = .ok (found, next)) :
    (found = false ∧ next = db) ∨
    (found = true ∧ db.associations.last ≠ Int64.maxValue ∧
      (∃ r ∈ db.associations.rows, r.active = true ∧ removes identifier owner now r = true) ∧
      next = { db with associations := (db.associations.put (removes identifier owner now)
        { tombstone.toRow with medium := identifier.medium, address := identifier.address } true) }) := by
  simp only [delete, bind_eq_ok, execute_delete] at h
  obtain ⟨-, -, ⟨b, log⟩, hlog, hnext⟩ := h
  split at hlog
  · cases hlog
    cases hnext
    exact .inl ⟨rfl, rfl⟩
  · rename_i hcount
    split at hlog
    · cases hlog
    · rename_i hroom
      cases hlog
      cases hnext
      refine .inr ⟨rfl, hroom, ?_, rfl⟩
      obtain ⟨r, hr, hp⟩ := List.countP_pos_iff.mp (Nat.pos_of_ne_zero hcount)
      exact ⟨r, hr, Bool.and_eq_true_iff.mp hp⟩

theorem writes_of_upsert {new : NewAssociation} {n : Int64} {next : Database}
    (h : db.upsert new = .ok (n, next)) : Writes db.associations next.associations := by
  obtain ⟨hroom, -, rfl⟩ := upsert_ok h
  exact .binding new hroom

theorem writes_of_delete {identifier : Identifier} {owner : String} {tombstone : NewTombstone} {now : Int64}
    {found : Bool} {next : Database} (h : db.delete identifier owner tombstone now = .ok (found, next)) :
    Writes db.associations next.associations := by
  rcases delete_ok h with ⟨-, rfl⟩ | ⟨-, hroom, hfound, rfl⟩
  · exact .nothing
  · refine .removal _ _ hroom (fun r hr => ?_) hfound
    simp only [removes, Bool.and_eq_true, decide_eq_true_eq] at hr
    exact hr.1.1

/-- A call leaves all tables but the log as they are. -/
theorem after_frame (call : StoreCall) :
    ∃ log, Writes db.associations log ∧ db.after call = { db with associations := log } := by
  cases call with
  | upsert new =>
    cases h : db.upsert new with
    | error e => exact ⟨_, .nothing, by simp only [after, h]⟩
    | ok result =>
      refine ⟨_, writes_of_upsert h, ?_⟩
      simp only [after, h]
      rw [(upsert_ok h).2.2]
  | delete identifier owner tombstone now =>
    cases h : db.delete identifier owner tombstone now with
    | error e => exact ⟨_, .nothing, by simp only [after, h]⟩
    | ok result =>
      refine ⟨_, writes_of_delete h, ?_⟩
      simp only [after, h]
      rcases delete_ok h with ⟨-, h'⟩ | ⟨-, -, -, h'⟩ <;> rw [h']

end Database

end IdentityServer
