import IdentityServer.Proofs.Store.LogReplay

/-! # Looking up a sound log

Which binding a look-up finds and which one a removal takes away, in terms of the replay of the log: the binding
that the replay leaves for the identifier, if the time lies in its span. A removal looks at the end of the span
only. -/

namespace IdentityServer

/-- The time lies in the span of a binding. -/
def Association.Serves (a : Association) (t : Int64) : Prop :=
  a.notBefore ≤ t ∧ ∀ ending ∈ a.notAfter, t < ending

theorem LogRow.notEnded_iff {r : LogRow} {t : Int64} : r.notEnded t = true ↔ ∀ ending ∈ r.notAfter, t < ending := by
  unfold notEnded
  cases r.notAfter with
  | none => simp
  | some ending => simp

namespace AssociationLog

theorem put_changes {log : AssociationLog} {p : LogRow → Bool} {new : NewAssociation} {tombstone : Bool} :
    (log.put p new tombstone).changes =
      log.changes ++ [LogRow.toChange { new with sequence := log.last + 1, tombstone, active := false }] := by
  rw [changes_eq_written, put_written, List.map_append, ← changes_eq_written]
  rfl

namespace Sound
variable {log : AssociationLog} {identifier : Identifier} {owner : String} {t : Int64} {a : Association}

theorem replay_eq_some (h : log.Sound) :
    replay log.changes identifier = some a ↔
      ∃ r ∈ log.rows, r.active = true ∧ r.identifier = identifier ∧ r.toAssociation = a := by
  rw [← h.active_eq_replay, Option.map_eq_some_iff]
  simp only [h.activeRow?_eq_some, and_assoc]

/-- A look-up finds the binding that the replay leaves, within its span. -/
theorem getActive_eq_some (h : log.Sound) :
    log.getActive identifier t = some a ↔ replay log.changes identifier = some a ∧ a.Serves t := by
  rw [h.replay_eq_some, getActive, Option.map_eq_some_iff]
  constructor
  · rintro ⟨r, hfind, rfl⟩
    have hmark := List.find?_some hfind
    simp only [Bool.and_eq_true, decide_eq_true_eq] at hmark
    obtain ⟨⟨⟨hid, hactive⟩, hbegun⟩, hopen⟩ := hmark
    exact ⟨⟨r, List.mem_of_find?_eq_some hfind, hactive, hid, rfl⟩, hbegun, LogRow.notEnded_iff.mp hopen⟩
  · rintro ⟨⟨r, hr, hactive, hid, rfl⟩, hbegun, hopen⟩
    refine ⟨r, ?_, rfl⟩
    have hbegun : r.notBefore ≤ t := hbegun
    have hopen : r.notEnded t = true := LogRow.notEnded_iff.mpr hopen
    cases hfind : log.rows.find? fun r => r.identifier = identifier && r.active && r.notBefore ≤ t && r.notEnded t with
    | none =>
      have := List.find?_eq_none.mp hfind r hr
      simp [hid, hactive, hbegun, hopen] at this
    | some q =>
      have hmark := List.find?_some hfind
      simp only [Bool.and_eq_true, decide_eq_true_eq] at hmark
      rw [h.eq_of_active (List.mem_of_find?_eq_some hfind) hr hmark.1.1.2 hactive (hmark.1.1.1.trans hid.symm)]

/-- A removal takes away the binding that the replay leaves, if it is the owner's and has not ended. -/
theorem removes_iff (h : log.Sound) :
    (∃ r ∈ log.rows, r.active = true ∧ removes identifier owner t r = true) ↔
      ∃ a, replay log.changes identifier = some a ∧ a.account = owner ∧ ∀ ending ∈ a.notAfter, t < ending := by
  simp only [h.replay_eq_some, removes, Bool.and_eq_true, decide_eq_true_eq, LogRow.notEnded_iff]
  constructor
  · rintro ⟨r, hr, hactive, ⟨hid, howner⟩, hopen⟩
    exact ⟨_, ⟨r, hr, hactive, hid, rfl⟩, howner, hopen⟩
  · rintro ⟨-, ⟨r, hr, hactive, hid, rfl⟩, howner, hopen⟩
    exact ⟨r, hr, hactive, ⟨hid, howner⟩, hopen⟩

end Sound

end AssociationLog

namespace Database
open AssociationLog
variable {db : Database} {identifier : Identifier} {owner : String} {tombstone : NewTombstone} {now : Int64}

/-- There is a binding for a removal to take away. -/
def Removable (db : Database) (identifier : Identifier) (owner : String) (now : Int64) : Prop :=
  ∃ r ∈ db.associations.rows, r.active = true ∧ removes identifier owner now r = true

theorem removable_iff :
    db.Removable identifier owner now ↔
      (db.associations.rows.countP fun r => r.active && removes identifier owner now r) ≠ 0 := by
  simp only [Removable, ← Nat.pos_iff_ne_zero, List.countP_pos_iff, Bool.and_eq_true]

theorem delete_removes_iff :
    (∃ next, db.delete identifier owner tombstone now = .ok (true, next)) ↔
      db.Removable identifier owner now ∧ db.available .delete = .ok () ∧ db.associations.last ≠ Int64.maxValue := by
  constructor
  · rintro ⟨next, h⟩
    obtain ⟨⟨⟩, havailable, -⟩ := bind_eq_ok.mp h
    rcases delete_ok h with ⟨hfound, -⟩ | ⟨-, room, found, -⟩
    · cases hfound
    · exact ⟨found, havailable, room⟩
  · rintro ⟨found, havailable, room⟩
    rw [delete, havailable, bind_ok, execute_delete, if_neg (removable_iff.mp found), if_neg room]
    exact ⟨_, rfl⟩

theorem delete_misses_iff :
    (∃ next, db.delete identifier owner tombstone now = .ok (false, next)) ↔
      ¬db.Removable identifier owner now ∧ db.available .delete = .ok () := by
  rw [removable_iff, not_not]
  constructor
  · rintro ⟨next, h⟩
    obtain ⟨⟨⟩, havailable, h⟩ := bind_eq_ok.mp h
    refine ⟨?_, havailable⟩
    by_contra hcount
    rw [execute_delete, if_neg hcount] at h
    split at h <;> cases h
  · rintro ⟨hcount, havailable⟩
    rw [delete, havailable, bind_ok, execute_delete, if_pos hcount]
    exact ⟨_, rfl⟩

end Database

end IdentityServer
