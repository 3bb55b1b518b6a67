import IdentityServer.Proofs.Replication.Pages
import IdentityServer.Proofs.Store.ReplicatedTable

/-! # Copies of a log

A copy of a log is a table that keeps the latest entries among those up to some place. A page of the log
that starts at or before this place, whole or in part known to the table, moves the copy to the end of the
page or leaves it where it is. -/

namespace IdentityServer

/-- An entry of the log of a server as a peer keeps it. -/
def LogRow.replica (origin : String) (r : LogRow) : ReplicatedAssociation :=
  { r.toNewAssociation with origin, originSequence := r.sequence, tombstone := r.tombstone }

namespace AssociationLog
variable {log next : AssociationLog} {origin : String}

/-- The log of a server as a peer would keep it. -/
def replicas (origin : String) (log : AssociationLog) : List ReplicatedAssociation :=
  log.rows.map (LogRow.replica origin)

/-- Of the log of a server, the entries up to a place as a peer would keep them. -/
def replicasThrough (origin : String) (log : AssociationLog) (place : Int64) : List ReplicatedAssociation :=
  (log.replicas origin).filter fun r => r.originSequence ≤ place

/-- The entries of a page. -/
def rowsSince (log : AssociationLog) (cursor : Int64) (limit : Nat) : List LogRow :=
  (log.rows.filter fun r => cursor < r.sequence).take limit

theorem changesSince_eq_rows (cursor : Int64) (limit : Nat) :
    log.changesSince cursor limit = (log.rowsSince cursor limit).map LogRow.toChange := rfl

theorem map_replica_rowsSince (cursor : Int64) (limit : Nat) :
    (log.rowsSince cursor limit).map (LogRow.replica origin) =
      ((log.replicas origin).filter fun r => cursor < r.originSequence).take limit := by
  rw [rowsSince, replicas, List.filter_map, List.map_take]
  rfl

theorem mem_of_mem_rowsSince {cursor : Int64} {limit : Nat} {r : LogRow} (h : r ∈ log.rowsSince cursor limit) :
    r ∈ log.rows :=
  List.mem_of_mem_filter (List.mem_of_mem_take h)

theorem replicasThrough_eq_written (place : Int64) :
    log.replicasThrough origin place =
      (log.written.filter fun r => r.sequence ≤ place).map (LogRow.replica origin) := by
  have hreplicas : log.replicas origin = log.written.map (LogRow.replica origin) := by
    rw [replicas, written, List.map_map]
    rfl
  rw [replicasThrough, hreplicas, List.filter_map]
  rfl

theorem origin_replicas : ∀ r ∈ log.replicas origin, r.origin = origin := by
  intro r hr
  obtain ⟨_, -, rfl⟩ := List.mem_map.mp hr
  rfl

theorem Sound.replicas_ascending (h : log.Sound) :
    (log.replicas origin).Pairwise fun a b => a.originSequence < b.originSequence :=
  List.pairwise_map.mpr h.ascending

theorem Extends.replicasThrough_eq (h : Extends log next) {place : Int64} (hplace : place ≤ log.last) :
    next.replicasThrough origin place = log.replicasThrough origin place := by
  rw [replicasThrough_eq_written, replicasThrough_eq_written, h.written_through hplace]

/-- With nothing left after a place, the entries up to it are the whole log. -/
theorem replicasThrough_eq_of_rowsSince {cursor place : Int64} {limit : Nat} (hlimit : 0 < limit)
    (done : log.rowsSince cursor limit = []) (hplace : cursor ≤ place) :
    log.replicasThrough origin place = log.replicas origin := by
  have none_after : (log.rows.filter fun r => cursor < r.sequence) = [] :=
    (List.take_eq_nil_iff.mp done).resolve_left (Nat.ne_of_gt hlimit)
  refine List.filter_eq_self.mpr fun q hq => ?_
  obtain ⟨r, hr, rfl⟩ := List.mem_map.mp hq
  have hcursor : ¬ cursor < r.sequence := by
    simpa using List.filter_eq_nil_iff.mp none_after r hr
  exact decide_eq_true (Int64.le_trans (Int64.not_lt.mp hcursor) hplace)

end AssociationLog

namespace ReplicatedTable
variable {origin : String} {table : ReplicatedTable}

/-- What a page brings to a table that has been handed the records up to a place: those of the page beyond
    this place. -/
theorem Keeps.applyAll_page {records : List ReplicatedAssociation} {place cursor : Int64} {limit : Nat}
    {last : ReplicatedAssociation}
    (h : Keeps origin table (records.filter fun r => r.originSequence ≤ place))
    (origins : ∀ r ∈ records, r.origin = origin)
    (ascending : records.Pairwise fun a b => a.originSequence < b.originSequence) (hcursor : cursor ≤ place)
    (hlast : ((records.filter fun r => cursor < r.originSequence).take limit).getLast? = some last) :
    ∃ next, (next = place ∨ next = last.originSequence) ∧ place ≤ next ∧ last.originSequence ≤ next ∧
      Keeps origin (table.applyAll ((records.filter fun r => cursor < r.originSequence).take limit))
        (records.filter fun r => r.originSequence ≤ next) := by
  have hthrough := filter_le_last ascending hlast
  have hbeyond := filter_le_last_beyond ascending hlast hcursor
  have hpage : ∀ r ∈ (records.filter fun r => cursor < r.originSequence).take limit, r ∈ records :=
    fun r hr => List.mem_of_mem_filter (List.mem_of_mem_take hr)
  have page_ascending :
      ((records.filter fun r => cursor < r.originSequence).take limit).Pairwise
        fun a b => a.originSequence < b.originSequence :=
    (ascending.filter _).sublist (List.take_sublist ..)
  generalize (records.filter fun r => cursor < r.originSequence).take limit = page at *
  by_cases hplace : last.originSequence ≤ place
  · -- The table knows the whole page.
    refine ⟨place, .inl rfl, Int64.le_refl _, hplace, ?_⟩
    rw [h.applyAll_known fun r hr => ?_]
    · exact h
    · have hr' : r ∈ records.filter fun r => r.originSequence ≤ last.originSequence := by
        rw [hthrough]
        exact List.mem_append_right _ hr
      have hle : r.originSequence ≤ last.originSequence := by simpa using (List.mem_filter.mp hr').2
      exact List.mem_filter.mpr ⟨hpage r hr, decide_eq_true (Int64.le_trans hle hplace)⟩
  · -- What the page begins with may be known; the rest is new.
    have hlt := Int64.not_le.mp hplace
    have hnext := hbeyond (Int64.le_of_lt hlt)
    refine ⟨last.originSequence, .inr rfl, Int64.le_of_lt hlt, Int64.le_refl _, ?_⟩
    have hknown : ∀ r ∈ page.filter fun r => r.originSequence ≤ place,
        r ∈ records.filter fun r => r.originSequence ≤ place := by
      intro r hr
      obtain ⟨hr, hle⟩ := List.mem_filter.mp hr
      exact List.mem_filter.mpr ⟨hpage r hr, hle⟩
    rw [split_at_place page_ascending place, applyAll_append, h.applyAll_known hknown, hnext]
    refine h.applyAll_next (fun r hr => origins r (hpage r (List.mem_of_mem_filter hr))) ?_
    rw [← hnext]
    exact ascending.filter _

/-- A page of the log moves a copy to the end of the page, or leaves it where it is. -/
theorem Keeps.applyAll_rowsSince {log : AssociationLog} {place cursor : Int64} {limit : Nat} {last : LogRow}
    (h : Keeps origin table (log.replicasThrough origin place)) (sound : log.Sound) (hcursor : cursor ≤ place)
    (hlast : (log.rowsSince cursor limit).getLast? = some last) :
    ∃ next, (next = place ∨ next = last.sequence) ∧ place ≤ next ∧ last.sequence ≤ next ∧
      Keeps origin (table.applyAll ((log.rowsSince cursor limit).map (LogRow.replica origin)))
        (log.replicasThrough origin next) := by
  have hreplica := congrArg (Option.map (LogRow.replica origin)) hlast
  rw [← List.getLast?_map, AssociationLog.map_replica_rowsSince] at hreplica
  rw [AssociationLog.map_replica_rowsSince]
  exact h.applyAll_page AssociationLog.origin_replicas sound.replicas_ascending hcursor hreplica

end ReplicatedTable

end IdentityServer
