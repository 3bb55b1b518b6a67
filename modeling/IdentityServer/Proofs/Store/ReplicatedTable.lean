import IdentityServer.Store.ReplicatedTable
import Mathlib.Data.List.Induction

/-! # The latest records of an origin

A table that is handed the records of one origin in the order of their places keeps the latest record of
every identifier. A record that it has been handed before changes nothing, also if it was superseded since. -/

namespace IdentityServer

/-- The records that no other record of their identifier comes after. -/
def latest (records : List ReplicatedAssociation) : List ReplicatedAssociation :=
  records.filter fun r =>
    records.all fun q => decide (q.identifier = r.identifier → q.originSequence ≤ r.originSequence)

section Latest
variable {records : List ReplicatedAssociation} {r : ReplicatedAssociation}

theorem mem_latest : r ∈ latest records ↔
    r ∈ records ∧ ∀ q ∈ records, q.identifier = r.identifier → q.originSequence ≤ r.originSequence := by
  rw [latest, List.mem_filter]
  simp only [List.all_eq_true, decide_eq_true_eq]

/-- A record that comes after all others takes the place of the one of its identifier. -/
theorem latest_concat (above : ∀ q ∈ records, q.originSequence < r.originSequence) :
    latest (records ++ [r]) = (latest records).filter (fun q => q.identifier ≠ r.identifier) ++ [r] := by
  have hself : ∀ q ∈ records ++ [r], q.identifier = r.identifier → q.originSequence ≤ r.originSequence := by
    intro q hq _
    rcases List.mem_append.mp hq with hq | hq
    · exact Int64.le_of_lt (above q hq)
    · rw [List.mem_singleton.mp hq]
      exact Int64.le_refl _
  rw [latest, List.filter_append]
  congr 1
  · rw [latest, List.filter_filter]
    refine List.filter_congr fun q hq => ?_
    have hlast : (r.identifier = q.identifier → r.originSequence ≤ q.originSequence) ↔ q.identifier ≠ r.identifier :=
      ⟨fun h hid => Int64.not_le.mpr (above q hq) (h hid.symm), fun h hid => absurd hid.symm h⟩
    rw [List.all_append, Bool.and_comm]
    simp only [List.all_cons, List.all_nil, Bool.and_true, hlast]
  · rw [List.filter_cons, if_pos]
    · rfl
    · exact List.all_eq_true.mpr fun q hq => decide_eq_true (hself q hq)

/-- Every record has a latest one of its identifier. -/
theorem exists_latest (ascending : records.Pairwise fun a b => a.originSequence < b.originSequence) (hr : r ∈ records) :
    ∃ q ∈ latest records, q.identifier = r.identifier ∧ r.originSequence ≤ q.originSequence := by
  -- From the end: the last record of the identifier is the one that is kept.
  induction records using List.reverseRecOn with
  | nil => cases hr
  | append_singleton records last ih =>
    obtain ⟨hfront, -, habove⟩ := List.pairwise_append.mp ascending
    have above : ∀ q ∈ records, q.originSequence < last.originSequence := fun q hq => habove q hq last (by simp)
    rw [latest_concat above]
    by_cases hid : last.identifier = r.identifier
    · refine ⟨last, by simp, hid, ?_⟩
      rcases List.mem_append.mp hr with hr | hr
      · exact Int64.le_of_lt (above r hr)
      · rw [List.mem_singleton.mp hr]
        exact Int64.le_refl _
    · have hr : r ∈ records := by
        rcases List.mem_append.mp hr with hr | hr
        · exact hr
        · exact absurd (congrArg ReplicatedAssociation.identifier (List.mem_singleton.mp hr)).symm hid
      obtain ⟨q, hq, hqid, hle⟩ := ih hfront hr
      refine ⟨q, List.mem_append_left _ (List.mem_filter.mpr ⟨hq, ?_⟩), hqid, hle⟩
      exact decide_eq_true fun h => hid (h.symm.trans hqid)

end Latest

namespace ReplicatedTable
variable {origin : String} {table : ReplicatedTable} {records : List ReplicatedAssociation} {r : ReplicatedAssociation}

theorem applyAll_append (first second : List ReplicatedAssociation) :
    table.applyAll (first ++ second) = (table.applyAll first).applyAll second :=
  List.foldl_append ..

/-- The records of an origin. -/
def ofOrigin (origin : String) (table : ReplicatedTable) : List ReplicatedAssociation :=
  table.rows.filter fun r => r.origin = origin

/-- The records of an origin that a table keeps are the latest ones of those that it was handed. -/
structure Keeps (origin : String) (table : ReplicatedTable) (records : List ReplicatedAssociation) : Prop where
  rows : table.ofOrigin origin = latest records
  origins : ∀ r ∈ records, r.origin = origin
  ascending : records.Pairwise fun a b => a.originSequence < b.originSequence

theorem Keeps.mem (h : Keeps origin table records) : r ∈ table.rows ∧ r.origin = origin ↔ r ∈ latest records := by
  rw [← h.rows, ofOrigin, List.mem_filter, decide_eq_true_eq]

/-- A record that was handed to the table before is refused. -/
theorem Keeps.apply_known (h : Keeps origin table records) (hr : r ∈ records) : (table.apply r).2 = table := by
  obtain ⟨q, hq, hid, hle⟩ := exists_latest h.ascending hr
  obtain ⟨hrow, hqorigin⟩ := h.mem.mpr hq
  have refused : table.isRefused r = true := by
    refine List.any_eq_true.mpr ⟨q, hrow, ?_⟩
    simp [ReplicatedAssociation.sameSubject, hqorigin, h.origins r hr, hid, hle]
  rw [apply, if_pos refused]

/-- A record that comes after all that were handed to the table finds its place. -/
theorem Keeps.not_refused (h : Keeps origin table records) (hr : r.origin = origin)
    (above : ∀ q ∈ records, q.originSequence < r.originSequence) : table.isRefused r = false := by
  refine List.any_eq_false.mpr fun q hq => ?_
  simp only [ReplicatedAssociation.sameSubject, hr, Bool.or_eq_true, Bool.and_eq_true, decide_eq_true_eq]
  rintro (⟨⟨hqorigin, -⟩, hle⟩ | ⟨hqorigin, heq⟩)
  · exact Int64.not_le.mpr (above q (mem_latest.mp (h.mem.mp ⟨hq, hqorigin⟩)).1) hle
  · exact Int64.ne_of_lt (above q (mem_latest.mp (h.mem.mp ⟨hq, hqorigin⟩)).1) heq

theorem Keeps.apply_next (h : Keeps origin table records) (hr : r.origin = origin)
    (above : ∀ q ∈ records, q.originSequence < r.originSequence) :
    Keeps origin (table.apply r).2 (records ++ [r]) := by
  refine ⟨?_, ?_, ?_⟩
  · rw [apply, if_neg (by simp [h.not_refused hr above]), latest_concat above, ← h.rows, ofOrigin, ofOrigin,
      List.filter_append, List.filter_cons, if_pos (decide_eq_true hr)]
    congr 1
    rw [List.filter_filter, List.filter_filter]
    refine List.filter_congr fun q hq => ?_
    by_cases hqorigin : q.origin = origin
    · have hlt := above q (mem_latest.mp (h.mem.mp ⟨hq, hqorigin⟩)).1
      simp [ReplicatedAssociation.sameSubject, hr, hqorigin, hlt]
    · simp [hqorigin]
  · intro q hq
    rcases List.mem_append.mp hq with hq | hq
    · exact h.origins q hq
    · rw [List.mem_singleton.mp hq, hr]
  · exact List.pairwise_append.mpr ⟨h.ascending, List.pairwise_singleton .., fun q hq p hp => by
      rw [List.mem_singleton.mp hp]
      exact above q hq⟩

theorem Keeps.applyAll_known (h : Keeps origin table records) {again : List ReplicatedAssociation}
    (hagain : ∀ r ∈ again, r ∈ records) : table.applyAll again = table := by
  induction again with
  | nil => rfl
  | cons r rest ih =>
    rw [applyAll, List.foldl_cons, h.apply_known (hagain r (by simp))]
    exact ih fun q hq => hagain q (List.mem_cons_of_mem r hq)

theorem Keeps.applyAll_next (h : Keeps origin table records) {more : List ReplicatedAssociation}
    (horigin : ∀ r ∈ more, r.origin = origin)
    (ascending : (records ++ more).Pairwise fun a b => a.originSequence < b.originSequence) :
    Keeps origin (table.applyAll more) (records ++ more) := by
  induction more generalizing table records with
  | nil =>
    rw [List.append_nil]
    exact h
  | cons r rest ih =>
    obtain ⟨-, -, above⟩ := List.pairwise_append.mp ascending
    have next := h.apply_next (horigin r (by simp)) fun q hq => above q hq r (by simp)
    rw [List.append_cons] at ascending ⊢
    exact ih next (fun q hq => horigin q (List.mem_cons_of_mem r hq)) ascending

end ReplicatedTable

end IdentityServer
