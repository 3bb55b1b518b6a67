import IdentityServer.Proofs.Outcome
import IdentityServer.Proofs.Text.Integer
import IdentityServer.Store.KeyTable

/-! # Rows of keys

A key is only added as the current one, above all versions that are stored, and the current one cannot be deleted. So
the rows are a succession: they ascend, and the last of them is current and no other. -/

namespace IdentityServer

/-- A row whose key is not the current one any more. -/
def StoredKey.retire (r : StoredKey) : StoredKey :=
  { r with current := false }

theorem StoredKey.retire_eq {r : StoredKey} (h : r.current = false) : r.retire = r := by
  cases r
  cases h
  rfl

namespace KeyTable
variable {table : KeyTable} {older : List StoredKey} {latest row r : StoredKey} {version : Int64}

/-- The rows without their marks. -/
def unmarked (table : KeyTable) : List StoredKey :=
  table.rows.map StoredKey.retire

theorem unmarked_filter (table : KeyTable) (version : Int64) :
    unmarked ⟨table.rows.filter (·.version ≠ version)⟩ = table.unmarked.filter (·.version ≠ version) := by
  rw [unmarked, unmarked, List.filter_map]
  rfl

/-- The keys that were retired and the current one, in the order in which they were added. -/
structure Succession (table : KeyTable) (older : List StoredKey) (latest : StoredKey) : Prop where
  rows : table.rows = older ++ [latest]
  current : latest.current = true
  retired : ∀ r ∈ older, r.current = false
  ascending : table.rows.Pairwise fun a b => a.version < b.version

theorem succession_single (marked : row.current = true) : Succession ⟨[row]⟩ [] row :=
  ⟨rfl, marked, nofun, List.pairwise_singleton ..⟩

/-! ### Ascending versions -/

theorem ascending_concat {rows : List StoredKey} :
    ((rows ++ [row]).Pairwise fun a b => a.version < b.version) ↔
      (rows.Pairwise fun a b => a.version < b.version) ∧ ∀ r ∈ rows, r.version < row.version := by
  simp [List.pairwise_append]

theorem le_concat {rows : List StoredKey} (below : ∀ r ∈ rows, r.version < row.version) :
    ∀ r ∈ rows ++ [row], r.version ≤ row.version :=
  List.forall_mem_append.mpr ⟨fun r hr => Int64.le_of_lt (below r hr), List.forall_mem_singleton.mpr (Int64.le_refl _)⟩

theorem place_last {rows : List StoredKey} (above : ∀ r ∈ rows, r.version < row.version) :
    place row rows = rows ++ [row] := by
  induction rows with
  | nil => rfl
  | cons r rest ih =>
    obtain ⟨hr, hrest⟩ := List.forall_mem_cons.mp above
    rw [place, if_neg (Int64.not_lt.mpr (Int64.le_of_lt hr)), ih hrest]
    rfl

theorem execute_insertCurrent_empty (marked : row.current = true) :
    (insertCurrent row).execute {} = .ok ((), ⟨[row]⟩) := by
  cases row
  cases marked
  rfl

/-! ### Versions that are taken -/

theorem mem_place {row r : StoredKey} {rows : List StoredKey} : r ∈ place row rows ↔ r = row ∨ r ∈ rows := by
  induction rows with
  | nil => exact List.mem_cons
  | cons q rest ih =>
    rw [place]
    split
    · exact List.mem_cons
    · rw [List.mem_cons, ih, List.mem_cons, or_left_comm]

theorem run_insert (row : StoredKey) (table : KeyTable) :
    StateT.run (insert row) table =
      if table.rows.any (·.version == row.version) then .error (.duplicate "signing_keys.version")
      else .ok ((), ⟨place row table.rows⟩) := by
  show (if _ then _ else _ : Transaction KeyTable Unit) table = _
  split <;> rfl

/-- A key is added at a version that is not taken, and the versions that are taken stay so. -/
theorem insertCurrent_ok {row : StoredKey} {table next : KeyTable}
    (h : (insertCurrent row).execute table = .ok ((), next)) :
    (∀ r ∈ table.rows, r.version ≠ row.version) ∧ (∃ r ∈ next.rows, r.version = row.version) ∧
      ∀ r ∈ table.rows, ∃ q ∈ next.rows, q.version = r.version := by
  have hretire : StateT.run retireAll table = .ok ((), ⟨table.unmarked⟩) := rfl
  rw [Transaction.execute, insertCurrent, StateT.run_bind, hretire, bind_ok, run_insert] at h
  cases taken : table.unmarked.any (·.version == row.version) with
  | true =>
    rw [if_pos taken] at h
    cases h
  | false =>
    rw [if_neg (by rw [taken]; exact Bool.false_ne_true)] at h
    cases h
    have kept : ∀ r ∈ table.rows, r.retire ∈ table.unmarked := fun r hr => List.mem_map_of_mem hr
    refine ⟨fun r hr same => ?_, ⟨_, mem_place.mpr (.inl rfl), rfl⟩, fun r hr => ⟨_, mem_place.mpr (.inr (kept r hr)), rfl⟩⟩
    exact Bool.false_ne_true (taken.symm.trans (List.any_eq_true.mpr ⟨_, kept r hr, beq_iff_eq.mpr same⟩))

namespace Succession

theorem below (h : table.Succession older latest) : ∀ r ∈ older, r.version < latest.version := by
  have ascending := h.ascending
  rw [h.rows] at ascending
  exact (ascending_concat.mp ascending).2

theorem mem (h : table.Succession older latest) : r ∈ table.rows ↔ r ∈ older ∨ r = latest := by
  rw [h.rows, List.mem_append, List.mem_singleton]

/-- The rows without the mark are the older ones. -/
theorem mem_older (h : table.Succession older latest) : r ∈ older ↔ r ∈ table.rows ∧ r.current = false := by
  refine ⟨fun hr => ⟨h.mem.mpr (.inl hr), h.retired r hr⟩, fun ⟨hr, unmarked⟩ => ?_⟩
  rcases h.mem.mp hr with hr | rfl
  · exact hr
  · cases unmarked.symm.trans h.current

theorem latest_mem (h : table.Succession older latest) : latest ∈ table.rows :=
  h.mem.mpr (.inr rfl)

theorem le_latest (h : table.Succession older latest) (hr : r ∈ table.rows) : r.version ≤ latest.version :=
  le_concat h.below r (h.rows ▸ hr)

theorem greatestVersion? (h : table.Succession older latest) : table.greatestVersion? = some latest.version := by
  refine List.max?_eq_some_iff.mpr ⟨List.mem_map_of_mem h.latest_mem, fun version hversion => ?_⟩
  obtain ⟨r, hr, rfl⟩ := List.mem_map.mp hversion
  exact h.le_latest hr

/-! ### Adding a key -/

theorem map_retire (h : table.Succession older latest) : table.unmarked = older ++ [latest.retire] := by
  have same : older.map StoredKey.retire = older := by
    rw [List.map_congr_left fun r hr => StoredKey.retire_eq (h.retired r hr), List.map_id']
  rw [unmarked, h.rows, List.map_append, same, List.map_singleton]

theorem below_next (h : table.Succession older latest) (above : latest.version < row.version) :
    ∀ r ∈ table.unmarked, r.version < row.version := by
  intro r hr
  obtain ⟨q, hq, rfl⟩ := List.mem_map.mp hr
  have hle : q.version ≤ latest.version := h.le_latest hq
  exact Int64.lt_of_le_of_lt hle above

theorem execute_insertCurrent (h : table.Succession older latest) (marked : row.current = true)
    (above : latest.version < row.version) :
    (insertCurrent row).execute table = .ok ((), ⟨older ++ [latest.retire] ++ [row]⟩) := by
  have lower := h.below_next above
  have free : ¬∃ r, r ∈ table.unmarked ∧ r.version = row.version := by
    rintro ⟨r, hr, same⟩
    exact Int64.ne_of_lt (lower r hr) same
  have hrow : { row with current := true } = row := by
    cases row
    cases marked
    rfl
  have hretire : StateT.run retireAll table = .ok ((), ⟨table.unmarked⟩) := rfl
  have hinsert : StateT.run (insert row) ⟨table.unmarked⟩ = .ok ((), ⟨place row table.unmarked⟩) := by
    simp [insert, free]
    rfl
  refine Transaction.execute_ok ?_
  rw [insertCurrent, hrow, StateT.run_bind, hretire, ← h.map_retire, ← place_last lower]
  exact hinsert

theorem inserted (h : table.Succession older latest) (marked : row.current = true) (above : latest.version < row.version) :
    Succession ⟨older ++ [latest.retire] ++ [row]⟩ (older ++ [latest.retire]) row := by
  refine ⟨rfl, marked, ?_, ?_⟩
  · intro r hr
    rcases List.mem_append.mp hr with hr | hr
    · exact h.retired r hr
    · rw [List.mem_singleton.mp hr]
      rfl
  · have ascending : table.unmarked.Pairwise fun a b => a.version < b.version := List.pairwise_map.mpr h.ascending
    rw [← h.map_retire]
    exact ascending_concat.mpr ⟨ascending, h.below_next above⟩

theorem unmarked_inserted (h : table.Succession older latest) (row : StoredKey) :
    unmarked ⟨older ++ [latest.retire] ++ [row]⟩ = table.unmarked ++ [row.retire] := by
  have again : table.unmarked.map StoredKey.retire = table.unmarked := List.map_map
  rw [← h.map_retire, unmarked, List.map_append, again, List.map_singleton]

/-! ### Deleting a retired key -/

theorem deleteRetired (h : table.Succession older latest) (spared : latest.version ≠ version) :
    table.deleteRetired version = (older.any (·.version == version), ⟨table.rows.filter (·.version ≠ version)⟩) := by
  -- Only the latest row is spared for its mark, and it has another version.
  have hit : ∀ r ∈ table.rows, (r.version == version && !r.current) = (r.version == version) := by
    intro r hr
    rcases h.mem.mp hr with hr | rfl
    · rw [h.retired r hr]
      exact Bool.and_true _
    · rw [beq_eq_false_iff_ne.mpr spared]
      rfl
  have found : table.rows.any (fun r => r.version == version && !r.current) = older.any (·.version == version) := by
    rw [Bool.eq_iff_iff, List.any_eq_true, List.any_eq_true]
    constructor
    · rintro ⟨r, hr, same⟩
      rw [hit r hr] at same
      rcases h.mem.mp hr with hr | rfl
      · exact ⟨r, hr, same⟩
      · exact absurd (eq_of_beq same) spared
    · rintro ⟨r, hr, same⟩
      have stored : r ∈ table.rows := h.mem.mpr (.inl hr)
      exact ⟨r, stored, (hit r stored).trans same⟩
  have kept : table.rows.filter (fun r => !(r.version == version && !r.current)) = table.rows.filter (·.version ≠ version) := by
    refine List.filter_congr fun r hr => ?_
    rw [hit r hr]
    simp only [ne_eq, decide_not, beq_eq_decide]
  rw [KeyTable.deleteRetired, found, kept]

theorem deleted (h : table.Succession older latest) (spared : latest.version ≠ version) :
    Succession ⟨table.rows.filter (·.version ≠ version)⟩ (older.filter (·.version ≠ version)) latest := by
  refine ⟨?_, h.current, fun r hr => h.retired r (List.mem_of_mem_filter hr), h.ascending.filter _⟩
  rw [h.rows, List.filter_append, List.filter_singleton, decide_eq_true spared]
  rfl

end Succession

end KeyTable

end IdentityServer
