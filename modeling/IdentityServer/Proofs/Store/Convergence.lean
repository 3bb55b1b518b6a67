import IdentityServer.Proofs.Store.ReplicatedTable
import Mathlib.Data.List.Nodup
import Mathlib.Data.List.Pairwise

/-! # Records in any order

A table of peers' records ends up the same in whatever order records come and however often, as long as no
two of them claim one place of one origin: it keeps, of every identifier of every origin, the record of the
highest place. A record that finds its place taken by one of another identifier is lost, and only such a
record is. -/

namespace IdentityServer

namespace ReplicatedAssociation
variable {a b c : ReplicatedAssociation}

theorem sameSubject_iff : a.sameSubject b = true ↔ a.origin = b.origin ∧ a.identifier = b.identifier := by
  simp [sameSubject]

theorem sameSubject_refl (a : ReplicatedAssociation) : a.sameSubject a = true :=
  sameSubject_iff.mpr ⟨rfl, rfl⟩

theorem sameSubject_comm : a.sameSubject b = b.sameSubject a := by
  simp only [sameSubject, eq_comm]

theorem sameSubject_trans (h : a.sameSubject b = true) (h' : b.sameSubject c = true) : a.sameSubject c = true := by
  rw [sameSubject_iff] at h h' ⊢
  exact ⟨h.1.trans h'.1, h.2.trans h'.2⟩

theorem isBefore_iff :
    a.isBefore b = true ↔ a.origin < b.origin ∨ a.origin = b.origin ∧ a.originSequence ≤ b.originSequence := by
  simp [isBefore]

theorem isBefore_trans (h : a.isBefore b = true) (h' : b.isBefore c = true) : a.isBefore c = true := by
  rw [isBefore_iff] at h h' ⊢
  rcases h with h | ⟨h, hle⟩
  · rcases h' with h' | ⟨h', -⟩
    · exact .inl (String.lt_trans h h')
    · exact .inl (h' ▸ h)
  · rcases h' with h' | ⟨h', hle'⟩
    · exact .inl (h ▸ h')
    · exact .inr ⟨h.trans h', Int64.le_trans hle hle'⟩

theorem isBefore_total (a b : ReplicatedAssociation) : (a.isBefore b || b.isBefore a) = true := by
  rw [Bool.or_eq_true, isBefore_iff, isBefore_iff]
  by_cases heq : a.origin = b.origin
  · rcases Int64.le_total (a := a.originSequence) (b := b.originSequence) with hle | hle
    · exact .inl (.inr ⟨heq, hle⟩)
    · exact .inr (.inr ⟨heq.symm, hle⟩)
  · by_cases hlt : a.origin < b.origin
    · exact .inl (.inl hlt)
    · exact .inr (.inl (Std.lt_of_le_of_ne (String.not_lt.mp hlt) (Ne.symm heq)))

theorem place_of_isBefore (h : a.isBefore b = true) (h' : b.isBefore a = true) :
    a.origin = b.origin ∧ a.originSequence = b.originSequence := by
  rw [isBefore_iff] at h h'
  rcases h with h | ⟨h, hle⟩ <;> rcases h' with h' | ⟨h', hle'⟩
  · exact absurd h' (String.lt_asymm h)
  · exact absurd (h' ▸ h) (String.lt_irrefl _)
  · exact absurd (h ▸ h') (String.lt_irrefl _)
  · exact ⟨h, Int64.le_antisymm hle hle'⟩

end ReplicatedAssociation

/-- No two records of different identifiers claim one place of one origin. -/
def Undisputed (records : List ReplicatedAssociation) : Prop :=
  ∀ a ∈ records, ∀ b ∈ records, a.origin = b.origin → a.originSequence = b.originSequence → a.identifier = b.identifier

/-- No two different records claim one place of one origin. -/
def OwnPlaces (records : List ReplicatedAssociation) : Prop :=
  ∀ a ∈ records, ∀ b ∈ records, a.origin = b.origin → a.originSequence = b.originSequence → a = b

instance (records : List ReplicatedAssociation) : Decidable (Undisputed records) :=
  inferInstanceAs (Decidable (∀ a ∈ records, ∀ b ∈ records, _))

instance (records : List ReplicatedAssociation) : Decidable (OwnPlaces records) :=
  inferInstanceAs (Decidable (∀ a ∈ records, ∀ b ∈ records, _))

theorem OwnPlaces.undisputed {records : List ReplicatedAssociation} (h : OwnPlaces records) : Undisputed records :=
  fun a ha b hb horigin hplace => congrArg ReplicatedAssociation.identifier (h a ha b hb horigin hplace)

namespace ReplicatedTable
open ReplicatedAssociation
variable {table : ReplicatedTable} {records : List ReplicatedAssociation} {q r x : ReplicatedAssociation}

/-- A table keeps a record or one of the same identifier that is newer. -/
def Covers (table : ReplicatedTable) (r : ReplicatedAssociation) : Prop :=
  ∃ q ∈ table.rows, q.sameSubject r = true ∧ r.originSequence ≤ q.originSequence

/-- A record of another identifier stands in the place of a record. -/
def Displaces (table : ReplicatedTable) (r : ReplicatedAssociation) : Prop :=
  ∃ q ∈ table.rows, q.origin = r.origin ∧ q.originSequence = r.originSequence ∧ q.identifier ≠ r.identifier

/-! ### One record -/

theorem isRefused_iff : table.isRefused r = true ↔ table.Covers r ∨ table.Displaces r := by
  simp only [isRefused, List.any_eq_true, Bool.or_eq_true, Bool.and_eq_true, decide_eq_true_eq]
  constructor
  · rintro ⟨q, hq, ⟨hsame, hle⟩ | ⟨horigin, hplace⟩⟩
    · exact .inl ⟨q, hq, hsame, hle⟩
    · by_cases hid : q.identifier = r.identifier
      · exact .inl ⟨q, hq, sameSubject_iff.mpr ⟨horigin, hid⟩, Int64.le_of_eq hplace.symm⟩
      · exact .inr ⟨q, hq, horigin, hplace, hid⟩
  · rintro (⟨q, hq, hsame, hle⟩ | ⟨q, hq, horigin, hplace, -⟩)
    · exact ⟨q, hq, .inl ⟨hsame, hle⟩⟩
    · exact ⟨q, hq, .inr ⟨horigin, hplace⟩⟩

theorem apply_kept_iff : (table.apply r).1 = true ↔ ¬table.Covers r ∧ ¬table.Displaces r := by
  rw [← not_or, ← isRefused_iff, apply]
  split <;> simp_all

theorem apply_of_refused (h : table.isRefused r = true) : (table.apply r).2 = table := by
  rw [apply, if_pos h]

theorem mem_apply (h : ¬table.isRefused r = true) :
    q ∈ (table.apply r).2.rows ↔
      (q ∈ table.rows ∧ ¬(q.sameSubject r = true ∧ q.originSequence < r.originSequence)) ∨ q = r := by
  rw [apply, if_neg h, List.mem_append, List.mem_filter, List.mem_singleton, Bool.not_eq_true', ← Bool.not_eq_true,
    Bool.and_eq_true, decide_eq_true_eq]

theorem mem_of_mem_apply (h : q ∈ (table.apply r).2.rows) : q ∈ table.rows ∨ q = r := by
  by_cases hrefused : table.isRefused r = true
  · rw [apply_of_refused hrefused] at h
    exact .inl h
  · exact ((mem_apply hrefused).mp h).imp_left And.left

theorem Covers.apply (h : table.Covers r) (x : ReplicatedAssociation) : (table.apply x).2.Covers r := by
  obtain ⟨q, hq, hsame, hle⟩ := h
  by_cases hrefused : table.isRefused x = true
  · rw [apply_of_refused hrefused]
    exact ⟨q, hq, hsame, hle⟩
  by_cases hout : q.sameSubject x = true ∧ q.originSequence < x.originSequence
  · -- The record that covered it makes room for the new one.
    refine ⟨x, (mem_apply hrefused).mpr (.inr rfl), ?_, Int64.le_trans hle (Int64.le_of_lt hout.2)⟩
    exact sameSubject_trans (sameSubject_comm.trans hout.1) hsame
  · exact ⟨q, (mem_apply hrefused).mpr (.inl ⟨hq, hout⟩), hsame, hle⟩

/-- After its turn a record is covered, unless its place was taken. -/
theorem covers_apply_self (h : ¬table.Displaces r) : (table.apply r).2.Covers r := by
  by_cases hrefused : table.isRefused r = true
  · rw [apply_of_refused hrefused]
    exact (isRefused_iff.mp hrefused).resolve_right h
  · exact ⟨r, (mem_apply hrefused).mpr (.inr rfl), sameSubject_refl r, Int64.le_refl _⟩

/-- Of every identifier of every origin there is one record at most. -/
def OneEach (table : ReplicatedTable) : Prop :=
  table.rows.Pairwise fun a b => a.sameSubject b = false

theorem OneEach.eq (h : table.OneEach) (hq : q ∈ table.rows) (hr : r ∈ table.rows) (hsame : q.sameSubject r = true) :
    q = r := by
  have : Std.Symm fun a b : ReplicatedAssociation => a.sameSubject b = false := ⟨fun _ _ h => sameSubject_comm.trans h⟩
  by_contra hne
  exact absurd hsame (by simp [List.Pairwise.forall h hq hr hne])

theorem OneEach.nodup (h : table.OneEach) : table.rows.Nodup := by
  refine List.Pairwise.imp (fun {a b} apart heq => ?_) h
  rw [heq, sameSubject_refl] at apart
  cases apart

theorem OneEach.apply (h : table.OneEach) (r : ReplicatedAssociation) : (table.apply r).2.OneEach := by
  by_cases hrefused : table.isRefused r = true
  · rw [apply_of_refused hrefused]
    exact h
  · rw [ReplicatedTable.apply, if_neg hrefused]
    refine List.pairwise_append.mpr ⟨h.filter _, List.pairwise_singleton .., fun q hq p hp => ?_⟩
    obtain ⟨hq, hout⟩ := List.mem_filter.mp hq
    rw [List.mem_singleton.mp hp]
    by_contra hsame
    rw [Bool.not_eq_false] at hsame
    have hnew : q.originSequence < r.originSequence := by
      refine Int64.not_le.mp fun hle => hrefused (isRefused_iff.mpr (.inl ⟨q, hq, hsame, hle⟩))
    simp [hsame, hnew] at hout

/-! ### Many records -/

theorem mem_applyAll (h : r ∈ (table.applyAll records).rows) : r ∈ table.rows ∨ r ∈ records := by
  induction records generalizing table with
  | nil => exact .inl h
  | cons x rest ih =>
    have hnext : r ∈ (table.apply x).2.rows ∨ r ∈ rest := ih h
    rcases hnext with hr | hr
    · rcases mem_of_mem_apply hr with hr | rfl
      · exact .inl hr
      · exact .inr List.mem_cons_self
    · exact .inr (List.mem_cons_of_mem x hr)

theorem OneEach.applyAll (h : table.OneEach) (records : List ReplicatedAssociation) : (table.applyAll records).OneEach := by
  induction records generalizing table with
  | nil => exact h
  | cons x rest ih => exact ih (h.apply x)

theorem Covers.applyAll (h : table.Covers r) (records : List ReplicatedAssociation) :
    (table.applyAll records).Covers r := by
  induction records generalizing table with
  | nil => exact h
  | cons x rest ih => exact ih (h.apply x)

/-- A record that was handed to the table is covered, or a record of another identifier has claimed its
    place. -/
theorem covers_applyAll_or (table : ReplicatedTable) (hr : r ∈ records) :
    (table.applyAll records).Covers r ∨ ∃ q ∈ table.rows ++ records,
      q.origin = r.origin ∧ q.originSequence = r.originSequence ∧ q.identifier ≠ r.identifier := by
  induction records generalizing table with
  | nil => cases hr
  | cons x rest ih =>
    rcases List.mem_cons.mp hr with rfl | hr
    · -- Its turn is now; what covers it afterwards stays.
      by_cases hplace : table.Displaces r
      · obtain ⟨q, hq, rival⟩ := hplace
        exact .inr ⟨q, List.mem_append_left _ hq, rival⟩
      · exact .inl ((covers_apply_self hplace).applyAll rest)
    · have hrest := ih (table.apply x).2 hr
      rcases hrest with hcovers | ⟨q, hq, rival⟩
      · exact .inl hcovers
      · refine .inr ⟨q, ?_, rival⟩
        rcases List.mem_append.mp hq with hq | hq
        · rcases mem_of_mem_apply hq with hq | rfl
          · exact List.mem_append_left _ hq
          · exact List.mem_append_right _ List.mem_cons_self
        · exact List.mem_append_right _ (List.mem_cons_of_mem x hq)

/-- Records whose places nobody disputes are all covered once they were handed to the table. -/
theorem covers_applyAll (undisputed : Undisputed (table.rows ++ records)) (hr : r ∈ records) :
    (table.applyAll records).Covers r := by
  rcases covers_applyAll_or table hr with hcovers | ⟨q, hq, horigin, hplace, hid⟩
  · exact hcovers
  · exact absurd (undisputed q hq r (List.mem_append_right _ hr) horigin hplace) hid

/-! ### From the empty table -/

section FromEmpty
variable (own : OwnPlaces records)
include own

theorem covers_of_mem (hr : r ∈ records) : (({} : ReplicatedTable).applyAll records).Covers r :=
  covers_applyAll own.undisputed hr

/-- What is kept are the records of the highest place of their identifier. -/
theorem mem_applyAll_empty_iff :
    r ∈ (({} : ReplicatedTable).applyAll records).rows ↔
      r ∈ records ∧ ∀ q ∈ records, q.sameSubject r = true → q.originSequence ≤ r.originSequence := by
  have single : (({} : ReplicatedTable).applyAll records).OneEach := OneEach.applyAll List.Pairwise.nil records
  have known : ∀ p ∈ (({} : ReplicatedTable).applyAll records).rows, p ∈ records := fun p hp =>
    (mem_applyAll hp).resolve_left List.not_mem_nil
  constructor
  · intro hr
    refine ⟨known r hr, fun q hq hsame => ?_⟩
    obtain ⟨p, hp, hpq, hle⟩ := covers_of_mem own hq
    rw [← single.eq hp hr (sameSubject_trans hpq hsame)]
    exact hle
  · rintro ⟨hr, highest⟩
    -- What covers it has its place, so it is the record itself.
    obtain ⟨p, hp, hsame, hle⟩ := covers_of_mem own hr
    have hplace := Int64.le_antisymm (highest p (known p hp) hsame) hle
    rw [← own p (known p hp) r hr (sameSubject_iff.mp hsame).1 hplace]
    exact hp

/-- Of the identifier of every record exactly one record is kept, the one of the highest place. -/
theorem kept_of_mem (hr : r ∈ records) :
    ∃ q ∈ records, (({} : ReplicatedTable).applyAll records).rows.filter (fun p => p.sameSubject r) = [q] ∧
      ∀ p ∈ records, p.sameSubject r = true → p.originSequence ≤ q.originSequence := by
  have single : (({} : ReplicatedTable).applyAll records).OneEach := OneEach.applyAll List.Pairwise.nil records
  obtain ⟨q, hq, hsame, -⟩ := covers_of_mem own hr
  obtain ⟨hknown, highest⟩ := (mem_applyAll_empty_iff own).mp hq
  refine ⟨q, hknown, ?_, fun p hp hpr => highest p hp (sameSubject_trans hpr (sameSubject_comm.trans hsame))⟩
  have only : ∀ p ∈ (({} : ReplicatedTable).applyAll records).rows.filter (fun p => p.sameSubject r), p = q := by
    intro p hp
    obtain ⟨hp, hpr⟩ := List.mem_filter.mp hp
    exact single.eq hp hq (sameSubject_trans hpr (sameSubject_comm.trans hsame))
  have hmem : q ∈ (({} : ReplicatedTable).applyAll records).rows.filter (fun p => p.sameSubject r) :=
    List.mem_filter.mpr ⟨hq, hsame⟩
  have apart := List.Pairwise.filter (fun p => p.sameSubject r) single
  generalize (({} : ReplicatedTable).applyAll records).rows.filter (fun p => p.sameSubject r) = found at only hmem apart
  rcases found with _ | ⟨a, _ | ⟨b, rest⟩⟩
  · cases hmem
  · rw [only a (by simp)]
  · have hab := (List.pairwise_cons.mp apart).1 b (by simp)
    rw [only a (by simp), only b (by simp), sameSubject_refl] at hab
    cases hab

end FromEmpty

/-- Whether a record is kept tells whether it is newer than all that were applied before it. -/
theorem apply_applyAll_iff (own : OwnPlaces (records ++ [r])) :
    ((({} : ReplicatedTable).applyAll records).apply r).1 = true ↔
      ∀ q ∈ records, q.sameSubject r = true → q.originSequence < r.originSequence := by
  have own_before : OwnPlaces records := fun a ha b hb =>
    own a (List.mem_append_left _ ha) b (List.mem_append_left _ hb)
  have free : ¬(({} : ReplicatedTable).applyAll records).Displaces r := by
    rintro ⟨q, hq, horigin, hplace, hid⟩
    have hq := ((mem_applyAll_empty_iff own_before).mp hq).1
    rw [own q (List.mem_append_left _ hq) r (by simp) horigin hplace] at hid
    exact hid rfl
  rw [apply_kept_iff, and_iff_left free]
  constructor
  · intro news q hq hsame
    obtain ⟨p, hp, hpq, hle⟩ := covers_of_mem own_before hq
    refine Int64.not_le.mp fun hge => news ⟨p, hp, sameSubject_trans hpq hsame, Int64.le_trans hge hle⟩
  · rintro newer ⟨q, hq, hsame, hle⟩
    exact Int64.not_le.mpr (newer q ((mem_applyAll_empty_iff own_before).mp hq).1 hsame) hle

theorem ordered_perm (table : ReplicatedTable) : table.ordered.Perm table.rows :=
  List.mergeSort_perm ..

theorem ordered_pairwise (table : ReplicatedTable) : table.ordered.Pairwise fun a b => a.isBefore b = true := by
  have sorted := @List.pairwise_mergeSort _ isBefore (fun _ _ _ h h' => isBefore_trans h h') isBefore_total table.rows
  exact sorted

/-- Tables with the same records, whose places differ, show the same rows. -/
theorem ordered_eq {other : ReplicatedTable} (own : OwnPlaces table.rows) (same : table.rows.Perm other.rows) :
    table.ordered = other.ordered := by
  refine List.Perm.eq_of_pairwise ?_ table.ordered_pairwise other.ordered_pairwise
    (table.ordered_perm.trans (same.trans other.ordered_perm.symm))
  -- Both lists are sorted by place, and no two of the records share one.
  intro a b ha hb hab hba
  have ha' : a ∈ table.rows := table.ordered_perm.mem_iff.mp ha
  have hb' : b ∈ table.rows := same.mem_iff.mpr (other.ordered_perm.mem_iff.mp hb)
  obtain ⟨horigin, hplace⟩ := place_of_isBefore hab hba
  exact own a ha' b hb' horigin hplace

end ReplicatedTable

end IdentityServer
