import IdentityServer.Proofs.Json.Unambiguous
import IdentityServer.Proofs.Signing.KeyPair
import IdentityServer.Proofs.Signing.SignedFields
import IdentityServer.Proofs.Store.KeyTable
import IdentityServer.Signing.KeyRing
import Mathlib.Data.List.Induction

/-! # A ring and its table

A ring that is read from a succession of keys knows exactly the keys of the rows, signs with the last one, and takes
each of the others to have been retired when the row of the next one was made. -/

namespace IdentityServer

namespace KeyPair

/-- Versions with one key id are the same. -/
theorem idOf_inj {v w : Int64} (h : idOf v = idOf w) : v = w := by
  have hlist := congrArg String.toList h
  simp only [idOf, String.toList_append, String.toList_ofList, List.append_cancel_left_eq] at hlist
  exact Int64.toInt_inj.mp (Json.showInt_inj hlist)

theorem eq_of {a b : KeyPair} (version : a.version = b.version) (seed : a.seed = b.seed) : a = b := by
  cases a
  cases b
  cases version
  cases seed
  rfl

end KeyPair

namespace StoredKey
variable [SignatureScheme] {r : StoredKey} {key other : KeyPair}

/-- The row is that of the key. -/
structure Holds (r : StoredKey) (key : KeyPair) : Prop where
  version : r.version = key.version
  algorithm : r.algorithm = KeyPair.algorithm
  seed : r.seed = key.seed
  publicKey : r.publicKey = key.publicKey

theorem holds_rowOf (key : KeyPair) (now : Int64) : (KeyRing.rowOf key now).Holds key :=
  ⟨rfl, rfl, rfl, rfl⟩

theorem Holds.unique (h : r.Holds key) (h' : r.Holds other) : key = other :=
  KeyPair.eq_of (h.version.symm.trans h'.version) (h.seed.symm.trans h'.seed)

theorem holds_retire : r.retire.Holds key ↔ r.Holds key :=
  ⟨fun h => ⟨h.version, h.algorithm, h.seed, h.publicKey⟩, fun h => ⟨h.version, h.algorithm, h.seed, h.publicKey⟩⟩

theorem Holds.ofSeed (h : r.Holds key) : KeyPair.ofSeed r.version r.seed = .ok key :=
  KeyPair.ofSeed_eq_ok.mpr ⟨h.version, h.seed⟩

end StoredKey

/-- A key that took the place of the one before it, and the time at which that one was retired. -/
structure Accession where
  version : Int64
  time : Int64

/-- What a row tells: the key before it was retired when the row was made. -/
def StoredKey.accession (r : StoredKey) : Accession :=
  ⟨r.version, r.createdAt⟩

@[simp] theorem StoredKey.accession_version (r : StoredKey) : r.accession.version = r.version := rfl

def KeyTable.accessions (table : KeyTable) : List Accession :=
  table.rows.map (·.accession)

namespace KeyRing

/-! ### Times of retirement -/

section Times
variable {seen : List Accession} {retiredAt : Dictionary Int64} {versions : List Int64} {latest : Int64} {newest : Accession}

/-- When the oldest of the newer keys took its place. -/
def retirement? (seen : List Accession) (version : Int64) : Option Int64 :=
  (seen.find? (version < ·.version)).map (·.time)

theorem retirement?_append (seen : List Accession) (newest : Accession) (version : Int64) :
    retirement? (seen ++ [newest]) version =
      (retirement? seen version).or (if version < newest.version then some newest.time else none) := by
  rw [retirement?, List.find?_append, Option.map_or]
  by_cases h : version < newest.version <;> simp [retirement?, h]

theorem retirement?_eq_none {version : Int64} (last : ∀ q ∈ seen, q.version ≤ version) : retirement? seen version = none := by
  have unfollowed : seen.find? (version < ·.version) = none :=
    List.find?_eq_none.mpr fun q hq => by simpa using last q hq
  rw [retirement?, unfollowed, Option.map_none]

theorem exists_retirement? {version : Int64} {q : Accession} (hq : q ∈ seen) (newer : version < q.version) :
    ∃ time, retirement? seen version = some time := by
  cases hfound : seen.find? (version < ·.version) with
  | none => exact absurd (decide_eq_true newer) (List.find?_eq_none.mp hfound q hq)
  | some next =>
    rw [retirement?, hfound]
    exact ⟨_, rfl⟩

/-- The times are those at which keys of these versions have been retired, by what has been seen of all keys. -/
def Recalls (retiredAt : Dictionary Int64) (versions : List Int64) (seen : List Accession) : Prop :=
  ∀ id time, retiredAt.get? id = some time ↔ ∃ v ∈ versions, KeyPair.idOf v = id ∧ retirement? seen v = some time

/-- A key is retired by the next one, and no other time changes. -/
theorem Recalls.succeeded (h : Recalls retiredAt (versions ++ [latest]) seen)
    (followed : ∀ v ∈ versions, ∃ q ∈ seen, v < q.version) (last : ∀ q ∈ seen, q.version ≤ latest)
    (above : latest < newest.version) :
    Recalls (retiredAt.insert (KeyPair.idOf latest) newest.time) (versions ++ [latest] ++ [newest.version])
      (seen ++ [newest]) := by
  have retires : retirement? (seen ++ [newest]) latest = some newest.time := by
    rw [retirement?_append, retirement?_eq_none last, Option.none_or, if_pos above]
  -- The older ones have a successor that has been seen, so the next one is not theirs.
  have keeps : ∀ v ∈ versions, retirement? (seen ++ [newest]) v = retirement? seen v := by
    intro v hv
    obtain ⟨q, hq, newer⟩ := followed v hv
    obtain ⟨time, htime⟩ := exists_retirement? hq newer
    rw [retirement?_append, htime, Option.some_or]
  have current : retirement? (seen ++ [newest]) newest.version = none := by
    refine retirement?_eq_none (List.forall_mem_append.mpr ⟨fun q hq => ?_, List.forall_mem_singleton.mpr ?_⟩)
    · exact Int64.le_of_lt (Int64.lt_of_le_of_lt (last q hq) above)
    · exact Int64.le_refl _
  intro id time
  rw [Dictionary.get?_insert]
  by_cases hid : KeyPair.idOf latest = id
  · rw [if_pos hid, ← retires]
    refine ⟨fun htime => ⟨latest, by simp, hid, htime⟩, ?_⟩
    rintro ⟨v, -, hv, htime⟩
    rwa [KeyPair.idOf_inj (hid.trans hv.symm)]
  · rw [if_neg hid, h id time]
    constructor
    · rintro ⟨v, hv, hvid, htime⟩
      rcases List.mem_append.mp hv with hv | hv
      · exact ⟨v, by simp [hv], hvid, (keeps v hv).trans htime⟩
      · exact absurd (List.mem_singleton.mp hv ▸ hvid) hid
    · rintro ⟨v, hv, hvid, htime⟩
      rcases List.mem_append.mp hv with hv | hv
      · rcases List.mem_append.mp hv with hv | hv
        · exact ⟨v, List.mem_append_left _ hv, hvid, (keeps v hv).symm.trans htime⟩
        · exact absurd (List.mem_singleton.mp hv ▸ hvid) hid
      · rw [List.mem_singleton.mp hv, current] at htime
        cases htime

/-- What the rows tell of the times, with one row more. -/
theorem Recalls.next {rows : List StoredKey} {row : StoredKey}
    (h : Recalls retiredAt (rows.map (·.version)) (rows.map (·.accession)))
    (ascending : (rows ++ [row]).Pairwise fun a b => a.version < b.version) :
    Recalls (match rows.getLast?.map fun r => KeyPair.idOf r.version with
      | some id => retiredAt.insert id row.createdAt
      | none => retiredAt) ((rows ++ [row]).map (·.version)) ((rows ++ [row]).map (·.accession)) := by
  rcases List.eq_nil_or_concat' rows with rfl | ⟨older, latest, rfl⟩
  · have unfollowed : retirement? [row.accession] row.version = none :=
      retirement?_eq_none (List.forall_mem_singleton.mpr (Int64.le_refl _))
    intro id time
    rw [List.getLast?_nil, Option.map_none]
    refine (h id time).trans ⟨nofun, ?_⟩
    rintro ⟨v, hv, -, htime⟩
    rw [List.mem_singleton.mp hv] at htime
    cases unfollowed.symm.trans htime
  · obtain ⟨ascending, above⟩ := KeyTable.ascending_concat.mp ascending
    obtain ⟨-, below⟩ := KeyTable.ascending_concat.mp ascending
    have followed : ∀ v ∈ older.map (·.version), ∃ q ∈ (older ++ [latest]).map (·.accession), v < q.version := by
      intro v hv
      obtain ⟨r, hr, rfl⟩ := List.mem_map.mp hv
      exact ⟨latest.accession, List.mem_map_of_mem (by simp), below r hr⟩
    have last : ∀ q ∈ (older ++ [latest]).map (·.accession), q.version ≤ latest.version :=
      List.forall_mem_map.mpr (KeyTable.le_concat below)
    have above : latest.version < row.accession.version := above latest (by simp)
    rw [List.map_append] at h
    have succeeded := h.succeeded followed last above
    rw [List.getLast?_concat, Option.map_some]
    simp only [List.map_append, List.map_cons, List.map_nil] at succeeded ⊢
    exact succeeded

theorem Recalls.erase (h : Recalls retiredAt versions seen) (version : Int64) :
    Recalls (retiredAt.erase (KeyPair.idOf version)) (versions.filter (· ≠ version)) seen := by
  intro id time
  rw [Dictionary.get?_erase]
  by_cases hid : KeyPair.idOf version = id
  · rw [if_pos hid]
    refine ⟨nofun, ?_⟩
    rintro ⟨v, hv, hvid, -⟩
    exact absurd (KeyPair.idOf_inj (hvid.trans hid.symm)) (of_decide_eq_true (List.mem_filter.mp hv).2)
  · rw [if_neg hid, h id time]
    constructor
    · rintro ⟨v, hv, hvid, htime⟩
      exact ⟨v, List.mem_filter.mpr ⟨hv, decide_eq_true fun same => hid (same ▸ hvid)⟩, hvid, htime⟩
    · rintro ⟨v, hv, hvid, htime⟩
      exact ⟨v, List.mem_of_mem_filter hv, hvid, htime⟩

end Times

/-! ### Known keys -/

variable [SignatureScheme] {rows : List StoredKey} {row : StoredKey} {key : KeyPair} {all : Dictionary KeyPair}

/-- The known keys are those of the rows, each under its key id. -/
def Knows (all : Dictionary KeyPair) (rows : List StoredKey) : Prop :=
  ∀ id key, all.get? id = some key ↔ key.id = id ∧ ∃ r ∈ rows, r.Holds key

theorem Knows.of_retired {table : KeyTable} (h : Knows all table.rows) : Knows all table.unmarked := by
  intro id key
  rw [h id key]
  simp [KeyTable.unmarked, StoredKey.holds_retire]

theorem Knows.insert (h : Knows all rows) (hrow : row.Holds key) (fresh : ∀ r ∈ rows, r.version ≠ row.version) :
    Knows (all.insert key.id key) (rows ++ [row]) := by
  intro id other
  rw [Dictionary.get?_insert]
  by_cases hid : key.id = id
  · rw [if_pos hid]
    constructor
    · rintro ⟨⟩
      exact ⟨hid, row, List.mem_append_right _ (List.mem_singleton_self row), hrow⟩
    · rintro ⟨hother, r, hr, hholds⟩
      have same : other.version = key.version := KeyPair.idOf_inj (hother.trans hid.symm)
      rcases List.mem_append.mp hr with hr | hr
      · exact absurd (hholds.version.trans (same.trans hrow.version.symm)) (fresh r hr)
      · rw [List.mem_singleton.mp hr] at hholds
        rw [hrow.unique hholds]
  · rw [if_neg hid, h id other]
    refine and_congr_right fun hother => ⟨fun ⟨r, hr, hholds⟩ => ⟨r, List.mem_append_left _ hr, hholds⟩, ?_⟩
    rintro ⟨r, hr, hholds⟩
    rcases List.mem_append.mp hr with hr | hr
    · exact ⟨r, hr, hholds⟩
    · rw [List.mem_singleton.mp hr] at hholds
      exact absurd (hrow.unique hholds ▸ hother) hid

theorem Knows.erase (h : Knows all rows) (version : Int64) :
    Knows (all.erase (KeyPair.idOf version)) (rows.filter (·.version ≠ version)) := by
  intro id key
  rw [Dictionary.get?_erase]
  by_cases hid : KeyPair.idOf version = id
  · rw [if_pos hid]
    refine ⟨nofun, ?_⟩
    rintro ⟨hkey, r, hr, hholds⟩
    have other : r.version ≠ version := of_decide_eq_true (List.mem_filter.mp hr).2
    exact absurd (hholds.version.trans (KeyPair.idOf_inj (hkey.trans hid.symm))) other
  · rw [if_neg hid, h id key]
    refine and_congr_right fun hkey => ⟨?_, fun ⟨r, hr, hholds⟩ => ⟨r, List.mem_of_mem_filter hr, hholds⟩⟩
    rintro ⟨r, hr, hholds⟩
    refine ⟨r, List.mem_filter.mpr ⟨hr, decide_eq_true fun same => hid ?_⟩, hholds⟩
    rw [← hkey, ← same, hholds.version]
    rfl

/-! ### Reading -/

/-- What has been read of rows that are all retired. -/
structure Reads (rows : List StoredKey) (reading : Reading) : Prop where
  current : reading.current = none
  all : Knows reading.all rows
  retiredAt : Recalls reading.retiredAt (rows.map (·.version)) (rows.map (·.accession))
  awaiting : reading.awaiting = rows.getLast?.map fun r => KeyPair.idOf r.version

theorem reads_nil : Reads [] {} :=
  ⟨rfl, fun _ _ => ⟨nofun, nofun⟩, fun _ _ => ⟨nofun, nofun⟩, rfl⟩

/-- The next row, whether its key was retired or is the current one. -/
theorem Reads.step {reading : Reading} (h : Reads rows reading)
    (ascending : (rows ++ [row]).Pairwise fun a b => a.version < b.version) (hrow : row.Holds key) :
    ∃ next, Reading.step reading row = .ok next ∧ Knows next.all (rows ++ [row]) ∧
      Recalls next.retiredAt ((rows ++ [row]).map (·.version)) ((rows ++ [row]).map (·.accession)) ∧
      next.current = (if row.current then some key else none) ∧
      next.awaiting = (if row.current then none else some key.id) := by
  obtain ⟨-, above⟩ := KeyTable.ascending_concat.mp ascending
  have hstep : Reading.step reading row = .ok {
      current := if row.current then some key else reading.current
      all := reading.all.insert key.id key
      retiredAt := match reading.awaiting with
        | some id => reading.retiredAt.insert id row.createdAt
        | none => reading.retiredAt
      awaiting := if row.current then none else some key.id } := by
    rw [Reading.step, if_neg (not_not_intro hrow.algorithm), hrow.ofSeed]
    rfl
  refine ⟨_, hstep, h.all.insert hrow fun r hr => Int64.ne_of_lt (above r hr), ?_, by rw [h.current], rfl⟩
  rw [h.awaiting]
  exact h.retiredAt.next ascending

theorem reads_retired (ascending : rows.Pairwise fun a b => a.version < b.version) (retired : ∀ r ∈ rows, r.current = false)
    (held : ∀ r ∈ rows, ∃ key, r.Holds key) : ∃ reading, rows.foldlM Reading.step {} = .ok reading ∧ Reads rows reading := by
  induction rows using List.reverseRecOn with
  | nil => exact ⟨{}, rfl, reads_nil⟩
  | append_singleton rows row ih =>
    obtain ⟨retired, hretired⟩ := List.forall_mem_append.mp retired
    obtain ⟨held, hheld⟩ := List.forall_mem_append.mp held
    obtain ⟨reading, hreading, reads⟩ := ih (KeyTable.ascending_concat.mp ascending).1 retired held
    obtain ⟨key, hrow⟩ := List.forall_mem_singleton.mp hheld
    have unmarked : row.current = false := hretired row (List.mem_singleton_self row)
    obtain ⟨next, hnext, all, retiredAt, current, awaiting⟩ := reads.step ascending hrow
    rw [unmarked, if_neg Bool.false_ne_true] at current awaiting
    refine ⟨next, ?_, current, all, retiredAt, ?_⟩
    · rw [List.foldlM_append, hreading, bind_ok]
      exact bind_eq_ok.mpr ⟨next, hnext, rfl⟩
    · rw [awaiting, List.getLast?_concat, Option.map_some, hrow.version]
      rfl

/-- Reading a succession does not fail. -/
theorem ofRows_succession {table : KeyTable} {older : List StoredKey} {latest : StoredKey}
    (h : table.Succession older latest) (held : ∀ r ∈ table.rows, ∃ key, r.Holds key) :
    ∃ ring, ofRows table.rows = .ok ring ∧ latest.Holds ring.current ∧ Knows ring.all table.rows ∧
      Recalls ring.retiredAt (table.rows.map (·.version)) table.accessions := by
  have ascending := h.ascending
  rw [KeyTable.accessions, h.rows]
  rw [h.rows] at ascending held
  obtain ⟨held, hheld⟩ := List.forall_mem_append.mp held
  obtain ⟨reading, hreading, reads⟩ := reads_retired (KeyTable.ascending_concat.mp ascending).1 h.retired held
  obtain ⟨key, hlatest⟩ := List.forall_mem_singleton.mp hheld
  obtain ⟨next, hnext, all, retiredAt, current, -⟩ := reads.step ascending hlatest
  rw [if_pos h.current] at current
  have hrows : (older ++ [latest]).foldlM Reading.step {} = .ok next := by
    rw [List.foldlM_append, hreading, bind_ok]
    exact bind_eq_ok.mpr ⟨next, hnext, rfl⟩
  refine ⟨⟨key, next.all, next.retiredAt⟩, ?_, hlatest, all, retiredAt⟩
  rw [ofRows, hrows, bind_ok, current]
  rfl

end KeyRing

end IdentityServer
