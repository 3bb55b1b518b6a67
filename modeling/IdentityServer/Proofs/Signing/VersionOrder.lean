import IdentityServer.Proofs.Signing.Custody

/-! # The order of versions

A rotation gives its key the version after the greatest one. Versions are words: as integers they go up by one with each
rotation, and stay above all that were ever given, until the greatest word is reached. There is no version after that, and
every rotation is broken off. -/

namespace IdentityServer
variable [SignatureScheme]

namespace KeyRing
variable {ring : KeyRing} {table : KeyTable} {older : List StoredKey} {latest row : StoredKey} {retiredAt : Dictionary Int64}

omit [SignatureScheme] in
/-- The key before the last one was retired when the row of the last one was made. -/
theorem Recalls.replaced
    (h : Recalls retiredAt ((older ++ [latest] ++ [row]).map (·.version)) ((older ++ [latest] ++ [row]).map (·.accession)))
    (ascending : (older ++ [latest] ++ [row]).Pairwise fun a b => a.version < b.version) :
    retiredAt.get? (KeyPair.idOf latest.version) = some row.createdAt := by
  obtain ⟨ascending, above⟩ := KeyTable.ascending_concat.mp ascending
  obtain ⟨-, below⟩ := KeyTable.ascending_concat.mp ascending
  refine (h _ _).mpr ⟨latest.version, by simp, rfl, ?_⟩
  have last : ∀ q ∈ (older ++ [latest]).map (·.accession), q.version ≤ latest.version :=
    List.forall_mem_map.mpr (KeyTable.le_concat below)
  have above : latest.version < row.accession.version := above latest (by simp)
  rw [List.map_append, List.map_singleton, retirement?_append, retirement?_eq_none last, Option.none_or, if_pos above]
  rfl

/-- A rotation is broken off at the greatest word and nowhere else. -/
theorem Mirrors.rotate_overflow_iff (h : ring.Mirrors table older latest) (seed : Bytes) (made retired : Int64) :
    ring.rotate seed made retired table = .error .overflow ↔ ring.current.version = Int64.maxValue := by
  rw [← h.current.version]
  constructor
  · intro overflow
    obtain ⟨greatest, -⟩ | ⟨-, failure, hrotate⟩ | ⟨key, -, -, -, hrotate, -⟩ := h.rotate seed made retired
    · exact greatest
    · cases hrotate.symm.trans overflow
    · cases hrotate.symm.trans overflow
  · intro greatest
    rw [KeyRing.rotate, h.nextVersion?_eq, if_pos greatest]

/-- Below the greatest word, a rotation with a seed gives the next version, and a load finds the key that it made. The
    load takes the key before to have been retired when the row was made. -/
theorem Mirrors.rotate_seeded (h : ring.Mirrors table older latest) (room : ring.current.version ≠ Int64.maxValue)
    {seed : Bytes} (seeded : seed.length = SignatureScheme.seedLength) (made retired : Int64) :
    ∃ next : KeyRing, next.current.seed = seed ∧ next.current.version.toInt = ring.current.version.toInt + 1 ∧
      next.retiredAt.get? ring.current.id = some retired ∧
      let rotated : KeyTable := ⟨older ++ [latest.retire] ++ [rowOf next.current made]⟩
      ring.rotate seed made retired table = .ok (next, rotated) ∧
      ∀ configured fresh now, WellConfigured configured → ∃ again : KeyRing,
        load configured fresh now rotated = .ok (again, rotated) ∧ again.current = next.current ∧
        again.retiredAt.get? ring.current.id = some made := by
  rw [← h.current.version] at room ⊢
  obtain ⟨greatest, -⟩ | ⟨length, -⟩ | ⟨key, hversion, -, hseed, hrotate, mirrors⟩ := h.rotate seed made retired
  · exact absurd greatest room
  · exact absurd seeded length
  refine ⟨_, hseed, hversion ▸ Text.toInt_add_one room, ?_, hrotate, fun configured fresh now well => ?_⟩
  · rw [Dictionary.get?_insert, if_pos rfl]
  · obtain ⟨ill, -⟩ | ⟨-, again, hload, mirrors', recalls⟩ :=
      load_stored mirrors.succession mirrors.held configured fresh now
    · exact absurd well ill
    · refine ⟨again, hload, mirrors'.current.unique mirrors.current, ?_⟩
      have replaced := recalls.replaced mirrors.succession.ascending
      rwa [show latest.retire.version = ring.current.version from h.current.version] at replaced

end KeyRing

namespace Custody
variable {s : Custody} {ring : KeyRing} {older : List StoredKey} {latest : StoredKey}

/-- Whether an event asks for a new key. -/
def Event.isRotation : Event → Bool
  | .upkeep (.rotate ..) => true
  | _ => false

/-- An event that asks for a new key brings a seed for it. -/
def Event.Seeded : Event → Prop
  | .upkeep (.rotate fresh ..) => fresh.length = SignatureScheme.seedLength
  | _ => True

/-- The number of new keys that events ask for. -/
def rotations (events : List Event) : Nat :=
  events.countP Event.isRotation

/-- The greatest version goes up by one with each rotation, and with nothing else, as far as the words go. -/
theorem Kept.counts (h : s.Kept ring older latest) (event : Event) (seeded : event.Seeded) :
    ∃ ring older newest, (s.step event).Kept ring older newest ∧
      newest.version.toInt = min (latest.version.toInt + rotations [event]) Int64.maxValue.toInt := by
  have within : latest.version.toInt ≤ Int64.maxValue.toInt := Int64.le_iff_toInt_le.mp (Int64.le_maxValue _)
  have stays : latest.version.toInt = min (latest.version.toInt + (0 : Nat)) Int64.maxValue.toInt := by
    omega
  rcases event with ⟨configured, fresh, now⟩ | ⟨⟨fresh, made, retired⟩ | keyId⟩
  · obtain ⟨ring, kept⟩ := h.loads configured fresh now
    exact ⟨ring, older, latest, kept, stays⟩
  · obtain ⟨ring, older, newest, kept, next⟩ := h.rotates fresh made retired
    refine ⟨ring, older, newest, kept, ?_⟩
    have one : rotations [.upkeep (.rotate fresh made retired)] = 1 := rfl
    rw [next seeded, one]
    by_cases greatest : latest.version = Int64.maxValue
    · rw [if_pos greatest, greatest]
      rfl
    · have succ := Text.toInt_add_one greatest
      have within' : (latest.version + 1).toInt ≤ Int64.maxValue.toInt := Int64.le_iff_toInt_le.mp (Int64.le_maxValue _)
      rw [if_neg greatest]
      omega
  · obtain ⟨ring, older, kept⟩ := h.prunes keyId
    exact ⟨ring, older, latest, kept, stays⟩

theorem Kept.counts_run (h : s.Kept ring older latest) {events : List Event} (seeded : ∀ event ∈ events, event.Seeded) :
    ∃ ring older newest, (s.run events).Kept ring older newest ∧
      newest.version.toInt = min (latest.version.toInt + rotations events) Int64.maxValue.toInt := by
  induction events generalizing s ring older latest with
  | nil =>
    have within : latest.version.toInt ≤ Int64.maxValue.toInt := Int64.le_iff_toInt_le.mp (Int64.le_maxValue _)
    have none_yet : rotations [] = 0 := rfl
    exact ⟨ring, older, latest, h, by omega⟩
  | cons event rest ih =>
    obtain ⟨hevent, hrest⟩ := List.forall_mem_cons.mp seeded
    have total : rotations ([event] ++ rest) = rotations [event] + rotations rest := List.countP_append
    rw [List.singleton_append] at total
    rw [total]
    obtain ⟨ring, older, newest, kept, count⟩ := h.counts event hevent
    obtain ⟨ring, older, last, kept, count'⟩ := ih kept hrest
    exact ⟨ring, older, last, kept, by omega⟩

/-- Whatever loads, rotations and prunings follow on the first load: the current version is that of the first key and one
    more for each rotation, as far as the words go, and no greater one was ever stored. A rotation is broken off exactly if
    the greatest word is reached, which has no version after it; any next version is above all that were ever stored. Below
    the greatest word, a rotation with a seed is not refused, and its key is the last of the table in the order of the
    versions. The rotated ring says that the key before was retired at the second reading of the clock; every load says
    that it was at the first one, when the row was made. -/
theorem rotations_ascend (configured : Option String) (fresh : Bytes) (now : Int64) {first : KeyPair}
    (hfirst : KeyRing.firstKey configured fresh = .ok first) (events : List Event)
    (seeded : ∀ event ∈ events, event.Seeded) :
    let s := run {} (.load configured fresh now :: events)
    ∃ ring, s.ring = some ring ∧
      ring.current.version.toInt = min (first.version.toInt + rotations events) Int64.maxValue.toInt ∧
      (∀ r ∈ s.made, r.version ≤ ring.current.version) ∧
      (KeyRing.nextVersion? s.table = none ↔ ring.current.version = Int64.maxValue) ∧
      (∀ version ∈ KeyRing.nextVersion? s.table,
        version.toInt = ring.current.version.toInt + 1 ∧ ∀ r ∈ s.made, r.version < version) ∧
      (∀ seed made retired,
        ring.rotate seed made retired s.table = .error .overflow ↔ ring.current.version = Int64.maxValue) ∧
      ∀ seed made retired, seed.length = SignatureScheme.seedLength → ring.current.version ≠ Int64.maxValue →
        ∃ next table, ring.rotate seed made retired s.table = .ok (next, table) ∧ next.current.seed = seed ∧
          next.current.version.toInt = ring.current.version.toInt + 1 ∧
          (∀ r ∈ s.made, r.version < next.current.version) ∧
          (∃ rows, table.rows = rows ++ [KeyRing.rowOf next.current made] ∧ ∀ r ∈ rows, r.version < next.current.version) ∧
          next.retiredAt.get? ring.current.id = some retired ∧
          ∀ configured fresh now, KeyRing.WellConfigured configured → ∃ again : KeyRing,
            KeyRing.load configured fresh now table = .ok (again, table) ∧ again.current = next.current ∧
            again.retiredAt.get? ring.current.id = some made := by
  intro s
  obtain ⟨fault, failed, -⟩ | ⟨loaded, hloaded, kept⟩ := kept_load configured fresh now
  · cases failed.symm.trans hfirst
  cases hloaded.symm.trans hfirst
  obtain ⟨ring, older, latest, kept, count⟩ := kept.counts_run seeded
  have current : latest.version = ring.current.version := kept.mirrors.current.version
  have above (next : Int64) (hnext : next.toInt = ring.current.version.toInt + 1) : ∀ r ∈ s.made, r.version < next := by
    intro r hr
    have hle : r.version ≤ latest.version := kept.last r hr
    rw [Int64.le_iff_toInt_le, current] at hle
    rw [Int64.lt_iff_toInt_lt]
    omega
  have hnext : KeyRing.nextVersion? s.table =
      if ring.current.version = Int64.maxValue then none else some (ring.current.version + 1) :=
    current ▸ kept.mirrors.nextVersion?_eq
  refine ⟨ring, kept.loaded, current ▸ count, current ▸ kept.last, ?_, fun version hversion => ?_,
    kept.mirrors.rotate_overflow_iff, fun seed made retired seeded room => ?_⟩
  · rw [hnext]
    simp
  · obtain ⟨room, rfl⟩ : ring.current.version ≠ Int64.maxValue ∧ ring.current.version + 1 = version := by
      simpa [hnext] using hversion
    exact ⟨Text.toInt_add_one room, above _ (Text.toInt_add_one room)⟩
  · obtain ⟨next, hseed, hversion, hretired, hrotate, reloads⟩ := kept.mirrors.rotate_seeded room seeded made retired
    refine ⟨next, _, hrotate, hseed, hversion, above _ hversion, ⟨_, rfl, fun r hr => ?_⟩, hretired, reloads⟩
    rw [← kept.mirrors.succession.map_retire] at hr
    obtain ⟨q, hq, rfl⟩ := List.mem_map.mp hr
    exact above _ hversion _ (kept.mem_made hq)

omit [SignatureScheme] in
/-- The last two rotations that a word has room for, with a pruning between them and a clock that goes on during each. -/
theorem rotations_ascend_last :
    let _ : SignatureScheme := .transparent
    let configured := some "ed25519 9223372036854775805 AAAAAAAAAAAAAAAAAAAAAAAAAAAAAAAAAAAAAAAAAAA"
    let events : List Event := [.upkeep (.rotate (List.replicate 32 1) 20 21), .upkeep (.prune "ed25519:9223372036854775805")]
    let s := run {} (.load configured [] 10 :: events)
    let first : KeyPair := ⟨9223372036854775805, List.replicate 32 0, rfl⟩
    KeyRing.firstKey configured [] = .ok first ∧ (∀ event ∈ events, event.Seeded) ∧
    ∃ ring next table, s.ring = some ring ∧ ring.current.version.toInt = 9223372036854775806 ∧
      ring.rotate (List.replicate 32 2) 30 31 s.table = .ok (next, table) ∧ next.current.version = Int64.maxValue ∧
      next.retiredAt.get? "ed25519:9223372036854775806" = some 31 ∧
      ∃ again : KeyRing, KeyRing.load none [] 40 table = .ok (again, table) ∧
        again.retiredAt.get? "ed25519:9223372036854775806" = some 30 := by
  intro scheme configured events s first
  have hfirst : KeyRing.firstKey configured [] = .ok first := by decide +kernel +zetaReduce
  have seeded : ∀ event ∈ events, event.Seeded := by simp [events, Event.Seeded, SignatureScheme.seedLength]
  obtain ⟨ring, loaded, version, -, -, -, -, rotates⟩ := rotations_ascend configured [] 10 hfirst events seeded
  have version : ring.current.version.toInt = 9223372036854775806 := version.trans (by decide +kernel +zetaReduce)
  have below : ring.current.version ≠ Int64.maxValue := by
    intro last
    rw [last] at version
    exact absurd version (by decide)
  have hid : ring.current.id = "ed25519:9223372036854775806" := by
    rw [KeyPair.id, KeyPair.idOf, version]
    decide +kernel
  obtain ⟨next, table, hrotate, -, hversion, -, -, hretired, reloads⟩ := rotates (List.replicate 32 2) 30 31 rfl below
  have unconfigured : KeyRing.WellConfigured none := by
    intro text configured
    cases configured
  obtain ⟨again, hload, -, hread⟩ := reloads none [] 40 unconfigured
  rw [hid] at hretired hread
  refine ⟨hfirst, seeded, ring, next, table, loaded, version, hrotate, Int64.toInt_inj.mp ?_, hretired, again, hload, hread⟩
  rw [hversion, version]
  rfl

omit [SignatureScheme] in
/-- A configured key can have the greatest version, and the first rotation is broken off. -/
theorem greatest_version_overflows :
    let _ : SignatureScheme := .transparent
    let configured := some "ed25519 9223372036854775807 AAAAAAAAAAAAAAAAAAAAAAAAAAAAAAAAAAAAAAAAAAA"
    let s := run {} [.load configured [] 10]
    ∃ ring, KeyRing.firstKey configured [] = .ok ring.current ∧ s.ring = some ring ∧
      KeyRing.nextVersion? s.table = none ∧
      ring.rotate (List.replicate 32 1) 20 20 s.table = .error .overflow ∧
      s.step (.upkeep (.rotate (List.replicate 32 1) 20 20)) = s := by
  intro scheme configured s
  let greatest : KeyPair := ⟨Int64.maxValue, List.replicate 32 0, rfl⟩
  have loaded : s.ring = some ⟨greatest, .single greatest.id greatest, .empty⟩ := by decide +kernel +zetaReduce
  have none_left : KeyRing.nextVersion? s.table = none := by decide +kernel +zetaReduce
  have overflow (ring : KeyRing) : ring.rotate (List.replicate 32 1) 20 20 s.table = .error .overflow := by
    rw [KeyRing.rotate, none_left]
  refine ⟨_, by decide +kernel +zetaReduce, loaded, none_left, overflow _, ?_⟩
  simp only [step, Event.after?, loaded, Upkeep.after?, overflow, Except.toOption, Option.bind_some]

end Custody
end IdentityServer
