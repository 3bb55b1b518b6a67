import IdentityServer.Proofs.Signing.RingReading

/-! # A ring beside its table

Loading, rotation and pruning each change a ring and its table alike: what the ring knows are the keys that the table
holds, and the current one is the last of them. -/

namespace IdentityServer.KeyRing
open KeyTable
variable [SignatureScheme] {ring : KeyRing} {table : KeyTable} {older : List StoredKey} {latest : StoredKey}
  {configured : Option String} {fresh : Bytes} {now : Int64} {keyId : String}

/-- The ring knows the keys of the table, and signs with the last one. -/
structure Mirrors (ring : KeyRing) (table : KeyTable) (older : List StoredKey) (latest : StoredKey) : Prop where
  succession : table.Succession older latest
  held : ∀ r ∈ table.rows, ∃ key, r.Holds key
  current : latest.Holds ring.current
  all : Knows ring.all table.rows

omit [SignatureScheme] in
theorem ofSeed_cases (version : Int64) (seed : Bytes) :
    (seed.length ≠ SignatureScheme.seedLength ∧ KeyPair.ofSeed version seed = .error .seedLength) ∨
    ∃ key : KeyPair, key.version = version ∧ key.seed = seed ∧ KeyPair.ofSeed version seed = .ok key := by
  by_cases length : seed.length = SignatureScheme.seedLength
  · exact .inr ⟨⟨version, seed, length⟩, rfl, rfl, KeyPair.ofSeed_eq_ok.mpr ⟨rfl, rfl⟩⟩
  · exact .inl ⟨length, KeyPair.ofSeed_eq_error.mpr ⟨rfl, length⟩⟩

/-! ### Loading -/

/-- A setting of a key that is well formed, if there is one. -/
def WellConfigured (configured : Option String) : Prop :=
  ∀ text ∈ configured, ∃ key, KeyPair.ofConfig text = .ok key

/-- A table that holds keys is read as it is. -/
theorem load_stored (succession : table.Succession older latest) (held : ∀ r ∈ table.rows, ∃ key, r.Holds key)
    (configured : Option String) (fresh : Bytes) (now : Int64) :
    (¬WellConfigured configured ∧ ∃ fault, load configured fresh now table = .error (.keyLoad fault)) ∨
    (WellConfigured configured ∧ ∃ ring, load configured fresh now table = .ok (ring, table) ∧
      ring.Mirrors table older latest ∧ Recalls ring.retiredAt (table.rows.map (·.version)) table.accessions) := by
  obtain ⟨ring, hring, current, all, retiredAt⟩ := ofRows_succession succession held
  have filled : table.rows.isEmpty = false := List.isEmpty_eq_false_iff_exists_mem.mpr ⟨latest, succession.latest_mem⟩
  have read : ring.Mirrors table older latest := ⟨succession, held, current, all⟩
  cases configured with
  | none =>
    refine .inr ⟨nofun, ring, ?_, read, retiredAt⟩
    simp [load, filled, hring, loading, bind_ok, pure, Except.pure]
  | some text =>
    cases hkey : KeyPair.ofConfig text with
    | error fault =>
      refine .inl ⟨fun well => ?_, fault, ?_⟩
      · obtain ⟨key, hok⟩ := well text rfl
        cases hkey.symm.trans hok
      · simp [load, filled, hkey, loading, bind_error]
    | ok key =>
      refine .inr ⟨?_, ring, ?_, read, retiredAt⟩
      · rintro _ ⟨⟩
        exact ⟨key, hkey⟩
      · simp [load, filled, hkey, hring, loading, bind_ok, pure, Except.pure]

/-- The key that an empty table gets: the configured one, or a fresh one. -/
def firstKey (configured : Option String) (fresh : Bytes) : Except KeyFault KeyPair :=
  match configured with
  | some text => KeyPair.ofConfig text
  | none => KeyPair.ofSeed 0 fresh

theorem load_empty (configured : Option String) (fresh : Bytes) (now : Int64) :
    (∃ fault, firstKey configured fresh = .error fault ∧ load configured fresh now {} = .error (.keyLoad fault)) ∨
    ∃ ring, firstKey configured fresh = .ok ring.current ∧
      load configured fresh now {} = .ok (ring, ⟨[rowOf ring.current now]⟩) ∧
      ring.Mirrors ⟨[rowOf ring.current now]⟩ [] (rowOf ring.current now) ∧
      Recalls ring.retiredAt [ring.current.version] [(rowOf ring.current now).accession] := by
  have hload : load configured fresh now {} = (do
      let key ← loading (firstKey configured fresh)
      let table ← persist key now {}
      return (← loading (ofRows table.rows), table)) := by
    cases configured <;> rfl
  rw [hload]
  cases hfirst : firstKey configured fresh with
  | error fault => exact .inl ⟨fault, rfl, rfl⟩
  | ok key =>
    have hpersist : persist key now {} = .ok ⟨[rowOf key now]⟩ := by
      rw [persist, execute_insertCurrent_empty rfl]
    have succession : Succession ⟨[rowOf key now]⟩ [] (rowOf key now) := succession_single rfl
    have held : ∀ r ∈ [rowOf key now], ∃ key, r.Holds key :=
      List.forall_mem_singleton.mpr ⟨key, StoredKey.holds_rowOf key now⟩
    obtain ⟨ring, hring, current, all, retiredAt⟩ := ofRows_succession succession held
    obtain rfl := current.unique (StoredKey.holds_rowOf key now)
    refine .inr ⟨ring, rfl, ?_, ⟨succession, held, current, all⟩, retiredAt⟩
    rw [loading, bind_ok, hpersist, bind_ok, hring]
    rfl

/-! ### Rotation -/

theorem Mirrors.nextVersion?_eq (h : ring.Mirrors table older latest) :
    nextVersion? table = if latest.version = Int64.maxValue then none else some (latest.version + 1) := by
  rw [nextVersion?, h.succession.greatestVersion?]

/-- A rotation adds the key of the next version, unless there is none or its seed is not one. -/
theorem Mirrors.rotate (h : ring.Mirrors table older latest) (fresh : Bytes) (made retired : Int64) :
    (latest.version = Int64.maxValue ∧ ring.rotate fresh made retired table = .error .overflow) ∨
    (fresh.length ≠ SignatureScheme.seedLength ∧ ∃ failure, ring.rotate fresh made retired table = .error (.failed failure)) ∨
    ∃ key : KeyPair, key.version = latest.version + 1 ∧ latest.version < key.version ∧ key.seed = fresh ∧
      let next : KeyRing := ⟨key, ring.all.insert key.id key, ring.retiredAt.insert ring.current.id retired⟩
      ring.rotate fresh made retired table = .ok (next, ⟨older ++ [latest.retire] ++ [rowOf key made]⟩) ∧
      next.Mirrors ⟨older ++ [latest.retire] ++ [rowOf key made]⟩ (older ++ [latest.retire]) (rowOf key made) := by
  rw [KeyRing.rotate, h.nextVersion?_eq]
  by_cases greatest : latest.version = Int64.maxValue
  · exact .inl ⟨greatest, by rw [if_pos greatest]⟩
  refine .inr ?_
  rw [if_neg greatest]
  dsimp only
  rcases ofSeed_cases (latest.version + 1) fresh with ⟨length, hseed⟩ | ⟨key, hversion, hfresh, hseed⟩
  · exact .inl ⟨length, _, by rw [hseed]; rfl⟩
  · have above : latest.version < key.version := by
      grind
    have hpersist : persist key made table = .ok ⟨older ++ [latest.retire] ++ [rowOf key made]⟩ := by
      rw [persist, h.succession.execute_insertCurrent rfl above]
    refine .inr ⟨key, hversion, above, hfresh, ?_, h.succession.inserted rfl above, ?_, StoredKey.holds_rowOf key made, ?_⟩
    · rw [hseed, loading, Except.mapError, bind_ok, hpersist]
      rfl
    · rw [← h.succession.map_retire]
      refine List.forall_mem_append.mpr ⟨fun r hr => ?_, List.forall_mem_singleton.mpr ⟨key, StoredKey.holds_rowOf key made⟩⟩
      obtain ⟨q, hq, rfl⟩ := List.mem_map.mp hr
      obtain ⟨other, hother⟩ := h.held q hq
      exact ⟨other, StoredKey.holds_retire.mpr hother⟩
    · rw [← h.succession.map_retire]
      exact h.all.of_retired.insert (StoredKey.holds_rowOf key made) fun r hr =>
        Int64.ne_of_lt (h.succession.below_next above r hr)

/-! ### Pruning -/

/-- The current key is refused, a key that is not known is not there, and a retired key goes from the ring and the
    table. -/
theorem Mirrors.prune (h : ring.Mirrors table older latest) (keyId : String) :
    (keyId = ring.current.id ∧ ring.prune keyId table = .error (.currentKeyInUse keyId)) ∨
    (ring.all.get? keyId = none ∧ ring.prune keyId table = .ok (false, ring, table)) ∨
    ∃ r ∈ older, KeyPair.idOf r.version = keyId ∧
      let next : KeyRing := { ring with all := ring.all.erase keyId, retiredAt := ring.retiredAt.erase keyId }
      let rest : KeyTable := ⟨table.rows.filter (·.version ≠ r.version)⟩
      ring.prune keyId table = .ok (true, next, rest) ∧ next.Mirrors rest (older.filter (·.version ≠ r.version)) latest := by
  rw [KeyRing.prune]
  by_cases current : ring.current.id = keyId
  · exact .inl ⟨current.symm, if_pos current⟩
  refine .inr ?_
  rw [if_neg current]
  cases known : ring.all.get? keyId with
  | none => exact .inl ⟨rfl, rfl⟩
  | some key =>
    obtain ⟨hkey, r, hr, hholds⟩ := (h.all keyId key).mp known
    have hid : KeyPair.idOf r.version = keyId := by
      rw [hholds.version]
      exact hkey
    have retired : r ∈ older := by
      rcases h.succession.mem.mp hr with hr | rfl
      · exact hr
      · rw [hholds.unique h.current] at hkey
        exact absurd hkey current
    have found : older.any (·.version == r.version) = true := List.any_eq_true.mpr ⟨r, retired, beq_self_eq_true _⟩
    have spared : latest.version ≠ r.version := (Int64.ne_of_lt (h.succession.below r retired)).symm
    have hdelete := h.succession.deleteRetired spared
    have all := h.all.erase r.version
    rw [found, hholds.version] at hdelete
    rw [hid] at all
    refine .inr ⟨r, retired, hid, ?_, h.succession.deleted spared, fun q hq => h.held q (List.mem_of_mem_filter hq),
      h.current, all⟩
    rw [hholds.version]
    dsimp only
    rw [hdelete]

theorem Mirrors.prune_unknown (h : ring.Mirrors table older latest)
    (unknown : ∀ r ∈ table.rows, KeyPair.idOf r.version ≠ keyId) : ring.prune keyId table = .ok (false, ring, table) := by
  obtain ⟨rfl, -⟩ | ⟨-, hprune⟩ | ⟨r, hr, hid, -⟩ := h.prune keyId
  · exact absurd (congrArg KeyPair.idOf h.current.version) (unknown latest h.succession.latest_mem)
  · exact hprune
  · exact absurd hid (unknown r (h.succession.mem.mpr (.inl hr)))

theorem Mirrors.prune_retired (h : ring.Mirrors table older latest) {r : StoredKey} (hr : r ∈ older) :
    ∃ next, ring.prune (KeyPair.idOf r.version) table = .ok (true, next, ⟨table.rows.filter (·.version ≠ r.version)⟩) := by
  have stored : r ∈ table.rows := h.succession.mem.mpr (.inl hr)
  obtain ⟨current, -⟩ | ⟨unknown, -⟩ | ⟨q, -, hid, hprune, -⟩ := h.prune (KeyPair.idOf r.version)
  · have same : r.version = latest.version := (KeyPair.idOf_inj current).trans h.current.version.symm
    exact absurd same (Int64.ne_of_lt (h.succession.below r hr))
  · obtain ⟨key, hkey⟩ := h.held r stored
    have known := (h.all (KeyPair.idOf r.version) key).mpr ⟨congrArg KeyPair.idOf hkey.version.symm, r, stored, hkey⟩
    cases unknown.symm.trans known
  · rw [KeyPair.idOf_inj hid] at hprune
    exact ⟨_, hprune⟩

end IdentityServer.KeyRing
