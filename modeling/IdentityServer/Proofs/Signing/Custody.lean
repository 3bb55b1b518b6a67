import IdentityServer.Proofs.Signing.Mirror

/-! # The keys of a server through time

A server loads its ring, rotates it and prunes it, and loads it again. Beside the ring and the table stand all keys that
were ever put in and the key ids that were pruned: the table holds the former without the latter, and no version is
given to a second key. Once the greatest version is reached, a rotation is broken off and changes nothing. -/

namespace IdentityServer
variable [SignatureScheme]

/-- What is done to a ring and its table. A rotation reads the clock when the row of the new key is made and once more
    when the key before it is retired. -/
inductive Upkeep where
  | rotate (fresh : Bytes) (made retired : Int64)
  | prune (keyId : String)

/-- The ring and the table afterwards, unless it fails. -/
def Upkeep.after? (ring : KeyRing) (table : KeyTable) : Upkeep → Option (KeyRing × KeyTable)
  | .rotate fresh made retired => (ring.rotate fresh made retired table).toOption
  | .prune keyId => (ring.prune keyId table).toOption.map (·.2)

/-- The keys of a server: the ring, once it has been loaded, and the table; all keys that were ever put into the table, and
    the key ids that were pruned; what the ring was told of the keys that follow on others, by the rows when it was loaded
    and by each rotation since. -/
structure Custody where
  ring : Option KeyRing := none
  table : KeyTable := {}
  made : List StoredKey := []
  pruned : List String := []
  accessions : List Accession := []

namespace Custody

inductive Event where
  | load (configured : Option String) (fresh : Bytes) (now : Int64)
  | upkeep (change : Upkeep)

def Event.after? (s : Custody) : Event → Option (KeyRing × KeyTable)
  | .load configured fresh now => (KeyRing.load configured fresh now s.table).toOption
  | .upkeep change => s.ring.bind fun ring => change.after? ring s.table

/-- The key ids that an event prunes. -/
def Event.prunes (s : Custody) : Event → List String
  | .upkeep (.prune keyId) =>
    match s.ring.map (KeyRing.prune · keyId s.table) with
    | some (.ok (true, _)) => [keyId]
    | _ => []
  | _ => []

/-- What the ring has been told after an event that left this ring and table. -/
def Event.accessions (s : Custody) (ring : KeyRing) (table : KeyTable) : Event → List Accession
  | .load .. => table.accessions
  | .upkeep (.rotate _ _ retired) => s.accessions ++ [⟨ring.current.version, retired⟩]
  | .upkeep (.prune _) => s.accessions

/-- What fails changes nothing. -/
def step (s : Custody) (event : Event) : Custody :=
  match event.after? s with
  | some (ring, table) =>
    { ring := some ring, table
      made := s.made ++ table.unmarked.filter (· ∉ s.table.unmarked)
      pruned := s.pruned ++ event.prunes s
      accessions := event.accessions s ring table }
  | none => s

def run (s : Custody) (events : List Event) : Custody :=
  events.foldl step s

/-- The ring mirrors the table, and the table holds the keys that were put in and not pruned. -/
structure Kept (s : Custody) (ring : KeyRing) (older : List StoredKey) (latest : StoredKey) : Prop where
  loaded : s.ring = some ring
  mirrors : ring.Mirrors s.table older latest
  remaining : s.table.unmarked = s.made.filter (KeyPair.idOf ·.version ∉ s.pruned)
  ascending : s.made.Pairwise fun a b => a.version < b.version
  last : ∀ r ∈ s.made, r.version ≤ latest.version
  known : ∀ id ∈ s.pruned, ∃ r ∈ s.made, KeyPair.idOf r.version = id

variable {s : Custody} {ring : KeyRing} {older : List StoredKey} {latest : StoredKey}

/-! ### Steps -/

omit [SignatureScheme] in
theorem filter_notMem {rows rest : List StoredKey} (h : ∀ r ∈ rest, r ∈ rows) : rest.filter (· ∉ rows) = [] :=
  List.filter_eq_nil_iff.mpr fun r hr => by simpa using h r hr

namespace Kept

theorem mem_made (h : s.Kept ring older latest) {r : StoredKey} (hr : r ∈ s.table.rows) : r.retire ∈ s.made := by
  have stored : r.retire ∈ s.table.unmarked := List.mem_map_of_mem hr
  rw [h.remaining] at stored
  exact List.mem_of_mem_filter stored

theorem step_load (h : s.Kept ring older latest) (configured : Option String) (fresh : Bytes) (now : Int64) :
    (¬KeyRing.WellConfigured configured ∧ s.step (.load configured fresh now) = s) ∨
    ∃ next : KeyRing, next.Mirrors s.table older latest ∧
      s.step (.load configured fresh now) = { s with ring := some next, accessions := s.table.accessions } := by
  obtain ⟨ill, fault, hload⟩ | ⟨-, next, hload, mirrors, -⟩ :=
    KeyRing.load_stored h.mirrors.succession h.mirrors.held configured fresh now
  · refine .inl ⟨ill, ?_⟩
    simp [Custody.step, Event.after?, hload, Except.toOption]
  · refine .inr ⟨next, mirrors, ?_⟩
    simp [Custody.step, Event.after?, hload, Except.toOption, Event.prunes, Event.accessions]

/-- A rotation that does not fail puts in a row above all rows that were ever put in. -/
theorem step_rotate (h : s.Kept ring older latest) (fresh : Bytes) (made retired : Int64) :
    ((latest.version = Int64.maxValue ∨ fresh.length ≠ SignatureScheme.seedLength) ∧
      s.step (.upkeep (.rotate fresh made retired)) = s) ∨
    ∃ key : KeyPair, key.version = latest.version + 1 ∧ latest.version < key.version ∧
      let next : KeyRing := ⟨key, ring.all.insert key.id key, ring.retiredAt.insert ring.current.id retired⟩
      let table : KeyTable := ⟨older ++ [latest.retire] ++ [KeyRing.rowOf key made]⟩
      next.Mirrors table (older ++ [latest.retire]) (KeyRing.rowOf key made) ∧
      s.step (.upkeep (.rotate fresh made retired)) =
        { s with
          ring := some next
          table
          made := s.made ++ [(KeyRing.rowOf key made).retire]
          accessions := s.accessions ++ [⟨key.version, retired⟩] } := by
  obtain ⟨greatest, hrotate⟩ | ⟨length, e, hrotate⟩ | ⟨key, hversion, above, -, hrotate, mirrors⟩ :=
    h.mirrors.rotate fresh made retired
  · refine .inl ⟨.inl greatest, ?_⟩
    simp [Custody.step, Event.after?, h.loaded, Upkeep.after?, hrotate, Except.toOption]
  · refine .inl ⟨.inr length, ?_⟩
    simp [Custody.step, Event.after?, h.loaded, Upkeep.after?, hrotate, Except.toOption]
  · refine .inr ⟨key, hversion, above, mirrors, ?_⟩
    have new : (KeyRing.rowOf key made).retire ∉ s.table.unmarked := by
      intro hmem
      rw [h.remaining] at hmem
      have hle : key.version ≤ latest.version := h.last _ (List.mem_of_mem_filter hmem)
      exact absurd hle (Int64.not_le.mpr above)
    have added : (s.table.unmarked ++ [(KeyRing.rowOf key made).retire]).filter (· ∉ s.table.unmarked) =
        [(KeyRing.rowOf key made).retire] := by
      rw [List.filter_append, filter_notMem fun r hr => hr, List.filter_singleton, decide_eq_true new]
      rfl
    rw [← added, ← h.mirrors.succession.unmarked_inserted]
    simp [Custody.step, Event.after?, h.loaded, Upkeep.after?, hrotate, Except.toOption, Event.prunes, Event.accessions]

/-- A pruning that removes a key removes its row. -/
theorem step_prune (h : s.Kept ring older latest) (keyId : String) :
    s.step (.upkeep (.prune keyId)) = s ∨
    ∃ r ∈ older, KeyPair.idOf r.version = keyId ∧
      let next : KeyRing := { ring with all := ring.all.erase keyId, retiredAt := ring.retiredAt.erase keyId }
      let table : KeyTable := ⟨s.table.rows.filter (·.version ≠ r.version)⟩
      next.Mirrors table (older.filter (·.version ≠ r.version)) latest ∧
      s.step (.upkeep (.prune keyId)) = { s with ring := some next, table, pruned := s.pruned ++ [keyId] } := by
  obtain ⟨-, hprune⟩ | ⟨-, hprune⟩ | ⟨r, hr, hid, hprune, mirrors⟩ := h.mirrors.prune keyId
  · refine .inl ?_
    simp [Custody.step, Event.after?, h.loaded, Upkeep.after?, hprune, Except.toOption]
  · have unchanged : s.step (.upkeep (.prune keyId)) = { s with ring := some ring } := by
      simp [Custody.step, Event.after?, h.loaded, Upkeep.after?, hprune, Except.toOption, Event.prunes, Event.accessions]
    rw [unchanged, ← h.loaded]
    exact .inl rfl
  · refine .inr ⟨r, hr, hid, mirrors, ?_⟩
    have old : (s.table.unmarked.filter (·.version ≠ r.version)).filter (· ∉ s.table.unmarked) = [] :=
      filter_notMem fun q hq => List.mem_of_mem_filter hq
    rw [← KeyTable.unmarked_filter] at old
    simp only [Custody.step, Event.after?, h.loaded, Upkeep.after?, hprune, Except.toOption, Event.prunes, Event.accessions,
      Option.bind_some, Option.map_some, old, List.append_nil]

theorem loads (h : s.Kept ring older latest) (configured : Option String) (fresh : Bytes) (now : Int64) :
    ∃ ring, (s.step (.load configured fresh now)).Kept ring older latest := by
  obtain ⟨-, unchanged⟩ | ⟨next, mirrors, hstep⟩ := h.step_load configured fresh now
  · rw [unchanged]
    exact ⟨ring, h⟩
  · rw [hstep]
    exact ⟨next, rfl, mirrors, h.remaining, h.ascending, h.last, h.known⟩

theorem rotates (h : s.Kept ring older latest) (fresh : Bytes) (made retired : Int64) :
    ∃ ring older newest, (s.step (.upkeep (.rotate fresh made retired))).Kept ring older newest ∧
      (fresh.length = SignatureScheme.seedLength →
        newest.version = if latest.version = Int64.maxValue then latest.version else latest.version + 1) := by
  obtain ⟨refused, unchanged⟩ | ⟨key, hversion, above, mirrors, hstep⟩ := h.step_rotate fresh made retired
  · rw [unchanged]
    exact ⟨ring, older, latest, h, fun seeded => (if_pos (refused.resolve_right (not_not_intro seeded))).symm⟩
  have below : ∀ r ∈ s.made, r.version < key.version := fun r hr => Int64.lt_of_le_of_lt (h.last r hr) above
  -- A pruned key has been put in before, so its version is lower.
  have kept : KeyPair.idOf key.version ∉ s.pruned := by
    intro hid
    obtain ⟨r, hr, same⟩ := h.known _ hid
    exact Int64.ne_of_lt (below r hr) (KeyPair.idOf_inj same)
  rw [hstep]
  have room : latest.version ≠ Int64.maxValue := fun greatest =>
    absurd (Int64.le_maxValue key.version) (Int64.not_le.mpr (greatest ▸ above))
  refine ⟨_, _, _, ⟨rfl, mirrors, ?_, ?_, ?_, fun id hid => ?_⟩, fun _ => hversion.trans (if_neg room).symm⟩
  · rw [h.mirrors.succession.unmarked_inserted, h.remaining, List.filter_append, List.filter_singleton]
    have spared : decide (KeyPair.idOf (KeyRing.rowOf key made).retire.version ∉ s.pruned) = true := decide_eq_true kept
    rw [spared]
    rfl
  · exact KeyTable.ascending_concat.mpr ⟨h.ascending, below⟩
  · exact KeyTable.le_concat below
  · obtain ⟨r, hr, same⟩ := h.known id hid
    exact ⟨r, List.mem_append_left _ hr, same⟩

theorem prunes (h : s.Kept ring older latest) (keyId : String) :
    ∃ ring older, (s.step (.upkeep (.prune keyId))).Kept ring older latest := by
  obtain unchanged | ⟨r, hr, hid, mirrors, hstep⟩ := h.step_prune keyId
  · rw [unchanged]
    exact ⟨ring, older, h⟩
  have made : r.retire ∈ s.made := h.mem_made (h.mirrors.succession.mem.mpr (.inl hr))
  rw [hstep]
  refine ⟨_, _, rfl, mirrors, ?_, h.ascending, h.last, ?_⟩
  · rw [KeyTable.unmarked_filter, h.remaining, List.filter_filter]
    refine List.filter_congr fun q hq => ?_
    have same : q.version = r.version ↔ KeyPair.idOf q.version = keyId := by
      rw [← hid]
      exact ⟨congrArg KeyPair.idOf, KeyPair.idOf_inj⟩
    simp [same, not_or, and_comm]
  · exact List.forall_mem_append.mpr ⟨h.known, List.forall_mem_singleton.mpr ⟨r.retire, made, hid⟩⟩

theorem step (h : s.Kept ring older latest) (event : Event) :
    ∃ ring older latest, (s.step event).Kept ring older latest := by
  rcases event with ⟨configured, fresh, now⟩ | ⟨⟨fresh, made, retired⟩ | keyId⟩
  · obtain ⟨ring, kept⟩ := h.loads configured fresh now
    exact ⟨ring, older, latest, kept⟩
  · obtain ⟨ring, older, newest, kept, -⟩ := h.rotates fresh made retired
    exact ⟨ring, older, newest, kept⟩
  · obtain ⟨ring, older, kept⟩ := h.prunes keyId
    exact ⟨ring, older, latest, kept⟩

/-! ### Runs -/

theorem run (h : s.Kept ring older latest) (events : List Event) :
    ∃ ring older latest, (s.run events).Kept ring older latest := by
  induction events generalizing s ring older latest with
  | nil => exact ⟨ring, older, latest, h⟩
  | cons event rest ih =>
    obtain ⟨ring, older, latest, kept⟩ := h.step event
    exact ih kept

end Kept

theorem kept_load (configured : Option String) (fresh : Bytes) (now : Int64) :
    (∃ fault, KeyRing.firstKey configured fresh = .error fault ∧ step {} (.load configured fresh now) = {}) ∨
      ∃ ring, KeyRing.firstKey configured fresh = .ok ring.current ∧
        (step {} (.load configured fresh now)).Kept ring [] (KeyRing.rowOf ring.current now) := by
  obtain ⟨fault, hfirst, hload⟩ | ⟨ring, hfirst, hload, mirrors, -⟩ := KeyRing.load_empty configured fresh now
  · refine .inl ⟨fault, hfirst, ?_⟩
    simp [step, Event.after?, hload, Except.toOption]
  · refine .inr ⟨ring, hfirst, ?_⟩
    have hstep : step {} (.load configured fresh now) =
        ⟨some ring, ⟨[KeyRing.rowOf ring.current now]⟩, [(KeyRing.rowOf ring.current now).retire], [],
          [(KeyRing.rowOf ring.current now).accession]⟩ := by
      simp [step, Event.after?, hload, Except.toOption, Event.prunes, KeyTable.unmarked, Event.accessions, KeyTable.accessions]
    rw [hstep]
    exact ⟨rfl, mirrors, by simp [KeyTable.unmarked], List.pairwise_singleton ..,
      List.forall_mem_singleton.mpr (Int64.le_refl _), fun _ pruned => absurd pruned List.not_mem_nil⟩

theorem kept_run (events : List Event) :
    run {} events = {} ∨ ∃ ring older latest, (run {} events).Kept ring older latest := by
  induction events with
  | nil => exact .inl rfl
  | cons event rest ih =>
    have first : step {} event = {} ∨ ∃ ring older latest, (step {} event).Kept ring older latest := by
      rcases event with ⟨configured, fresh, now⟩ | change
      · obtain ⟨-, -, unchanged⟩ | ⟨ring, -, kept⟩ := kept_load configured fresh now
        · exact .inl unchanged
        · exact .inr ⟨ring, _, _, kept⟩
      · exact .inl rfl
    -- Until a first load succeeds there is nothing to be kept.
    obtain unchanged | ⟨ring, older, latest, kept⟩ := first
    · rw [run, List.foldl_cons, unchanged]
      exact ih
    · exact .inr (kept.run rest)

theorem mem_run_made {r : StoredKey} (hr : r ∈ s.made) (events : List Event) : r ∈ (s.run events).made := by
  induction events generalizing s with
  | nil => exact hr
  | cons event rest ih =>
    refine ih ?_
    unfold step
    split
    · exact List.mem_append_left _ hr
    · exact hr

/-- A key that was ever put in is known until it is pruned, and never again. -/
theorem Kept.get?_made (h : s.Kept ring older latest) {r : StoredKey} {key : KeyPair} (hr : r ∈ s.made)
    (hholds : r.Holds key) : ring.all.get? key.id = if key.id ∈ s.pruned then none else some key := by
  split
  · rename_i pruned
    cases known : ring.all.get? key.id with
    | none => rfl
    | some other =>
      -- What the ring knows is stored, and what is stored was not pruned.
      obtain ⟨hid, q, hq, hother⟩ := (h.mirrors.all _ _).mp known
      have stored : q.retire ∈ s.table.unmarked := List.mem_map_of_mem hq
      rw [h.remaining] at stored
      have kept : KeyPair.idOf q.version ∉ s.pruned := of_decide_eq_true (List.mem_filter.mp stored).2
      rw [hother.version] at kept
      rw [← hid] at pruned
      exact absurd pruned kept
  · rename_i kept
    have hid : KeyPair.idOf r.version = key.id := congrArg KeyPair.idOf hholds.version
    have stored : r ∈ s.table.unmarked := by
      rw [h.remaining]
      exact List.mem_filter.mpr ⟨hr, decide_eq_true (hid ▸ kept)⟩
    obtain ⟨q, hq, rfl⟩ := List.mem_map.mp stored
    exact (h.mirrors.all _ _).mpr ⟨rfl, q, hq, StoredKey.holds_retire.mp hholds⟩

theorem Kept.verify_sign (h : s.Kept ring older latest) (lawful : SignatureScheme.Lawful) {r : StoredKey} {key : KeyPair}
    (hr : r ∈ s.made) (hholds : r.Holds key) (message : Bytes) :
    ring.verify message (key.sign message) key.id = true ↔ key.id ∉ s.pruned := by
  rw [KeyRing.verify, h.get?_made hr hholds]
  by_cases pruned : key.id ∈ s.pruned
  · simp [pruned]
  · simp [pruned, SignedJson.verifySignature_sign lawful]

/-- However loads, rotations and prunings follow one another, the last row of the table is the current key and no other
    is, and the ring signs with it and knows the keys of the rows and no others. The versions of all keys that were ever
    put in ascend, and the table holds those that were not pruned. What the current key signs verifies under its key id
    until that is pruned, and never again. The current key cannot be pruned, a key id of no row is not there, and a
    retired key goes alone. Once there is a key, loading takes the table as it is. -/
theorem ring_keeps_table (lawful : SignatureScheme.Lawful) (events : List Event) :
    let s := run {} events
    (s.ring = none → s.table = {}) ∧
    ∀ ring, s.ring = some ring →
      (∃ older latest, s.table.rows = older ++ [latest] ∧ latest.Holds ring.current ∧ latest.current = true ∧
        ∀ r ∈ older, r.current = false ∧ r.version < latest.version) ∧
      (∀ r ∈ s.table.rows, ∃ key, r.Holds key) ∧
      (∀ id key, ring.all.get? id = some key ↔ key.id = id ∧ ∃ r ∈ s.table.rows, r.Holds key) ∧
      s.made.Pairwise (fun a b => a.version < b.version) ∧
      s.table.unmarked = s.made.filter (KeyPair.idOf ·.version ∉ s.pruned) ∧
      (∀ more, ∃ later, (s.run more).ring = some later ∧ ∀ message,
        (later.verify message (ring.current.sign message) ring.current.id = true ↔
          ring.current.id ∉ (s.run more).pruned)) ∧
      (ring.prune ring.current.id s.table = .error (.currentKeyInUse ring.current.id) ∧
        s.step (.upkeep (.prune ring.current.id)) = s) ∧
      (∀ id, (∀ r ∈ s.table.rows, KeyPair.idOf r.version ≠ id) → ring.prune id s.table = .ok (false, ring, s.table)) ∧
      (∀ r ∈ s.table.rows, r.current = false → ∃ next,
        ring.prune (KeyPair.idOf r.version) s.table = .ok (true, next, ⟨s.table.rows.filter (·.version ≠ r.version)⟩)) ∧
      ∀ configured fresh now, KeyRing.needsFresh s.table configured = false ∧
        ((¬KeyRing.WellConfigured configured ∧ ∃ fault, KeyRing.load configured fresh now s.table = .error (.keyLoad fault)) ∨
          (KeyRing.WellConfigured configured ∧ ∃ next, KeyRing.load configured fresh now s.table = .ok (next, s.table))) := by
  intro s
  obtain unloaded | ⟨ring, older, latest, kept⟩ := kept_run events
  · have hs : s = {} := unloaded
    rw [hs]
    exact ⟨fun _ => rfl, nofun⟩
  refine ⟨fun unloaded => (nomatch unloaded.symm.trans kept.loaded), fun other hother => ?_⟩
  obtain rfl : ring = other := Option.some.inj (kept.loaded.symm.trans hother)
  have mirrors : ring.Mirrors s.table older latest := kept.mirrors
  have succession := mirrors.succession
  have refused : ring.prune ring.current.id s.table = .error (.currentKeyInUse ring.current.id) := if_pos rfl
  have order : ∀ r ∈ older, r.current = false ∧ r.version < latest.version := fun r hr =>
    ⟨succession.retired r hr, succession.below r hr⟩
  refine ⟨⟨older, latest, succession.rows, mirrors.current, succession.current, order⟩, mirrors.held, mirrors.all,
    kept.ascending, kept.remaining, fun more => ?_, ⟨refused, ?_⟩, fun id unknown => mirrors.prune_unknown unknown,
    fun r hr retired => mirrors.prune_retired (succession.mem_older.mpr ⟨hr, retired⟩), fun configured fresh now => ⟨?_, ?_⟩⟩
  · obtain ⟨later, older, newest, keptLater⟩ := kept.run more
    have made : latest.retire ∈ (s.run more).made := mem_run_made (kept.mem_made succession.latest_mem) more
    exact ⟨later, keptLater.loaded, keptLater.verify_sign lawful made (StoredKey.holds_retire.mpr mirrors.current)⟩
  · simp [step, Event.after?, hother, Upkeep.after?, refused, Except.toOption]
  · have filled : s.table.rows.isEmpty = false :=
      List.isEmpty_eq_false_iff_exists_mem.mpr ⟨latest, succession.latest_mem⟩
    rw [KeyRing.needsFresh, filled]
    rfl
  · obtain failed | ⟨well, next, hload, -⟩ := KeyRing.load_stored succession mirrors.held configured fresh now
    · exact .inl failed
    · exact .inr ⟨well, next, hload⟩

omit [SignatureScheme] in
/-- The second of three keys goes, and a load does not bring it back. -/
theorem ring_keeps_table_pruned :
    let _ : SignatureScheme := .transparent
    let events : List Event := [.load none (List.replicate 32 0) 10, .upkeep (.rotate (List.replicate 32 1) 20 21)]
    let more : List Event := [.upkeep (.rotate (List.replicate 32 2) 30 31), .upkeep (.prune "ed25519:1"), .load none [] 40]
    let s := run {} events
    SignatureScheme.Lawful ∧ (s.run more).made.map (·.version) = [0, 1, 2] ∧
    (s.run more).table.rows.map (·.version) = [0, 2] ∧
    ∃ ring later, s.ring = some ring ∧ (s.run more).ring = some later ∧ ring.current.id = "ed25519:1" ∧
      ∀ message, later.verify message (ring.current.sign message) ring.current.id = false := by
  intro scheme events more s
  have lawful : SignatureScheme.Lawful := SignatureScheme.transparent_lawful
  refine ⟨lawful, by decide +kernel +zetaReduce, by decide +kernel +zetaReduce, ?_⟩
  have loaded : s.ring.map (·.current.id) = some "ed25519:1" := by decide +kernel +zetaReduce
  obtain ⟨ring, hring, hid⟩ := Option.map_eq_some_iff.mp loaded
  obtain ⟨-, hkeeps⟩ := ring_keeps_table lawful events
  obtain ⟨-, -, -, -, -, verifies, -⟩ := hkeeps ring hring
  obtain ⟨later, hlater, hverify⟩ := verifies more
  have pruned : "ed25519:1" ∈ (s.run more).pruned := by decide +kernel +zetaReduce
  refine ⟨ring, later, hring, hlater, hid, fun message => Bool.eq_false_iff.mpr fun valid => ?_⟩
  exact (hverify message).mp valid (hid ▸ pruned)

end Custody

end IdentityServer
