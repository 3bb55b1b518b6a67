import IdentityServer.Proofs.Dictionary
import IdentityServer.Proofs.Signing.Custody
import Mathlib.Data.List.Find

/-! # Published again

The key document gives the times at which the old keys were retired. A ring that retired them knows the times; a ring that
is read from the table takes a key to have been retired when the row of the next key was made that the table still holds.
So both publish the same if each rotation read the same time twice and the keys were pruned in the order of their age, and
otherwise what a restart publishes may differ. -/

namespace IdentityServer
variable [SignatureScheme]

namespace KeyRing
variable {ring other : KeyRing} {table : KeyTable} {older : List StoredKey} {latest : StoredKey}

theorem get?_oldVerifyKeys (ring : KeyRing) (server : String) (now : Int64) (id : String) :
    (ring.document server now).oldVerifyKeys.get? id =
      if ring.current.id = id then none else (ring.all.get? id).map (ring.retired id) := by
  have old : (ring.document server now).oldVerifyKeys.get? id =
      ((ring.all.erase ring.current.id).get? id).map (ring.retired id) :=
    Dictionary.get?_ofList_map ring.retired _ id
  rw [old, Dictionary.get?_erase, apply_ite (Option.map _), Option.map_none]

theorem document_congr (current : ring.current = other.current) {server : String} {now : Int64}
    (old : (ring.document server now).oldVerifyKeys = (other.document server now).oldVerifyKeys) :
    ring.document server now = other.document server now := by
  have unsigned : ring.unsignedDocument server now = other.unsignedDocument server now :=
    (KeyDocument.mk.injEq ..).mpr ⟨rfl, current ▸ rfl, old, rfl, rfl⟩
  rw [document, document, unsigned, current]

theorem oldVerifyKeys_congr (current : ring.current = other.current) (all : ring.all = other.all) (server : String)
    (now : Int64) (id : String) :
    ((ring.document server now).oldVerifyKeys.get? id).map (·.key) =
      ((other.document server now).oldVerifyKeys.get? id).map (·.key) := by
  rw [get?_oldVerifyKeys, get?_oldVerifyKeys, ← current, ← all]
  split
  · rfl
  · rw [Option.map_map, Option.map_map]
    rfl

/-- Rings beside one table can differ in the times only. -/
theorem Mirrors.congr (h : ring.Mirrors table older latest) (h' : other.Mirrors table older latest) :
    ring.current = other.current ∧ ring.all = other.all := by
  refine ⟨h.current.unique h'.current, Dictionary.eq_of_get? fun id => Option.ext fun key => ?_⟩
  rw [h.all id key, h'.all id key]

/-- What a document says of a retired key. -/
theorem Mirrors.get?_old (h : ring.Mirrors table older latest) {seen : List Accession}
    (recalls : Recalls ring.retiredAt (table.rows.map (·.version)) seen) {r : StoredKey} (hr : r ∈ older) {time : Int64}
    (retired : retirement? seen r.version = some time) (server : String) (now : Int64) :
    (ring.document server now).oldVerifyKeys.get? (KeyPair.idOf r.version) = some ⟨r.publicKey, time⟩ := by
  have stored : r ∈ table.rows := h.succession.mem.mpr (.inl hr)
  obtain ⟨key, hkey⟩ := h.held r stored
  have other : ring.current.id ≠ KeyPair.idOf r.version := by
    intro same
    have same : latest.version = r.version := h.current.version.trans (KeyPair.idOf_inj same)
    exact Int64.ne_of_lt (h.succession.below r hr) same.symm
  have known : ring.all.get? (KeyPair.idOf r.version) = some key :=
    (h.all _ key).mpr ⟨congrArg KeyPair.idOf hkey.version.symm, r, stored, hkey⟩
  have hretired : ring.retiredAt.get? (KeyPair.idOf r.version) = some time :=
    (recalls _ time).mpr ⟨r.version, List.mem_map_of_mem stored, rfl, retired⟩
  rw [get?_oldVerifyKeys, if_neg other, known, Option.map_some, KeyRing.retired, hretired, hkey.publicKey]
  rfl

/-- Rings beside one table publish the same if they know the same times. -/
theorem Mirrors.document_eq_iff (h : ring.Mirrors table older latest) (h' : other.Mirrors table older latest)
    {seen seen' : List Accession} (recalls : Recalls ring.retiredAt (table.rows.map (·.version)) seen)
    (recalls' : Recalls other.retiredAt (table.rows.map (·.version)) seen')
    (times : ∀ r ∈ older, ∃ time, retirement? seen r.version = some time)
    (times' : ∀ r ∈ older, ∃ time, retirement? seen' r.version = some time) (server : String) (now : Int64) :
    ring.document server now = other.document server now ↔
      ∀ r ∈ older, retirement? seen r.version = retirement? seen' r.version := by
  obtain ⟨current, all⟩ := h.congr h'
  constructor
  · intro same r hr
    obtain ⟨time, htime⟩ := times r hr
    obtain ⟨time', htime'⟩ := times' r hr
    have published := h.get?_old recalls hr htime server now
    rw [same, h'.get?_old recalls' hr htime' server now] at published
    cases published
    rw [htime, htime']
  · intro same
    refine document_congr current (Dictionary.eq_of_get? fun id => ?_)
    cases known : ring.all.get? id with
    | none => rw [get?_oldVerifyKeys, get?_oldVerifyKeys, ← all, ← current, known, Option.map_none, Option.map_none]
    | some key =>
      obtain ⟨rfl, r, hr, hkey⟩ := (h.all id key).mp known
      have hid : KeyPair.idOf r.version = key.id := congrArg KeyPair.idOf hkey.version
      rcases h.succession.mem.mp hr with hr | rfl
      · obtain ⟨time, htime⟩ := times r hr
        rw [← hid, h.get?_old recalls hr htime, h'.get?_old recalls' hr ((same r hr).symm.trans htime)]
      · rw [get?_oldVerifyKeys, get?_oldVerifyKeys, ← current, if_pos (congrArg KeyPair.id (h.current.unique hkey))]
        rw [if_pos (congrArg KeyPair.id (h.current.unique hkey))]

end KeyRing

/-- A change during which the clock stands still. -/
def Upkeep.Steady : Upkeep → Prop
  | .rotate _ made retired => made = retired
  | .prune _ => True

namespace Custody
variable {s : Custody} {ring : KeyRing} {older : List StoredKey} {latest : StoredKey}

/-- The ring knows when its keys were retired, by what it was told of the keys that were put in. -/
structure Recollects (s : Custody) : Prop where
  recalls : ∀ ring, s.ring = some ring → KeyRing.Recalls ring.retiredAt (s.table.rows.map (·.version)) s.accessions
  versions : s.accessions.map (·.version) = s.made.map (·.version)

omit [SignatureScheme] in
theorem Recollects.exists_accession (h : s.Recollects) {r : StoredKey} (hr : r ∈ s.made) :
    ∃ q ∈ s.accessions, q.version = r.version := by
  have hversion : r.version ∈ s.made.map (·.version) := List.mem_map_of_mem hr
  rw [← h.versions] at hversion
  exact List.mem_map.mp hversion

omit [SignatureScheme] in
theorem Recollects.exists_made (h : s.Recollects) {q : Accession} (hq : q ∈ s.accessions) :
    ∃ r ∈ s.made, r.version = q.version := by
  have hversion : q.version ∈ s.accessions.map (·.version) := List.mem_map_of_mem hq
  rw [h.versions] at hversion
  exact List.mem_map.mp hversion

/-- A key that is not the last one has been followed by a newer one. -/
theorem Kept.followed (h : s.Kept ring older latest) (recollects : s.Recollects) {r : StoredKey} (hr : r ∈ older) :
    ∃ q ∈ s.accessions, r.version < q.version := by
  obtain ⟨q, hq, hversion⟩ := recollects.exists_accession (h.mem_made h.mirrors.succession.latest_mem)
  have below : r.version < latest.retire.version := h.mirrors.succession.below r hr
  exact ⟨q, hq, hversion ▸ below⟩

theorem Kept.recollects_rotate (h : s.Kept ring older latest) (recollects : s.Recollects) (fresh : Bytes)
    (made retired : Int64) : (s.step (.upkeep (.rotate fresh made retired))).Recollects := by
  obtain ⟨-, unchanged⟩ | ⟨key, -, above, -, hstep⟩ := h.step_rotate fresh made retired
  · rwa [unchanged]
  have recalls := recollects.recalls ring h.loaded
  have followed : ∀ v ∈ older.map (·.version), ∃ q ∈ s.accessions, v < q.version :=
    List.forall_mem_map.mpr fun r hr => h.followed recollects hr
  have last : ∀ q ∈ s.accessions, q.version ≤ latest.version := by
    intro q hq
    obtain ⟨r, hr, hversion⟩ := recollects.exists_made hq
    exact hversion ▸ h.last r hr
  have current : ring.current.id = KeyPair.idOf latest.version := congrArg KeyPair.idOf h.mirrors.current.version.symm
  rw [h.mirrors.succession.rows, List.map_append, List.map_singleton] at recalls
  rw [hstep]
  refine ⟨?_, ?_⟩
  · rintro _ ⟨⟩
    have above : latest.version < (Accession.mk key.version retired).version := above
    have next := recalls.succeeded followed last above
    dsimp only
    rw [current, List.map_append, List.map_append]
    exact next
  · rw [List.map_append, List.map_append, recollects.versions]
    rfl

theorem Kept.recollects_prune (h : s.Kept ring older latest) (recollects : s.Recollects) (keyId : String) :
    (s.step (.upkeep (.prune keyId))).Recollects := by
  obtain unchanged | ⟨r, -, hid, -, hstep⟩ := h.step_prune keyId
  · rwa [unchanged]
  rw [hstep]
  refine ⟨?_, recollects.versions⟩
  rintro _ ⟨⟩
  have erased := (recollects.recalls ring h.loaded).erase r.version
  rw [List.filter_map, hid] at erased
  exact erased

theorem Kept.recollects_run (h : s.Kept ring older latest) (recollects : s.Recollects) (changes : List Upkeep) :
    (s.run (changes.map .upkeep)).Recollects := by
  induction changes generalizing s ring older latest with
  | nil => exact recollects
  | cons change rest ih =>
    obtain ⟨ring, older, latest, kept⟩ := h.step (.upkeep change)
    refine ih kept ?_
    cases change with
    | rotate fresh made retired => exact h.recollects_rotate recollects fresh made retired
    | prune keyId => exact h.recollects_prune recollects keyId

/-- If the clock stood still during each change, the ring was told what the rows tell. -/
theorem Kept.accessions_run (h : s.Kept ring older latest) (told : s.accessions = s.made.map (·.accession))
    {changes : List Upkeep} (steady : ∀ change ∈ changes, change.Steady) :
    (s.run (changes.map .upkeep)).accessions = (s.run (changes.map .upkeep)).made.map (·.accession) := by
  induction changes generalizing s ring older latest with
  | nil => exact told
  | cons change rest ih =>
    obtain ⟨still, steady⟩ := List.forall_mem_cons.mp steady
    obtain ⟨next, _, _, kept⟩ := h.step (.upkeep change)
    refine ih kept ?_ steady
    cases change with
    | rotate fresh made retired =>
      obtain ⟨-, unchanged⟩ | ⟨key, -, -, -, hstep⟩ := h.step_rotate fresh made retired
      · rwa [unchanged]
      · have still : made = retired := still
        rw [hstep, List.map_append, told, still]
        rfl
    | prune keyId =>
      obtain unchanged | ⟨r, -, -, -, hstep⟩ := h.step_prune keyId
      · rwa [unchanged]
      · rwa [hstep]

/-! ### Loading -/

/-- A server that has just loaded a ring. -/
def resumed (ring : KeyRing) (table : KeyTable) : Custody :=
  ⟨some ring, table, table.unmarked, [], table.accessions⟩

omit [SignatureScheme] in
theorem accessions_unmarked (table : KeyTable) : table.unmarked.map (·.accession) = table.accessions :=
  List.map_map

theorem kept_resumed {table : KeyTable} (mirrors : ring.Mirrors table older latest) :
    (resumed ring table).Kept ring older latest := by
  refine ⟨rfl, mirrors, ?_, List.pairwise_map.mpr mirrors.succession.ascending, fun r hr => ?_, nofun⟩
  · exact (List.filter_eq_self.mpr fun r _ => decide_eq_true List.not_mem_nil).symm
  · obtain ⟨q, hq, rfl⟩ := List.mem_map.mp hr
    have hle : q.version ≤ latest.version := mirrors.succession.le_latest hq
    exact hle

omit [SignatureScheme] in
theorem recollects_resumed {table : KeyTable}
    (recalls : KeyRing.Recalls ring.retiredAt (table.rows.map (·.version)) table.accessions) :
    (resumed ring table).Recollects := by
  refine ⟨?_, ?_⟩
  · rintro _ ⟨⟩
    exact recalls
  · show table.accessions.map (·.version) = table.unmarked.map (·.version)
    rw [← accessions_unmarked, List.map_map]
    rfl

/-- Whatever loads gives what is kept and remembered from then on. -/
theorem resumes {events : List Event} {configured : Option String} {fresh : Bytes} {now : Int64} {table : KeyTable}
    (hload : KeyRing.load configured fresh now (run {} events).table = .ok (ring, table)) :
    KeyRing.WellConfigured configured ∧
      ∃ older latest, (resumed ring table).Kept ring older latest ∧ (resumed ring table).Recollects := by
  obtain unloaded | ⟨live, older, latest, kept⟩ := kept_run events
  · rw [unloaded] at hload
    obtain ⟨fault, -, failed⟩ | ⟨first, hkey, hfirst, mirrors, recalls⟩ := KeyRing.load_empty configured fresh now
    · cases failed.symm.trans hload
    · cases hfirst.symm.trans hload
      have well : KeyRing.WellConfigured configured := by
        rintro text ⟨⟩
        exact ⟨_, hkey⟩
      exact ⟨well, _, _, kept_resumed mirrors, recollects_resumed recalls⟩
  · obtain ⟨-, fault, failed⟩ | ⟨well, again, hagain, mirrors, recalls⟩ :=
      KeyRing.load_stored kept.mirrors.succession kept.mirrors.held configured fresh now
    · cases failed.symm.trans hload
    · cases hagain.symm.trans hload
      exact ⟨well, _, _, kept_resumed mirrors, recollects_resumed recalls⟩

/-! ### Separate processes -/

/-- A process that loads the ring for a single change. -/
structure Process where
  configured : Option String
  fresh : Bytes
  now : Int64
  change : Upkeep

def Process.events (p : Process) : List Event :=
  [.load p.configured p.fresh p.now, .upkeep p.change]

/-- A server without the times that its ring knows. -/
def untimed (s : Custody) : Custody :=
  { s with ring := s.ring.map (fun ring => { ring with retiredAt := .empty }), accessions := [] }

/-- The times have no say in what a change does. -/
theorem untimed_step (s : Custody) (change : Upkeep) :
    (s.step (.upkeep change)).untimed = (s.untimed.step (.upkeep change)).untimed := by
  obtain ⟨ring, table, made, pruned, accessions⟩ := s
  cases ring with
  | none => rfl
  | some ring =>
    cases change with
    | rotate fresh made retired =>
      simp only [step, Event.after?, untimed, Upkeep.after?, KeyRing.rotate, Option.map_some, Option.bind_some]
      cases KeyRing.nextVersion? table with
      | none => rfl
      | some version =>
        dsimp only
        generalize KeyRing.loading (KeyPair.ofSeed version fresh) = loaded
        cases loaded with
        | error e => rfl
        | ok key =>
          simp only [Except.mapError, bind_ok]
          cases KeyRing.persist key made table with
          | error e => rfl
          | ok table => rfl
    | prune keyId =>
      simp only [step, Event.after?, untimed, Upkeep.after?, KeyRing.prune, Option.map_some, Option.bind_some, Event.prunes]
      by_cases current : ring.current.id = keyId
      · simp only [if_pos current]
        rfl
      · simp only [if_neg current]
        cases ring.all.get? keyId with
        | none => rfl
        | some key =>
          dsimp only
          rcases table.deleteRetired key.version with ⟨_ | _, rest⟩
          · rfl
          · rfl

theorem Kept.untimed_load (h : s.Kept ring older latest) {configured : Option String}
    (well : KeyRing.WellConfigured configured) (fresh : Bytes) (now : Int64) :
    (s.step (.load configured fresh now)).untimed = s.untimed := by
  obtain ⟨ill, -⟩ | ⟨next, mirrors, hstep⟩ := h.step_load configured fresh now
  · exact absurd well ill
  · obtain ⟨current, all⟩ := mirrors.congr h.mirrors
    rw [hstep, untimed, untimed, h.loaded, Option.map_some, Option.map_some, current, all]

/-- A process for each change leaves the table that a single one leaves. -/
theorem Kept.untimed_run (h : s.Kept ring older latest) {t : Custody} (same : s.untimed = t.untimed)
    {processes : List Process} (well : ∀ p ∈ processes, KeyRing.WellConfigured p.configured) :
    (s.run (processes.flatMap Process.events)).untimed = (t.run (processes.map fun p => .upkeep p.change)).untimed := by
  induction processes generalizing s t ring older latest with
  | nil => exact same
  | cons p rest ih =>
    obtain ⟨configured, fresh, now, change⟩ := p
    obtain ⟨hwell, well⟩ := List.forall_mem_cons.mp well
    obtain ⟨next, kept⟩ := h.loads configured fresh now
    have loaded : (s.step (.load configured fresh now)).untimed = t.untimed := (h.untimed_load hwell fresh now).trans same
    obtain ⟨ring, older, latest, kept⟩ := kept.step (.upkeep change)
    refine ih kept ?_ well
    rw [untimed_step, loaded, ← untimed_step]

/-! ### Documents -/

/-- The times of what is stored are those of all keys, for keys that are newer than what was pruned. -/
theorem Kept.retirement?_eq (h : s.Kept ring older latest) {version : Int64}
    (aged : ∀ q ∈ s.made, KeyPair.idOf q.version ∈ s.pruned → q.version < version) :
    KeyRing.retirement? (s.made.map (·.accession)) version = KeyRing.retirement? s.table.accessions version := by
  rw [← accessions_unmarked, h.remaining, KeyRing.retirement?, KeyRing.retirement?, List.find?_map, List.find?_map,
    List.find?_filter]
  refine congrArg _ (congrArg _ (List.find?_congr fun q hq => ?_))
  by_cases pruned : KeyPair.idOf q.version ∈ s.pruned
  · -- A pruned row is older, so it is passed over among all keys as well.
    have older : ¬version < q.version := Int64.not_lt.mpr (Int64.le_of_lt (aged q hq pruned))
    simp [pruned, older]
  · simp [pruned]

/-- After whatever changes, a ring that is read again from the table publishes what the one that was there publishes, but
    for the times of the old keys. The ring that was there gives for each the time at which it was told that the next key
    took its place: when the row of that key was made if the row was stored when the ring was loaded, and otherwise the
    second reading of the rotation. The other one gives the time when the next row was made that is still stored. So the
    documents are the same if and only if these times are, as when every rotation read the same time twice and every key
    that was pruned is older than all that are stored. It does not matter for the table whether the changes are made by
    one process or by one process each. -/
theorem reload_republishes {events : List Event} {configured : Option String} {fresh : Bytes} {now : Int64} {table : KeyTable}
    (hload : KeyRing.load configured fresh now (run {} events).table = .ok (ring, table)) (changes : List Upkeep) :
    let s := (resumed ring table).run (changes.map .upkeep)
    KeyRing.WellConfigured configured ∧
    (∀ processes : List Process, processes.map (·.change) = changes →
      (∀ p ∈ processes, KeyRing.WellConfigured p.configured) →
      ((resumed ring table).run (processes.flatMap Process.events)).table = s.table) ∧
    ∃ live, s.ring = some live ∧ ∀ configured fresh now, KeyRing.WellConfigured configured →
      ∃ reloaded, KeyRing.load configured fresh now s.table = .ok (reloaded, s.table) ∧ ∀ server now,
        let d := live.document server now
        let e := reloaded.document server now
        d.server = e.server ∧ d.verifyKeys = e.verifyKeys ∧ d.validUntil = e.validUntil ∧
        (∀ id, (d.oldVerifyKeys.get? id).map (·.key) = (e.oldVerifyKeys.get? id).map (·.key)) ∧
        (∀ r ∈ s.table.rows, r.current = false → ∃ time time',
          KeyRing.retirement? s.accessions r.version = some time ∧
          d.oldVerifyKeys.get? (KeyPair.idOf r.version) = some ⟨r.publicKey, time⟩ ∧
          KeyRing.retirement? s.table.accessions r.version = some time' ∧
          e.oldVerifyKeys.get? (KeyPair.idOf r.version) = some ⟨r.publicKey, time'⟩) ∧
        (d = e ↔ ∀ r ∈ s.table.rows, r.current = false →
          KeyRing.retirement? s.accessions r.version = KeyRing.retirement? s.table.accessions r.version) ∧
        ((∀ change ∈ changes, change.Steady) →
          (∀ q ∈ s.made, KeyPair.idOf q.version ∈ s.pruned → ∀ r ∈ s.table.rows, q.version < r.version) → d = e) := by
  intro s
  obtain ⟨configures, _, _, keptThen, recollected⟩ := resumes hload
  obtain ⟨live, older, latest, kept⟩ : ∃ ring older latest, s.Kept ring older latest := keptThen.run (changes.map .upkeep)
  have recollects : s.Recollects := keptThen.recollects_run recollected changes
  have recalls := recollects.recalls live kept.loaded
  have mirrors := kept.mirrors
  have succession := mirrors.succession
  refine ⟨configures, fun processes hchanges well => ?_, live, kept.loaded, fun configured fresh now well => ?_⟩
  · subst hchanges
    have same := keptThen.untimed_run rfl well
    have table : (untimed _).table = (untimed _).table := congrArg Custody.table same
    simp only [s, List.map_map]
    exact table
  obtain ⟨ill, -⟩ | ⟨-, reloaded, hreload, mirrors', recalls'⟩ :=
    KeyRing.load_stored succession mirrors.held configured fresh now
  · exact absurd well ill
  have times : ∀ r ∈ older, ∃ time, KeyRing.retirement? s.accessions r.version = some time := by
    intro r hr
    obtain ⟨q, hq, newer⟩ := kept.followed recollects hr
    exact KeyRing.exists_retirement? hq newer
  have times' : ∀ r ∈ older, ∃ time, KeyRing.retirement? s.table.accessions r.version = some time := fun r hr =>
    KeyRing.exists_retirement? (List.mem_map_of_mem succession.latest_mem) (succession.below r hr)
  refine ⟨reloaded, hreload, fun server now => ?_⟩
  obtain ⟨current, all⟩ := mirrors.congr mirrors'
  have same := mirrors.document_eq_iff mirrors' recalls recalls' times times' server now
  refine ⟨rfl, ?_, rfl, KeyRing.oldVerifyKeys_congr current all server now, fun r hr unmarked => ?_, ?_,
    fun steady aged => ?_⟩
  · exact congrArg (fun key : KeyPair => Dictionary.single key.id key.publicKey) current
  · have old : r ∈ older := succession.mem_older.mpr ⟨hr, unmarked⟩
    obtain ⟨time, htime⟩ := times r old
    obtain ⟨time', htime'⟩ := times' r old
    exact ⟨time, time', htime, mirrors.get?_old recalls old htime server now, htime',
      mirrors'.get?_old recalls' old htime' server now⟩
  · refine same.trans ⟨fun h r hr unmarked => h r (succession.mem_older.mpr ⟨hr, unmarked⟩), fun h r hr => ?_⟩
    obtain ⟨stored, unmarked⟩ := succession.mem_older.mp hr
    exact h r stored unmarked
  · have told : s.accessions = s.made.map (·.accession) :=
      keptThen.accessions_run (accessions_unmarked table).symm steady
    rw [told] at same
    refine same.mpr fun r hr => kept.retirement?_eq fun q hq pruned => ?_
    exact aged q hq pruned r (succession.mem.mpr (.inl hr))

omit [SignatureScheme] in
/-- When the oldest of three keys goes, a restart changes nothing. -/
theorem reload_republishes_oldest :
    let _ : SignatureScheme := .transparent
    let ring : KeyRing := ⟨.zeros, .single "ed25519:0" .zeros, .empty⟩
    let table : KeyTable := ⟨[KeyRing.rowOf .zeros 10]⟩
    let changes : List Upkeep := [.rotate (List.replicate 32 1) 20 20, .rotate (List.replicate 32 2) 30 30, .prune "ed25519:0"]
    let processes : List Process := changes.map fun change => ⟨none, [], 40, change⟩
    let s := (resumed ring table).run (changes.map .upkeep)
    KeyRing.load none (List.replicate 32 0) 10 {} = .ok (ring, table) ∧ s.table.rows.map (·.version) = [1, 2] ∧
    ((resumed ring table).run (processes.flatMap Process.events)).table = s.table ∧
    ∃ live reloaded, s.ring = some live ∧ KeyRing.load none [] 40 s.table = .ok (reloaded, s.table) ∧
      ∀ server now, live.document server now = reloaded.document server now := by
  intro scheme ring table changes processes s
  have hload : KeyRing.load none (List.replicate 32 0) 10 (run {} []).table = .ok (ring, table) := by
    decide +kernel +zetaReduce
  obtain ⟨-, alone, live, hlive, reloads⟩ := reload_republishes hload changes
  obtain ⟨reloaded, hreload, publishes⟩ := reloads none [] 40 nofun
  refine ⟨hload, by decide +kernel +zetaReduce, alone processes rfl ?_, live, reloaded, hlive, hreload, fun server now => ?_⟩
  · simp [processes, changes, KeyRing.WellConfigured]
  · obtain ⟨-, -, -, -, -, -, same⟩ := publishes server now
    exact same (by simp [changes, Upkeep.Steady]) (by decide +kernel +zetaReduce)

omit [SignatureScheme] in
/-- The second of three keys was made at 20 and pruned: the ring that was there says so of the first one's end, and the
    one that is read again says 30. -/
theorem pruned_successor_forgotten :
    let _ : SignatureScheme := .transparent
    let changes : List Upkeep := [.rotate (List.replicate 32 1) 20 20, .rotate (List.replicate 32 2) 30 30, .prune "ed25519:1"]
    let s := run {} (.load none (List.replicate 32 0) 10 :: changes.map .upkeep)
    ∃ live reloaded, s.ring = some live ∧ KeyRing.load none [] 40 s.table = .ok (reloaded, s.table) ∧
      ((live.document "id.example.org" 50).oldVerifyKeys.get? "ed25519:0").map (·.expiredAt) = some 20 ∧
      ((reloaded.document "id.example.org" 50).oldVerifyKeys.get? "ed25519:0").map (·.expiredAt) = some 30 ∧
      live.document "id.example.org" 50 ≠ reloaded.document "id.example.org" 50 := by
  intro scheme changes s
  let expiry (ring : KeyRing) : Option Int64 :=
    ((ring.document "id.example.org" 50).oldVerifyKeys.get? "ed25519:0").map (·.expiredAt)
  have hlive : s.ring.map expiry = some (some 20) := by decide +kernel +zetaReduce
  have hreloaded : (KeyRing.load none [] 40 s.table).toOption.map (fun (ring, table) => (expiry ring, table)) =
      some (some 30, s.table) := by decide +kernel +zetaReduce
  obtain ⟨live, loaded, before⟩ := Option.map_eq_some_iff.mp hlive
  cases hload : KeyRing.load none [] 40 s.table with
  | error e =>
    rw [hload] at hreloaded
    cases hreloaded
  | ok read =>
    obtain ⟨reloaded, table⟩ := read
    rw [hload] at hreloaded
    obtain ⟨afterwards, unchanged⟩ := Prod.mk.inj (Option.some.inj hreloaded)
    refine ⟨live, reloaded, loaded, ?_, before, afterwards, fun same => ?_⟩
    · rw [unchanged]
    · have expires : expiry live = expiry reloaded := by
        simp only [expiry, same]
      rw [before, afterwards] at expires
      cases expires

end Custody

end IdentityServer
