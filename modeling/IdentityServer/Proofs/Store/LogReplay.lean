import IdentityServer.Proofs.Store.AssociationLog
import Mathlib.Data.List.Induction
import Mathlib.Data.List.Nodup

/-! # Replaying the log

In every log that calls on the store can reach, the numbers ascend, so no number is given twice, and an
entry is active exactly if it is a binding and the last entry of its identifier. The active entries are
therefore what one gets by replaying the whole log, the last entry of each identifier winning. -/

namespace IdentityServer

/-! ### The replay -/

/-- The bindings after one more entry: a binding takes the place of any other of its identifier, and a
    tombstone leaves none. -/
def Change.replayOn (bindings : Identifier → Option Association) (c : Change) : Identifier → Option Association :=
  fun identifier =>
    if identifier = c.identifier then
      match c with
      | .bound a => some a
      | .tombstone _ => none
    else bindings identifier

/-- The bindings after entries, from none. -/
def replay (changes : List Change) : Identifier → Option Association :=
  changes.foldl Change.replayOn fun _ => none

/-- What an entry leaves bound. -/
def LogRow.binding? (r : LogRow) : Option Association :=
  if r.tombstone then none else some r.toAssociation

theorem LogRow.toChange_identifier (r : LogRow) : r.toChange.identifier = r.identifier := by
  unfold toChange
  split <;> rfl

theorem Change.replayOn_toChange (bindings : Identifier → Option Association) (r : LogRow) (identifier : Identifier) :
    Change.replayOn bindings r.toChange identifier =
      if identifier = r.identifier then r.binding? else bindings identifier := by
  unfold replayOn
  rw [r.toChange_identifier]
  split
  · unfold LogRow.toChange LogRow.binding?
    cases r.tombstone <;> rfl
  · rfl

/-- The last entry of an identifier decides. -/
theorem replay_eq_last (rows : List LogRow) (identifier : Identifier) :
    replay (rows.map LogRow.toChange) identifier =
      (rows.reverse.find? fun r => r.identifier = identifier).bind LogRow.binding? := by
  induction rows using List.reverseRecOn with
  | nil => rfl
  | append_singleton rows r ih =>
    rw [replay] at ih ⊢
    rw [List.map_append, List.foldl_append, List.reverse_append]
    simp only [List.map_cons, List.map_nil, List.foldl_cons, List.foldl_nil, List.reverse_cons, List.reverse_nil,
      List.nil_append, List.cons_append, List.find?_cons, Change.replayOn_toChange, ih]
    by_cases h : r.identifier = identifier
    · simp [h]
    · simp [h, Ne.symm h]

namespace AssociationLog

/-- The active entry of an identifier. -/
def activeRow? (log : AssociationLog) (identifier : Identifier) : Option LogRow :=
  log.rows.find? fun r => r.active && r.identifier = identifier

/-! ### The invariant -/

/-- What every reachable log satisfies. -/
structure Sound (log : AssociationLog) : Prop where
  ascending : log.rows.Pairwise fun a b => a.sequence < b.sequence
  /-- Numbers begin at 1 and none is beyond the greatest one ever given. -/
  bounded : ∀ r ∈ log.rows, 0 < r.sequence ∧ r.sequence ≤ log.last
  nonnegative : 0 ≤ log.last
  active_iff : ∀ r ∈ log.rows, r.active = true ↔
    r.tombstone = false ∧ ∀ q ∈ log.rows, q.identifier = r.identifier → q.sequence ≤ r.sequence

theorem sound_empty : Sound {} where
  ascending := .nil
  bounded _ h := nomatch h
  nonnegative := Int64.le_refl 0
  active_iff _ h := nomatch h

/-- The greatest number given moves up, unless none is left. -/
theorem last_lt_succ {n : Int64} (room : n ≠ Int64.maxValue) : n < n + 1 := by
  grind

namespace Sound
variable {log next : AssociationLog}

theorem eq_of_sequence (h : log.Sound) {a b : LogRow} (ha : a ∈ log.rows) (hb : b ∈ log.rows)
    (hab : a.sequence = b.sequence) : a = b := by
  have hnodup : (log.rows.map LogRow.sequence).Nodup :=
    List.pairwise_map.mpr (h.ascending.imp fun hlt => Int64.ne_of_lt hlt)
  exact List.inj_on_of_nodup_map hnodup ha hb hab

/-- An identifier has one active entry at most. -/
theorem eq_of_active (h : log.Sound) {a b : LogRow} (ha : a ∈ log.rows) (hb : b ∈ log.rows)
    (ha' : a.active = true) (hb' : b.active = true) (hab : a.identifier = b.identifier) : a = b := by
  have hle := ((h.active_iff b hb).mp hb').2 a ha hab
  have hge := ((h.active_iff a ha).mp ha').2 b hb hab.symm
  exact h.eq_of_sequence ha hb (Int64.le_antisymm hle hge)

/-- An entry put at the end keeps the invariant if the mark is taken from the active entry of its
    identifier and from no other. -/
theorem put (h : log.Sound) {p : LogRow → Bool} {new : NewAssociation} {tombstone : Bool}
    (room : log.last ≠ Int64.maxValue)
    (hp : ∀ r ∈ log.rows, r.active = true → (p r = true ↔ r.identifier = ⟨new.medium, new.address⟩)) :
    (log.put p new tombstone).Sound := by
  have hlast := last_lt_succ room
  have below : ∀ r ∈ log.rows, r.sequence < log.last + 1 := fun r hr =>
    Int64.lt_of_le_of_lt (h.bounded r hr).2 hlast
  refine ⟨?_, ?_, Int64.le_trans h.nonnegative (Int64.le_of_lt hlast), ?_⟩
  · simp only [AssociationLog.put, List.pairwise_append, List.pairwise_map, LogRow.cleared_sequence]
    refine ⟨h.ascending, List.pairwise_singleton .., ?_⟩
    intro a ha b hb
    obtain ⟨r, hr, rfl⟩ := List.mem_map.mp ha
    rw [List.mem_singleton.mp hb, LogRow.cleared_sequence]
    exact below r hr
  · intro r hr
    rcases List.mem_append.mp hr with hr | hr
    · obtain ⟨q, hq, rfl⟩ := List.mem_map.mp hr
      rw [LogRow.cleared_sequence]
      exact ⟨(h.bounded q hq).1, Int64.le_of_lt (below q hq)⟩
    · rw [List.mem_singleton.mp hr]
      exact ⟨Int64.lt_of_le_of_lt h.nonnegative hlast, Int64.le_refl _⟩
  · intro r hr
    -- The new entry is above all others, so only it can displace what was last.
    have last_iff : ∀ (identifier : Identifier) (n : Int64),
        (∀ q ∈ (log.put p new tombstone).rows, q.identifier = identifier → q.sequence ≤ n) ↔
          (∀ q ∈ log.rows, q.identifier = identifier → q.sequence ≤ n) ∧
            ((⟨new.medium, new.address⟩ : Identifier) = identifier → log.last + 1 ≤ n) := by
      intro identifier n
      simp only [AssociationLog.put, List.forall_mem_append, List.forall_mem_map, List.forall_mem_singleton,
        LogRow.cleared_identifier, LogRow.cleared_sequence]
      rfl
    rw [last_iff]
    rcases List.mem_append.mp hr with hr | hr
    · obtain ⟨q, hq, rfl⟩ := List.mem_map.mp hr
      have keeps : ((⟨new.medium, new.address⟩ : Identifier) = q.identifier → log.last + 1 ≤ q.sequence) ↔
          q.identifier ≠ ⟨new.medium, new.address⟩ :=
        ⟨fun himp heq => Int64.not_le.mpr (below q hq) (himp heq.symm), fun hne heq => absurd heq.symm hne⟩
      rw [LogRow.cleared_active, LogRow.cleared_tombstone, LogRow.cleared_identifier, LogRow.cleared_sequence, keeps,
        ← and_assoc, ← h.active_iff q hq, Bool.and_eq_true]
      refine and_congr_right fun hactive => ?_
      rw [Bool.not_eq_true', ← Bool.not_eq_true, hp q hq hactive]
    · rw [List.mem_singleton.mp hr]
      refine ⟨fun hactive => ⟨by simpa using hactive, fun q hq _ => Int64.le_of_lt (below q hq), fun _ => ?_⟩, ?_⟩
      · exact Int64.le_refl _
      · rintro ⟨hbinding, -, -⟩
        simpa using hbinding

theorem writes (h : log.Sound) (w : Writes log next) : next.Sound := by
  cases w with
  | nothing => exact h
  | binding new room => exact h.put room fun r _ _ => decide_eq_true_iff
  | removal p new room about found =>
    obtain ⟨a, ha, hactive, hpa⟩ := found
    refine h.put room fun r hr hr' => ⟨about r, fun hid => ?_⟩
    rw [h.eq_of_active hr ha hr' hactive (hid.trans (about a hpa).symm)]
    exact hpa

theorem activeRow?_eq_some (h : log.Sound) {identifier : Identifier} {r : LogRow} :
    log.activeRow? identifier = some r ↔ r ∈ log.rows ∧ r.active = true ∧ r.identifier = identifier := by
  constructor
  · intro hfind
    have hmark := List.find?_some hfind
    simp only [Bool.and_eq_true, decide_eq_true_eq] at hmark
    exact ⟨List.mem_of_find?_eq_some hfind, hmark.1, hmark.2⟩
  · rintro ⟨hr, hactive, hid⟩
    cases hfind : log.activeRow? identifier with
    | none =>
      have := List.find?_eq_none.mp hfind r hr
      simp [hactive, hid] at this
    | some q =>
      have hmark := List.find?_some hfind
      simp only [Bool.and_eq_true, decide_eq_true_eq] at hmark
      rw [h.eq_of_active (List.mem_of_find?_eq_some hfind) hr hmark.1 hactive (hmark.2.trans hid.symm)]

/-- The last entry of an identifier has the highest number. -/
theorem last_highest (h : log.Sound) {identifier : Identifier} {r : LogRow}
    (hlast : (log.rows.reverse.find? fun r => r.identifier = identifier) = some r) :
    r ∈ log.rows ∧ r.identifier = identifier ∧
      ∀ q ∈ log.rows, q.identifier = identifier → q.sequence ≤ r.sequence := by
  obtain ⟨hid, later, earlier, hsplit, hother⟩ := List.find?_eq_some_iff_append.mp hlast
  have descending : (later ++ r :: earlier).Pairwise fun a b => b.sequence < a.sequence :=
    hsplit ▸ List.pairwise_reverse.mpr h.ascending
  have hmem : ∀ q, q ∈ log.rows ↔ q ∈ later ++ r :: earlier := fun q => by rw [← hsplit, List.mem_reverse]
  refine ⟨(hmem r).mpr (by simp), by simpa using hid, fun q hq hqid => ?_⟩
  rcases List.mem_append.mp ((hmem q).mp hq) with hq | hq
  · exact absurd hqid (by simpa using hother q hq)
  · rcases List.mem_cons.mp hq with rfl | hq
    · exact Int64.le_refl _
    · exact Int64.le_of_lt ((List.pairwise_cons.mp (List.pairwise_append.mp descending).2.1).1 q hq)

/-- The active entries are what the replay of the log leaves. -/
theorem active_eq_replay (h : log.Sound) (identifier : Identifier) :
    (log.activeRow? identifier).map LogRow.toAssociation = replay log.changes identifier := by
  rw [changes, replay_eq_last]
  cases hlast : log.rows.reverse.find? fun r => r.identifier = identifier with
  | none =>
    have hnone : log.activeRow? identifier = none := by
      rw [activeRow?, List.find?_eq_none]
      intro r hr hmark
      have := List.find?_eq_none.mp hlast r (List.mem_reverse.mpr hr)
      simp_all
    rw [hnone]
    rfl
  | some r =>
    obtain ⟨hr, hid, highest⟩ := h.last_highest hlast
    have active_iff : r.active = true ↔ r.tombstone = false := by
      rw [h.active_iff r hr, and_iff_left_iff_imp]
      exact fun _ q hq hqid => highest q hq (hqid.trans hid)
    by_cases ht : r.tombstone = true
    · have hnone : log.activeRow? identifier = none := by
        rw [Option.eq_none_iff_forall_ne_some]
        intro q hq
        obtain ⟨hq, hqactive, hqid⟩ := h.activeRow?_eq_some.mp hq
        have hqr : q.sequence = r.sequence :=
          Int64.le_antisymm (highest q hq hqid) (((h.active_iff q hq).mp hqactive).2 r hr (hid.trans hqid.symm))
        rw [h.eq_of_sequence hq hr hqr, active_iff, ht] at hqactive
        cases hqactive
      rw [hnone]
      simp [LogRow.binding?, ht]
    · have hactive := active_iff.mpr (Bool.not_eq_true _ ▸ ht)
      rw [h.activeRow?_eq_some.mpr ⟨hr, hactive, hid⟩]
      simp [LogRow.binding?, ht]

theorem active_unique (h : log.Sound) (identifier : Identifier) :
    (log.rows.filter fun r => r.active && r.identifier = identifier).length ≤ 1 := by
  have ascending := h.ascending.filter fun r => r.active && r.identifier = identifier
  have mark : ∀ r ∈ log.rows.filter fun r => r.active && r.identifier = identifier,
      r ∈ log.rows ∧ r.active = true ∧ r.identifier = identifier := by
    intro r hr
    simpa using List.mem_filter.mp hr
  generalize (log.rows.filter fun r => r.active && r.identifier = identifier) = found at ascending mark ⊢
  rcases found with _ | ⟨a, _ | ⟨b, rest⟩⟩
  · exact Nat.zero_le 1
  · exact Nat.le_refl 1
  · obtain ⟨ha, hactive, haid⟩ := mark a (by simp)
    obtain ⟨hb, hactive', hbid⟩ := mark b (by simp)
    have hlt := (List.pairwise_cons.mp ascending).1 b (by simp)
    rw [h.eq_of_active ha hb hactive hactive' (haid.trans hbid.symm)] at hlt
    exact absurd hlt (Int64.lt_irrefl)

end Sound

/-- The log keeps what was written, and what it adds has higher numbers. -/
def Extends (log next : AssociationLog) : Prop :=
  ∃ added, next.written = log.written ++ added ∧ log.last ≤ next.last ∧ ∀ r ∈ added, log.last < r.sequence

namespace Extends
variable {log next later : AssociationLog}

theorem refl (log : AssociationLog) : Extends log log :=
  ⟨[], by simp, Int64.le_refl _, by simp⟩

theorem trans (h : Extends log next) (h' : Extends next later) : Extends log later := by
  obtain ⟨added, hadded, hle, hgt⟩ := h
  obtain ⟨added', hadded', hle', hgt'⟩ := h'
  refine ⟨added ++ added', by rw [hadded', hadded, List.append_assoc], Int64.le_trans hle hle', fun r hr => ?_⟩
  rcases List.mem_append.mp hr with hr | hr
  · exact hgt r hr
  · exact Int64.lt_of_le_of_lt hle (hgt' r hr)

theorem last_le (h : Extends log next) : log.last ≤ next.last := by
  obtain ⟨-, -, hle, -⟩ := h
  exact hle

theorem of_writes (w : Writes log next) : Extends log next := by
  have put : ∀ (p : LogRow → Bool) (new : NewAssociation) (tombstone : Bool), log.last ≠ Int64.maxValue →
      Extends log (log.put p new tombstone) := fun p new tombstone room =>
    ⟨_, put_written, Int64.le_of_lt (last_lt_succ room), by simpa using last_lt_succ room⟩
  cases w with
  | nothing => exact refl log
  | binding new room => exact put _ new false room
  | removal p new room _ _ => exact put p new true room

end Extends

end AssociationLog

/-! ### Runs -/

namespace Database
open AssociationLog

/-- The database after calls, one after the other. -/
def afterAll (db : Database) (calls : List StoreCall) : Database :=
  calls.foldl after db

theorem afterAll_append (db : Database) (calls more : List StoreCall) :
    db.afterAll (calls ++ more) = (db.afterAll calls).afterAll more :=
  List.foldl_append ..

theorem afterAll_sound {db : Database} (h : db.associations.Sound) (calls : List StoreCall) :
    (db.afterAll calls).associations.Sound := by
  induction calls generalizing db with
  | nil => exact h
  | cons call rest ih =>
    obtain ⟨log, w, hafter⟩ := db.after_frame call
    have sound : (db.after call).associations.Sound := by
      rw [hafter]
      exact h.writes w
    exact ih sound

theorem afterAll_extends (db : Database) (calls : List StoreCall) :
    Extends db.associations (db.afterAll calls).associations := by
  induction calls generalizing db with
  | nil => exact .refl _
  | cons call rest ih =>
    obtain ⟨log, w, hafter⟩ := db.after_frame call
    refine Extends.trans (.of_writes w) ?_
    have := ih (db.after call)
    rw [hafter] at this
    simpa only [afterAll, List.foldl_cons, hafter] using this

/-- Whatever calls were made on a store with an empty log: numbers are never given twice and only grow, an
    identifier has one active entry at most, the active entries are the bindings that are the last entry of
    their identifier, and so the replay of the whole log leaves exactly them. -/
theorem log_replayed (db : Database) (calls : List StoreCall) :
    let logAfter := fun calls => (({ db with associations := {} } : Database).afterAll calls).associations
    let log := logAfter calls
    (∀ earlier more, calls = earlier ++ more →
      ∃ added, log.written = (logAfter earlier).written ++ added ∧
        ∀ new ∈ added, ∀ old ∈ (logAfter earlier).rows, old.sequence < new.sequence) ∧
    log.rows.Pairwise (fun a b => a.sequence < b.sequence) ∧
    (∀ identifier, (log.rows.filter fun r => r.active && r.identifier = identifier).length ≤ 1) ∧
    (∀ r ∈ log.rows, r.active = true ↔
      r.tombstone = false ∧ ∀ q ∈ log.rows, q.identifier = r.identifier → q.sequence ≤ r.sequence) ∧
    ∀ identifier, (log.activeRow? identifier).map LogRow.toAssociation = replay log.changes identifier := by
  intro logAfter log
  have sound : ∀ calls, (logAfter calls).Sound := fun calls => afterAll_sound sound_empty calls
  refine ⟨?_, (sound calls).ascending, (sound calls).active_unique, (sound calls).active_iff,
    (sound calls).active_eq_replay⟩
  rintro earlier more rfl
  obtain ⟨added, hadded, -, habove⟩ :=
    afterAll_extends (({ db with associations := {} } : Database).afterAll earlier) more
  refine ⟨added, by rw [← hadded, ← afterAll_append], fun new hnew old hold => ?_⟩
  exact Int64.lt_of_le_of_lt ((sound earlier).bounded old hold).2 (habove new hnew)

end Database

end IdentityServer
