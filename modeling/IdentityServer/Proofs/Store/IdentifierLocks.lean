import IdentityServer.Store.IdentifierLocks
import Mathlib.Data.List.Dedup
import Mathlib.Data.List.Nodup
import Mathlib.Data.List.Perm.Subperm

/-! # Locks exclude each other

However calls, grants, cancelled waits and releases follow one another, no two holders have locked the same identifier. An
entry of the table is only replaced or swept out when nobody holds its mutex or waits for it, so whoever asks for an
identifier that somebody holds or waits for comes to the same mutex. -/

namespace IdentityServer

namespace IdentifierLocks
variable {locks : IdentifierLocks} {identifier : Identifier} {name : String} {mutex : Nat}

/-- The requests that keep a mutex alive: those that hold it and those that wait for it. -/
def live (locks : IdentifierLocks) : List LockRequest :=
  locks.held ++ locks.waiting

/-- The mutex that a call for an identifier comes to. -/
def mutexFor (locks : IdentifierLocks) (identifier : Identifier) : Nat :=
  (locks.sweep.mutexOf? identifier).getD locks.sweep.next

/-- Gives a waiting request its mutex if nobody holds it, whoever else waits for it. -/
def grantTo (locks : IdentifierLocks) (r : LockRequest) : IdentifierLocks :=
  if r ∈ locks.waiting ∧ locks.isHeld r.mutex = false then
    { locks with held := r :: locks.held, waiting := locks.waiting.erase r }
  else locks

theorem isAlive_iff : locks.isAlive mutex = true ↔ ∃ r ∈ locks.live, r.mutex = mutex := by
  simp only [isAlive, live, Bool.or_eq_true, List.any_eq_true, beq_iff_eq, List.mem_append, or_and_right, exists_or]

theorem isHeld_eq_false : locks.isHeld mutex = false ↔ mutex ∉ locks.held.map (·.mutex) := by
  simp [isHeld]

/-- The longest waiting request is one of those that could be given the mutex. -/
theorem grant_cases (locks : IdentifierLocks) (mutex : Nat) :
    locks.grant mutex = locks ∨ ∃ r, locks.grant mutex = locks.grantTo r := by
  unfold grant
  split
  · exact .inl rfl
  · rename_i free
    split
    · rename_i r first
      have waits := List.mem_of_find?_eq_some first
      have same : r.mutex = mutex := by simpa using List.find?_some first
      exact .inr ⟨r, (if_pos ⟨waits, same ▸ Bool.eq_false_iff.mpr free⟩).symm⟩
    · exact .inl rfl

theorem grantTo_cases (locks : IdentifierLocks) (r : LockRequest) : locks.grantTo r = locks ∨
    (r ∈ locks.waiting ∧ r.mutex ∉ locks.held.map (·.mutex) ∧
      locks.grantTo r = { locks with held := r :: locks.held, waiting := locks.waiting.erase r }) := by
  unfold grantTo
  split
  · rename_i h
    exact .inr ⟨h.1, isHeld_eq_false.mp h.2, rfl⟩
  · exact .inl rfl

theorem mutexOf?_eq_some (keyed : (locks.entries.map (·.1)).Nodup) :
    locks.mutexOf? identifier = some mutex ↔ (identifier, mutex) ∈ locks.entries ∧ locks.isAlive mutex = true := by
  unfold mutexOf?
  cases hfind : locks.entries.find? (·.1 == identifier) with
  | none =>
    refine ⟨nofun, fun h => ?_⟩
    have other := List.find?_eq_none.mp hfind _ h.1
    simp at other
  | some entry =>
    obtain ⟨found, known⟩ := entry
    have mem := List.mem_of_find?_eq_some hfind
    obtain rfl : found = identifier := by simpa using List.find?_some hfind
    dsimp only
    rw [Option.ite_none_right_eq_some, Option.some.injEq]
    constructor
    · rintro ⟨alive, rfl⟩
      exact ⟨mem, alive⟩
    · rintro ⟨h, alive⟩
      have same := List.inj_on_of_nodup_map keyed mem h rfl
      cases same
      exact ⟨alive, rfl⟩

/-! ### Sweeps -/

@[simp] theorem sweep_held (locks : IdentifierLocks) : locks.sweep.held = locks.held := by
  unfold sweep
  split <;> rfl

@[simp] theorem sweep_waiting (locks : IdentifierLocks) : locks.sweep.waiting = locks.waiting := by
  unfold sweep
  split <;> rfl

@[simp] theorem sweep_next (locks : IdentifierLocks) : locks.sweep.next = locks.next := by
  unfold sweep
  split <;> rfl

@[simp] theorem sweep_live (locks : IdentifierLocks) : locks.sweep.live = locks.live := by
  rw [live, sweep_held, sweep_waiting]
  rfl

theorem sweep_sublist (locks : IdentifierLocks) : locks.sweep.entries.Sublist locks.entries := by
  unfold sweep
  split
  · exact List.filter_sublist
  · exact .refl _

theorem mem_sweep {entry : Identifier × Nat} (h : entry ∈ locks.entries) (alive : locks.isAlive entry.2 = true) :
    entry ∈ locks.sweep.entries := by
  unfold sweep
  split
  · exact List.mem_filter.mpr ⟨h, alive⟩
  · exact h

/-- A table that is still large after a sweep has only entries whose mutex is alive. -/
theorem sweep_small (locks : IdentifierLocks) : locks.sweep.entries.length ≤ sweepThreshold ∨
    ∀ entry ∈ locks.sweep.entries, locks.isAlive entry.2 = true := by
  unfold sweep
  split
  · exact .inr fun _ h => (List.mem_filter.mp h).2
  · exact .inl (by omega)

/-! ### Calls -/

theorem request_known (h : locks.sweep.mutexOf? identifier = some mutex) (name : String) :
    locks.request name identifier = { locks.sweep with waiting := locks.sweep.waiting ++ [⟨name, mutex⟩] } := by
  simp only [request, h]

theorem request_unknown (h : locks.sweep.mutexOf? identifier = none) (name : String) :
    locks.request name identifier =
      { locks.sweep with
        entries := (identifier, locks.sweep.next) :: locks.sweep.entries.filter (·.1 != identifier)
        waiting := locks.sweep.waiting ++ [⟨name, locks.sweep.next⟩]
        next := locks.sweep.next + 1 } := by
  simp only [request, h]

theorem request_waiting (locks : IdentifierLocks) (name : String) (identifier : Identifier) :
    (locks.request name identifier).waiting = locks.waiting ++ [⟨name, locks.mutexFor identifier⟩] := by
  rw [mutexFor]
  cases h : locks.sweep.mutexOf? identifier with
  | none => rw [request_unknown h, sweep_waiting, Option.getD_none]
  | some mutex => rw [request_known h, sweep_waiting, Option.getD_some]

theorem length_request_le (locks : IdentifierLocks) (name : String) (identifier : Identifier) :
    (locks.request name identifier).entries.length ≤ locks.sweep.entries.length + 1 := by
  cases h : locks.sweep.mutexOf? identifier with
  | none =>
    rw [request_unknown h, List.length_cons]
    exact Nat.succ_le_succ (List.length_filter_le _ _)
  | some mutex =>
    rw [request_known h]
    exact Nat.le_succ _

end IdentifierLocks

/-! ### Runs -/

/-- The locks, and all calls so far: what each of them asked for, and for which identifier. -/
structure Contention where
  locks : IdentifierLocks := {}
  calls : List (LockRequest × Identifier) := []

namespace Contention

/-- What happens to the locks. The one who calls first need not be the first to come to the mutex, so a grant may go to any
    request that waits; settling goes by the order of the calls. -/
inductive Event where
  | call (name : String) (identifier : Identifier)
  | grant (r : LockRequest)
  | settle
  | abandon (name : String)
  | release (name : String)

def step (s : Contention) : Event → Contention
  | .call name identifier =>
    { locks := s.locks.request name identifier
      calls := (⟨name, s.locks.mutexFor identifier⟩, identifier) :: s.calls }
  | .grant r => { s with locks := s.locks.grantTo r }
  | .settle => { s with locks := s.locks.settle }
  | .abandon name => { s with locks := s.locks.abandon name }
  | .release name => { s with locks := s.locks.release name }

def run (s : Contention) (events : List Event) : Contention :=
  events.foldl step s

/-- The requests that hold a mutex and were made for this identifier. -/
def guards (s : Contention) (identifier : Identifier) : List LockRequest :=
  s.locks.held.filter fun r => (r, identifier) ∈ s.calls

/-- The identifiers that somebody has locked or waits for. -/
def busy (s : Contention) : List Identifier :=
  ((s.calls.filter fun call => call.1 ∈ s.locks.live).map (·.2)).dedup

/-- What the table and the calls have to do with each other. -/
structure Sound (s : Contention) : Prop where
  keyed : (s.locks.entries.map (·.1)).Nodup
  entered : ∀ entry ∈ s.locks.entries, ∃ call ∈ s.calls, call.2 = entry.1 ∧ call.1.mutex = entry.2
  owned : ∀ call ∈ s.calls, ∀ other ∈ s.calls, call.1.mutex = other.1.mutex → call.2 = other.2
  fresh : ∀ call ∈ s.calls, call.1.mutex < s.locks.next
  kept : ∀ r ∈ s.locks.live, ∃ identifier, (r, identifier) ∈ s.calls ∧ (identifier, r.mutex) ∈ s.locks.entries
  exclusive : (s.locks.held.map (·.mutex)).Nodup

namespace Sound
variable {s : Contention} {r : LockRequest} {identifier : Identifier}

theorem start : Sound {} :=
  ⟨.nil, nofun, nofun, nofun, nofun, .nil⟩

/-- Whoever holds or waits for an identifier does so with the mutex that the table has for it. -/
theorem entry_mem (h : s.Sound) (hr : r ∈ s.locks.live) (call : (r, identifier) ∈ s.calls) :
    (identifier, r.mutex) ∈ s.locks.entries := by
  obtain ⟨other, hother, entry⟩ := h.kept r hr
  obtain rfl : identifier = other := h.owned _ call _ hother rfl
  exact entry

/-- The entries of mutexes that are alive belong to identifiers that are locked or waited for. -/
theorem mem_busy (h : s.Sound) {entry : Identifier × Nat} (mem : entry ∈ s.locks.entries)
    (alive : s.locks.isAlive entry.2 = true) : entry.1 ∈ s.busy := by
  obtain ⟨r, hr, same⟩ := IdentifierLocks.isAlive_iff.mp alive
  obtain ⟨identifier, call, -⟩ := h.kept r hr
  obtain ⟨maker, hmaker, made, mutex⟩ := h.entered entry mem
  obtain rfl : identifier = entry.1 := (h.owned _ call _ hmaker (same.trans mutex.symm)).trans made
  exact List.mem_dedup.mpr (List.mem_map.mpr ⟨_, List.mem_filter.mpr ⟨call, by simpa using hr⟩, rfl⟩)

/-! #### Steps -/

/-- It is kept when requests go away or are granted, and when entries go away whose mutex is not alive. -/
theorem of_fewer (h : s.Sound) {locks : IdentifierLocks} (entries : locks.entries.Sublist s.locks.entries)
    (stays : ∀ entry ∈ s.locks.entries, s.locks.isAlive entry.2 = true → entry ∈ locks.entries)
    (next : locks.next = s.locks.next) (live : ∀ r ∈ locks.live, r ∈ s.locks.live)
    (exclusive : (locks.held.map (·.mutex)).Nodup) : Sound { s with locks } where
  keyed := h.keyed.sublist (entries.map _)
  entered entry mem := h.entered entry (entries.subset mem)
  owned := h.owned
  fresh call mem := next ▸ h.fresh call mem
  kept r hr := by
    obtain ⟨identifier, call, entry⟩ := h.kept r (live r hr)
    exact ⟨identifier, call, stays _ entry (IdentifierLocks.isAlive_iff.mpr ⟨r, live r hr, rfl⟩)⟩
  exclusive := exclusive

theorem sweep (h : s.Sound) : Sound { s with locks := s.locks.sweep } :=
  h.of_fewer s.locks.sweep_sublist (fun _ => IdentifierLocks.mem_sweep) s.locks.sweep_next
    (by simp) (by simpa using h.exclusive)

/-- Also after a sweep, the table has the mutex of an identifier that somebody holds or waits for. -/
theorem found (h : s.Sound) (hr : r ∈ s.locks.live) (call : (r, identifier) ∈ s.calls) :
    s.locks.sweep.mutexOf? identifier = some r.mutex := by
  have swept := h.sweep
  have hr' : r ∈ s.locks.sweep.live := by simpa using hr
  exact (IdentifierLocks.mutexOf?_eq_some swept.keyed).mpr
    ⟨swept.entry_mem hr' call, IdentifierLocks.isAlive_iff.mpr ⟨r, hr', rfl⟩⟩

theorem owned_cons (h : s.Sound) {call : LockRequest × Identifier}
    (new : ∀ other ∈ s.calls, call.1.mutex = other.1.mutex → call.2 = other.2) :
    ∀ c ∈ call :: s.calls, ∀ other ∈ call :: s.calls, c.1.mutex = other.1.mutex → c.2 = other.2 := by
  refine List.forall_mem_cons.mpr ⟨List.forall_mem_cons.mpr ⟨fun _ => rfl, new⟩, fun c hc => ?_⟩
  exact List.forall_mem_cons.mpr ⟨fun same => (new c hc same.symm).symm, h.owned c hc⟩

/-- A call for an identifier that the table has a mutex for waits for that one. -/
theorem join (h : s.Sound) {mutex : Nat} (entry : (identifier, mutex) ∈ s.locks.entries) (name : String) :
    Sound
      { locks := { s.locks with waiting := s.locks.waiting ++ [⟨name, mutex⟩] }
        calls := (⟨name, mutex⟩, identifier) :: s.calls } := by
  obtain ⟨maker, hmaker, made, same⟩ := h.entered _ entry
  refine ⟨h.keyed, fun e he => ?_, h.owned_cons fun other hother hmutex => ?_, ?_, fun r hr => ?_, h.exclusive⟩
  · obtain ⟨call, mem, made⟩ := h.entered e he
    exact ⟨call, List.mem_cons_of_mem _ mem, made⟩
  · exact made.symm.trans (h.owned maker hmaker other hother (same.trans hmutex))
  · have below : mutex < s.locks.next := Nat.lt_of_le_of_lt (Nat.le_of_eq same.symm) (h.fresh maker hmaker)
    exact List.forall_mem_cons.mpr ⟨below, h.fresh⟩
  · rw [IdentifierLocks.live, ← List.append_assoc, List.mem_append, List.mem_singleton] at hr
    obtain hr | rfl := hr
    · obtain ⟨identifier, call, entry⟩ := h.kept r hr
      exact ⟨identifier, List.mem_cons_of_mem _ call, entry⟩
    · exact ⟨identifier, List.mem_cons_self, entry⟩

/-- A call for an identifier that nobody holds or waits for gets a mutex of its own. -/
theorem create (h : s.Sound) (idle : ∀ r ∈ s.locks.live, (r, identifier) ∉ s.calls) (name : String) :
    Sound
      { locks :=
          { s.locks with
            entries := (identifier, s.locks.next) :: s.locks.entries.filter (·.1 != identifier)
            waiting := s.locks.waiting ++ [⟨name, s.locks.next⟩]
            next := s.locks.next + 1 }
        calls := (⟨name, s.locks.next⟩, identifier) :: s.calls } := by
  refine ⟨?_, ?_, h.owned_cons fun other hother hmutex => ?_, ?_, fun r hr => ?_, h.exclusive⟩
  · refine List.nodup_cons.mpr ⟨fun mem => ?_, h.keyed.sublist (List.filter_sublist.map _)⟩
    obtain ⟨e, he, same⟩ := List.mem_map.mp mem
    have other := (List.mem_filter.mp he).2
    simp [same] at other
  · refine List.forall_mem_cons.mpr ⟨⟨_, List.mem_cons_self, rfl, rfl⟩, fun e he => ?_⟩
    obtain ⟨call, mem, made⟩ := h.entered e (List.mem_filter.mp he).1
    exact ⟨call, List.mem_cons_of_mem _ mem, made⟩
  · exact absurd hmutex.symm (Nat.ne_of_lt (h.fresh other hother))
  · exact List.forall_mem_cons.mpr ⟨Nat.lt_succ_self _, fun call mem => Nat.lt_succ_of_lt (h.fresh call mem)⟩
  · rw [IdentifierLocks.live, ← List.append_assoc, List.mem_append, List.mem_singleton] at hr
    obtain hr | rfl := hr
    · -- The entry that is replaced is nobody's, or this identifier would not be idle.
      obtain ⟨other, call, entry⟩ := h.kept r hr
      have apart : other ≠ identifier := fun same => idle r hr (same ▸ call)
      exact ⟨other, List.mem_cons_of_mem _ call, List.mem_cons_of_mem _ (List.mem_filter.mpr ⟨entry, by simpa using apart⟩)⟩
    · exact ⟨identifier, List.mem_cons_self, List.mem_cons_self⟩

theorem call (h : s.Sound) (name : String) (identifier : Identifier) : (s.step (.call name identifier)).Sound := by
  have swept := h.sweep
  rw [step, IdentifierLocks.mutexFor]
  cases hfound : s.locks.sweep.mutexOf? identifier with
  | some mutex =>
    rw [IdentifierLocks.request_known hfound, Option.getD_some]
    exact swept.join ((IdentifierLocks.mutexOf?_eq_some swept.keyed).mp hfound).1 name
  | none =>
    rw [IdentifierLocks.request_unknown hfound, Option.getD_none]
    refine swept.create (fun r hr call => ?_) name
    cases hfound.symm.trans (h.found (by simpa using hr) call)

theorem grantTo (h : s.Sound) (r : LockRequest) : Sound { s with locks := s.locks.grantTo r } := by
  obtain same | ⟨waits, free, granted⟩ := s.locks.grantTo_cases r
  · rw [same]
    exact h
  · rw [granted]
    refine h.of_fewer (.refl _) (fun _ mem _ => mem) rfl (fun other hother => ?_) (List.nodup_cons.mpr ⟨free, h.exclusive⟩)
    simp only [IdentifierLocks.live, List.cons_append, List.mem_cons, List.mem_append] at hother ⊢
    obtain rfl | held | waiting := hother
    · exact .inr waits
    · exact .inl held
    · exact .inr (List.mem_of_mem_erase waiting)

theorem grant (h : s.Sound) (mutex : Nat) : Sound { s with locks := s.locks.grant mutex } := by
  obtain same | ⟨r, granted⟩ := s.locks.grant_cases mutex
  · rw [same]
    exact h
  · rw [granted]
    exact h.grantTo r

theorem settle (h : s.Sound) : Sound { s with locks := s.locks.settle } := by
  unfold IdentifierLocks.settle
  generalize s.locks.waiting = requests
  induction requests generalizing s with
  | nil => exact h
  | cons r requests ih => exact ih (h.grant r.mutex)

theorem abandon (h : s.Sound) (name : String) : Sound { s with locks := s.locks.abandon name } :=
  h.of_fewer (.refl _) (fun _ mem _ => mem) rfl
    (fun _ mem => (List.filter_sublist.append_left s.locks.held).subset mem) h.exclusive

theorem release (h : s.Sound) (name : String) : Sound { s with locks := s.locks.release name } :=
  h.of_fewer (.refl _) (fun _ mem _ => mem) rfl
    (fun _ mem => (List.filter_sublist.append_right s.locks.waiting).subset mem)
    (h.exclusive.sublist (List.filter_sublist.map _))

theorem step (h : s.Sound) (event : Event) : (s.step event).Sound := by
  cases event with
  | call name identifier => exact h.call name identifier
  | grant r => exact h.grantTo r
  | settle => exact h.settle
  | abandon name => exact h.abandon name
  | release name => exact h.release name

theorem run (h : s.Sound) (events : List Event) : (s.run events).Sound := by
  induction events generalizing s with
  | nil => exact h
  | cons event events ih => exact ih (h.step event)

/-! #### What follows -/

theorem length_guards_le (h : s.Sound) (identifier : Identifier) : (s.guards identifier).length ≤ 1 := by
  have held : ∀ r ∈ s.guards identifier, r ∈ s.locks.live ∧ (r, identifier) ∈ s.calls := by
    intro r hr
    obtain ⟨held, call⟩ := List.mem_filter.mp hr
    exact ⟨List.mem_append_left _ held, of_decide_eq_true call⟩
  have apart : ((s.guards identifier).map (·.mutex)).Nodup := h.exclusive.sublist (List.filter_sublist.map _)
  match hguards : s.guards identifier with
  | [] => exact Nat.zero_le _
  | [r] => exact Nat.le_refl _
  | r :: other :: rest =>
    -- Both have the mutex of the only entry of the identifier, which cannot be granted twice.
    rw [hguards] at held apart
    obtain ⟨live, call⟩ := held r List.mem_cons_self
    obtain ⟨live', call'⟩ := held other (List.mem_cons_of_mem _ List.mem_cons_self)
    have entry := List.inj_on_of_nodup_map h.keyed (h.entry_mem live call) (h.entry_mem live' call') rfl
    have same : r.mutex = other.mutex := congrArg Prod.snd entry
    exact absurd (List.mem_map.mpr ⟨other, List.mem_cons_self, same.symm⟩) (List.nodup_cons.mp apart).1

/-- What is left of a large table after a sweep are the identifiers that somebody holds or waits for. -/
theorem length_sweep_le (h : s.Sound) : s.locks.sweep.entries.length ≤ max IdentifierLocks.sweepThreshold s.busy.length := by
  obtain small | alive := s.locks.sweep_small
  · exact Nat.le_trans small (Nat.le_max_left _ _)
  · have busy : s.locks.sweep.entries.map (·.1) ⊆ s.busy :=
      List.forall_mem_map.mpr fun entry mem => h.mem_busy (s.locks.sweep_sublist.subset mem) (alive entry mem)
    have fewer := (List.subperm_of_subset h.sweep.keyed busy).length_le
    rw [List.length_map] at fewer
    exact Nat.le_trans fewer (Nat.le_max_right _ _)

end Sound

/-- Whatever has happened to the locks: whoever holds or waits for a mutex asked for an identifier, and for one only; at
    most one holds a mutex for an identifier; a further call for an identifier that somebody holds or waits for waits for
    the same mutex, also if the table is swept; and after the call the table has at most one entry more than the threshold,
    or than there were identifiers that somebody held or waited for. -/
theorem locks_exclusive (events : List Event) :
    let s := run {} events
    (∀ r ∈ s.locks.held ++ s.locks.waiting, ∃ identifier, (r, identifier) ∈ s.calls) ∧
    (∀ call ∈ s.calls, ∀ other ∈ s.calls, call.1.mutex = other.1.mutex → call.2 = other.2) ∧
    (∀ identifier, (s.guards identifier).length ≤ 1) ∧
    (∀ name identifier, (s.locks.request name identifier).waiting =
        s.locks.waiting ++ [⟨name, s.locks.mutexFor identifier⟩] ∧
      ∀ r ∈ s.locks.held ++ s.locks.waiting, (r, identifier) ∈ s.calls → s.locks.mutexFor identifier = r.mutex) ∧
    ∀ name identifier, (s.locks.request name identifier).entries.length ≤ max 1024 s.busy.length + 1 := by
  intro s
  have sound : s.Sound := Sound.start.run events
  refine ⟨fun r hr => ?_, sound.owned, sound.length_guards_le, fun name identifier => ⟨?_, fun r hr call => ?_⟩, ?_⟩
  · obtain ⟨identifier, call, -⟩ := sound.kept r hr
    exact ⟨identifier, call⟩
  · exact s.locks.request_waiting name identifier
  · rw [IdentifierLocks.mutexFor, sound.found hr call, Option.getD_some]
  · intro name identifier
    exact Nat.le_trans (s.locks.length_request_le name identifier) (Nat.succ_le_succ sound.length_sweep_le)

/-- The one who came second gave up, and the third holds the mutex that the first gave back: the next one waits for it too,
    while another identifier is locked on its own. -/
theorem locks_exclusive_handed_on :
    let john : Identifier := ⟨.email, "john@example.com"⟩
    let jane : Identifier := ⟨.email, "jane@example.com"⟩
    let events := [Event.call "first" john, .settle, .call "second" john, .call "third" john, .call "other" jane,
      .abandon "second", .grant ⟨"other", 1⟩, .release "first", .grant ⟨"third", 0⟩]
    let s := run {} events
    s.guards john = [⟨"third", 0⟩] ∧ s.guards jane = [⟨"other", 1⟩] ∧
    (s.locks.request "next" john).waiting = [⟨"next", 0⟩] := by
  intro john jane events s
  have mem : ⟨"third", 0⟩ ∈ s.locks.held ++ s.locks.waiting := by decide +kernel
  have call : (⟨"third", 0⟩, john) ∈ s.calls := by decide +kernel
  have nobody : s.locks.waiting = [] := by decide +kernel
  obtain ⟨-, -, -, comes_to, -⟩ := locks_exclusive events
  obtain ⟨waiting, same⟩ := comes_to "next" john
  have mutex : s.locks.mutexFor john = 0 := same _ mem call
  refine ⟨by decide +kernel, by decide +kernel, waiting.trans ?_⟩
  rw [nobody, mutex]
  rfl

end Contention
end IdentityServer
