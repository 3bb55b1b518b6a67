import IdentityServer.Proofs.Invite.Attempts

/-! # At most once

An invite has one successful attempt at most, since a success is in the table before the next pass looks: the invite
is gone then, or marked, and an invite that is attempted is in the table without a mark. -/

namespace IdentityServer

/-! ### What a success leaves -/

namespace Attempt
variable {ω : Type} {settings : ServiceSettings} {a : Attempt ω} {table next : InviteTable} {t : InviteToken}

theorem Proper.kept_or_delivered (h : a.Proper settings) (ordered : a.before.database.invites.Ordered) :
    ∀ t ∈ a.before.database.invites.rows, t ∈ (a.after settings).database.invites.rows ∨
      (a.succeeded = true ∧ a.token = t) := by
  intro t ht
  cases hanswer : a.succeeded with
  | false =>
    rw [h.after_failed hanswer]
    exact .inl ht
  | true =>
    rw [h.after_succeeded hanswer]
    by_cases same : t.id = a.token.id
    · exact .inr ⟨rfl, ordered.eq_of_id h.stored ht same.symm⟩
    · exact .inl (InviteTable.mem_delivered_other ht same)

/-- After a successful attempt the invite is gone, or marked with the time of the attempt. -/
def Settled (settings : ServiceSettings) (table : InviteTable) (a : Attempt ω) : Prop :=
  if settings.deleteOnDelivery then ∀ t ∈ table.rows, t.id ≠ a.token.id
  else { a.token with sentAt := some a.sentAt } ∈ table.rows

/-- An invite that waits has not been delivered. -/
theorem Settled.ne (h : a.Settled settings table) (ordered : table.Ordered) (ht : t ∈ table.rows)
    (waiting : t.sentAt = none) : a.token.id ≠ t.id := by
  intro same
  unfold Settled at h
  split at h
  · exact h t ht same.symm
  · obtain rfl := ordered.eq_of_id h ht same
    cases waiting

theorem settled_delivered (ordered : table.Ordered) (stored : a.token ∈ table.rows) (waiting : a.token.sentAt = none) :
    a.Settled settings (table.delivered settings.deleteOnDelivery a.token a.sentAt) := by
  unfold Settled
  split
  · rename_i deletes
    intro t ht
    obtain ⟨-, other⟩ | ⟨keeps, -⟩ := (ordered.mem_delivered stored waiting).mp ht
    · exact other
    · rw [deletes] at keeps
      cases keeps
  · rename_i keeps
    exact (ordered.mem_delivered stored waiting).mpr (.inr ⟨Bool.not_eq_true _ ▸ keeps, rfl⟩)

/-- What is delivered afterwards is another invite. -/
theorem Settled.delivered (h : a.Settled settings table) (ordered : table.Ordered) (ht : t ∈ table.rows)
    (waiting : t.sentAt = none) (sentAt : Int64) :
    a.Settled settings (table.delivered settings.deleteOnDelivery t sentAt) := by
  have other := h.ne ordered ht waiting
  unfold Settled at h ⊢
  split at h
  · rename_i deletes
    rw [if_pos deletes]
    intro r hr
    obtain ⟨hr, -⟩ | ⟨-, rfl⟩ := (ordered.mem_delivered ht waiting).mp hr
    · exact h r hr
    · exact other.symm
  · rename_i keeps
    rw [if_neg keeps]
    exact InviteTable.mem_delivered_other h other

theorem Settled.follows (h : a.Settled settings table) (follows : next.Follows table) (known : a.token.id ≤ table.last) :
    a.Settled settings next := by
  unfold Settled at h ⊢
  split at h
  · rename_i deletes
    rw [if_pos deletes]
    intro t ht
    obtain ht | ⟨-, above⟩ := follows.new t ht
    · exact h t ht
    · exact (Int64.ne_of_lt (Int64.lt_of_le_of_lt known above)).symm
  · rename_i keeps
    rw [if_neg keeps]
    exact follows.kept _ h nofun

end Attempt

/-! ### What has been attempted -/

/-- A service and, in their order, the attempts that it has made to deliver invites. -/
structure Journal (ω : Type) where
  service : Service ω
  attempts : List (Attempt ω)

namespace Journal
variable {ω : Type} {settings : ServiceSettings} {j : Journal ω}

def table (j : Journal ω) : InviteTable :=
  j.service.database.invites

/-- What every run keeps. -/
structure Tracked (settings : ServiceSettings) (j : Journal ω) : Prop where
  records : j.service.database.Records
  ordered : j.table.Ordered
  proper : ∀ a ∈ j.attempts, a.Proper settings
  known : ∀ a ∈ j.attempts, a.token.id ≤ j.table.last
  once : ((j.attempts.filter Attempt.succeeded).map fun a => a.token.id).Nodup
  settled : ∀ a ∈ j.attempts, a.succeeded = true → a.Settled settings j.table
  /-- Marks come from successful attempts. -/
  stamped : ∀ t ∈ j.table.rows, t.sentAt ≠ none →
    ∃ a ∈ j.attempts, a.succeeded = true ∧ t = { a.token with sentAt := some a.sentAt }

def start (service : Service ω) : Journal ω where
  service := { service with database := { service.database with invites := {} } }
  attempts := []

theorem tracked_start {service : Service ω} (records : service.database.Records) : (start service).Tracked settings where
  records := ⟨records.mark, records.delete⟩
  ordered := InviteTable.ordered_empty
  proper := nofun
  known := nofun
  once := .nil
  settled := nofun
  stamped := nofun

namespace Tracked

theorem failed (h : j.Tracked settings) {a : Attempt ω} (hbefore : a.before = j.service) (proper : a.Proper settings)
    (failed : a.succeeded = false) : Tracked settings ⟨a.after settings, j.attempts ++ [a]⟩ := by
  have stored := proper.stored
  rw [hbefore] at stored
  rw [proper.after_failed failed, hbefore]
  have old : ∀ b ∈ j.attempts ++ [a], b.succeeded = true → b ∈ j.attempts := by
    intro b hb succeeded
    rcases List.mem_append.mp hb with hb | hb
    · exact hb
    · rw [List.mem_singleton.mp hb, failed] at succeeded
      cases succeeded
  constructor
  case records => exact ⟨h.records.mark, h.records.delete⟩
  case ordered => exact h.ordered
  case proper => exact List.forall_mem_append.mpr ⟨h.proper, List.forall_mem_singleton.mpr proper⟩
  case known => exact List.forall_mem_append.mpr ⟨h.known, List.forall_mem_singleton.mpr (h.ordered.bounded _ stored)⟩
  case once =>
    rw [List.filter_append, List.filter_singleton, failed, cond_false, List.append_nil]
    exact h.once
  case settled => exact fun b hb succeeded => h.settled b (old b hb succeeded) succeeded
  case stamped =>
    intro t ht sent
    obtain ⟨b, hb, hbt⟩ := h.stamped t ht sent
    exact ⟨b, List.mem_append_left _ hb, hbt⟩

/-- An attempt that succeeds is for an invite that has had no success. -/
theorem succeeded (h : j.Tracked settings) {a : Attempt ω} (hbefore : a.before = j.service) (proper : a.Proper settings)
    (succeeded : a.succeeded = true) : Tracked settings ⟨a.after settings, j.attempts ++ [a]⟩ := by
  have stored := proper.stored
  rw [hbefore] at stored
  rw [proper.after_succeeded succeeded, hbefore]
  have fresh : ∀ b ∈ j.attempts, b.succeeded = true → b.token.id ≠ a.token.id := fun b hb hsucceeded =>
    (h.settled b hb hsucceeded).ne h.ordered stored proper.waiting
  constructor
  case records => exact ⟨h.records.mark, h.records.delete⟩
  case ordered => exact h.ordered.delivered _ _ _
  case proper => exact List.forall_mem_append.mpr ⟨h.proper, List.forall_mem_singleton.mpr proper⟩
  case known =>
    intro b hb
    rw [table, InviteTable.delivered_last]
    rcases List.mem_append.mp hb with hb | hb
    · exact h.known b hb
    · rw [List.mem_singleton.mp hb]
      exact h.ordered.bounded _ stored
  case once =>
    rw [List.filter_append, List.filter_singleton, succeeded, cond_true, List.map_append]
    refine List.nodup_append.mpr ⟨h.once, List.nodup_singleton _, fun id hid other hother => ?_⟩
    obtain ⟨b, hb, rfl⟩ := List.mem_map.mp hid
    obtain ⟨hb, hsucceeded⟩ := List.mem_filter.mp hb
    rw [List.mem_singleton.mp hother]
    exact fresh b hb hsucceeded
  case settled =>
    intro b hb hsucceeded
    rcases List.mem_append.mp hb with hb | hb
    · exact (h.settled b hb hsucceeded).delivered h.ordered stored proper.waiting _
    · rw [List.mem_singleton.mp hb]
      exact Attempt.settled_delivered h.ordered stored proper.waiting
  case stamped =>
    intro t ht sent
    obtain ⟨ht, -⟩ | ⟨-, rfl⟩ := (h.ordered.mem_delivered stored proper.waiting).mp ht
    · obtain ⟨b, hb, hbt⟩ := h.stamped t ht sent
      exact ⟨b, List.mem_append_left _ hb, hbt⟩
    · exact ⟨a, List.mem_append_right _ (List.mem_singleton_self a), succeeded, rfl⟩

theorem attempt (h : j.Tracked settings) {a : Attempt ω} (hbefore : a.before = j.service) (proper : a.Proper settings) :
    Tracked settings ⟨a.after settings, j.attempts ++ [a]⟩ := by
  cases hanswer : a.succeeded with
  | true => exact h.succeeded hbefore proper hanswer
  | false => exact h.failed hbefore proper hanswer

theorem leads (h : j.Tracked settings) {attempts : List (Attempt ω)} {t : Service ω}
    (leads : Leads settings j.service attempts t) (proper : ∀ a ∈ attempts, a.Proper settings) :
    Tracked settings ⟨t, j.attempts ++ attempts⟩ := by
  induction attempts generalizing j with
  | nil =>
    obtain rfl := leads
    rw [List.append_nil]
    exact h
  | cons a rest ih =>
    obtain ⟨hbefore, leads⟩ := leads
    obtain ⟨first, proper⟩ := List.forall_mem_cons.mp proper
    rw [List.append_cons]
    exact ih (h.attempt hbefore first) leads proper

theorem follows (h : j.Tracked settings) {t : Service ω} (records : t.database.Records)
    (follows : t.database.invites.Follows j.table) : Tracked settings ⟨t, j.attempts⟩ where
  records := records
  ordered := follows.ordered
  proper := h.proper
  known a ha := Int64.le_trans (h.known a ha) follows.last
  once := h.once
  settled a ha succeeded := (h.settled a ha succeeded).follows follows (h.known a ha)
  stamped t ht sent := by
    obtain ht | ⟨waiting, -⟩ := follows.new t ht
    · exact h.stamped t ht sent
    · exact absurd waiting sent

/-- An invite stays as it is until its successful attempt. -/
theorem kept_or_delivered (h : j.Tracked settings) {attempts : List (Attempt ω)} {u : Service ω}
    (leads : Leads settings j.service attempts u) (proper : ∀ a ∈ attempts, a.Proper settings) :
    ∀ t ∈ j.table.rows, t ∈ u.database.invites.rows ∨ ∃ a ∈ attempts, a.succeeded = true ∧ a.token = t := by
  induction attempts generalizing j with
  | nil =>
    obtain rfl := leads
    exact fun t ht => .inl ht
  | cons a rest ih =>
    obtain ⟨hbefore, leads⟩ := leads
    obtain ⟨first, proper⟩ := List.forall_mem_cons.mp proper
    intro t ht
    obtain there | delivered := first.kept_or_delivered (hbefore ▸ h.ordered) t (hbefore ▸ ht)
    · obtain ht | ⟨b, hb, hbt⟩ := ih (h.attempt hbefore first) leads proper t there
      · exact .inl ht
      · exact .inr ⟨b, List.mem_cons_of_mem a hb, hbt⟩
    · exact .inr ⟨a, List.mem_cons_self, delivered⟩

end Tracked

end Journal

end IdentityServer
