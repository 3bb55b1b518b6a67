import IdentityServer.Proofs.Store.LogReplay
import IdentityServer.Proofs.Text.Integer

/-! # Rows of invites

The numbers of the table ascend, and a number that was given is not given again. So a row is known by its number, and
what is done to one invite leaves the others alone. -/

namespace IdentityServer

namespace InviteTable
variable {table next : InviteTable} {t r : InviteToken}

structure Ordered (table : InviteTable) : Prop where
  ascending : table.rows.Pairwise fun a b => a.id < b.id
  bounded : ∀ t ∈ table.rows, t.id ≤ table.last

theorem ordered_empty : Ordered {} := ⟨.nil, nofun⟩

namespace Ordered

theorem eq_of_id (h : table.Ordered) (ht : t ∈ table.rows) (hr : r ∈ table.rows) (same : t.id = r.id) : t = r := by
  have hnodup : (table.rows.map InviteToken.id).Nodup :=
    List.pairwise_map.mpr (h.ascending.imp fun hlt => Int64.ne_of_lt hlt)
  exact List.inj_on_of_nodup_map hnodup ht hr same

theorem filter (h : table.Ordered) (p : InviteToken → Bool) : Ordered { table with rows := table.rows.filter p } :=
  ⟨h.ascending.filter p, fun t ht => h.bounded t (List.mem_of_mem_filter ht)⟩

theorem markSent (h : table.Ordered) (id sentAt : Int64) : (table.markSent id sentAt).Ordered := by
  have same : ∀ t : InviteToken,
      (if t.id = id && !t.isDelivered then { t with sentAt := some sentAt } else t).id = t.id := by
    intro t
    split <;> rfl
  refine ⟨List.pairwise_map.mpr (h.ascending.imp fun hlt => ?_), fun t ht => ?_⟩
  · rwa [same, same]
  · obtain ⟨r, hr, rfl⟩ := List.mem_map.mp ht
    rw [same]
    exact h.bounded r hr

end Ordered

/-! ### Delivered invites -/

/-- The table once an invite was delivered: the invite is deleted, or marked with the time. -/
def delivered (table : InviteTable) (deletes : Bool) (t : InviteToken) (now : Int64) : InviteTable :=
  if deletes then table.delete t.id else table.markSent t.id now

theorem Ordered.delivered (h : table.Ordered) (deletes : Bool) (t : InviteToken) (now : Int64) :
    (table.delivered deletes t now).Ordered := by
  unfold InviteTable.delivered
  split
  · exact h.filter _
  · exact h.markSent t.id now

theorem delivered_last {deletes : Bool} {now : Int64} : (table.delivered deletes t now).last = table.last := by
  unfold delivered
  split <;> rfl

theorem mem_delivered_other {deletes : Bool} {now : Int64} (hr : r ∈ table.rows) (other : r.id ≠ t.id) :
    r ∈ (table.delivered deletes t now).rows := by
  unfold delivered
  split
  · exact List.mem_filter.mpr ⟨hr, decide_eq_true other⟩
  · refine List.mem_map.mpr ⟨r, hr, ?_⟩
    simp [other]

/-- The other invites stay, and of the delivered one the mark at most. -/
theorem Ordered.mem_delivered (h : table.Ordered) {deletes : Bool} {now : Int64} (ht : t ∈ table.rows)
    (waiting : t.sentAt = none) : r ∈ (table.delivered deletes t now).rows ↔
      (r ∈ table.rows ∧ r.id ≠ t.id) ∨ (deletes = false ∧ r = { t with sentAt := some now }) := by
  cases deletes with
  | true => simp [InviteTable.delivered, InviteTable.delete]
  | false =>
    constructor
    · intro hr
      obtain ⟨q, hq, rfl⟩ := List.mem_map.mp hr
      by_cases hid : q.id = t.id
      · obtain rfl := h.eq_of_id hq ht hid
        exact .inr ⟨rfl, by simp [InviteToken.isDelivered, waiting]⟩
      · exact .inl (by simp [hid, hq])
    · rintro (⟨hr, hid⟩ | ⟨-, rfl⟩)
      · exact mem_delivered_other hr hid
      · exact List.mem_map.mpr ⟨t, ht, by simp [InviteToken.isDelivered, waiting]⟩

/-- The number of invites that wait. -/
def unsent (table : InviteTable) : Nat :=
  table.rows.countP fun t => !t.isDelivered

/-- The others are known by their numbers. -/
theorem Ordered.split (h : table.Ordered) (ht : t ∈ table.rows) :
    ∃ front back, table.rows = front ++ t :: back ∧ ∀ r ∈ front ++ back, r.id ≠ t.id := by
  obtain ⟨front, back, hsplit⟩ := List.append_of_mem ht
  have ascending := h.ascending
  rw [hsplit] at ascending
  obtain ⟨-, behind, before⟩ := List.pairwise_append.mp ascending
  refine ⟨front, back, hsplit, List.forall_mem_append.mpr ⟨fun r hr => ?_, fun r hr => ?_⟩⟩
  · exact Int64.ne_of_lt (before r hr t List.mem_cons_self)
  · exact (Int64.ne_of_lt ((List.pairwise_cons.mp behind).1 r hr)).symm

/-- A delivery takes the invite out of its place, or marks it there. -/
theorem Ordered.rows_delivered (h : table.Ordered) (deletes : Bool) (ht : t ∈ table.rows) (waiting : t.sentAt = none)
    (now : Int64) : ∃ front back, table.rows = front ++ t :: back ∧
      (table.delivered deletes t now).rows = front ++ (if deletes then [] else [{ t with sentAt := some now }]) ++ back := by
  obtain ⟨front, back, hsplit, others⟩ := h.split ht
  obtain ⟨first, last⟩ := List.forall_mem_append.mp others
  refine ⟨front, back, hsplit, ?_⟩
  cases deletes with
  | true =>
    have kept : ∀ rows : List InviteToken, (∀ r ∈ rows, r.id ≠ t.id) → rows.filter (fun r => r.id ≠ t.id) = rows :=
      fun rows others => List.filter_eq_self.mpr fun r hr => decide_eq_true (others r hr)
    show table.rows.filter (fun r => r.id ≠ t.id) = _
    rw [hsplit, List.filter_append, kept front first, List.filter_cons_of_neg (by simp), kept back last]
    simp
  | false =>
    let mark (r : InviteToken) := if r.id = t.id && !r.isDelivered then { r with sentAt := some now } else r
    have kept : ∀ rows : List InviteToken, (∀ r ∈ rows, r.id ≠ t.id) → rows.map mark = rows := fun rows others =>
      (List.map_congr_left fun r hr => by simp [mark, others r hr]).trans rows.map_id
    show table.rows.map mark = _
    rw [hsplit, List.map_append, kept front first, List.map_cons, kept back last]
    simp [mark, InviteToken.isDelivered, waiting]

/-- After a delivery one invite less waits. -/
theorem Ordered.unsent_delivered (h : table.Ordered) (deletes : Bool) (ht : t ∈ table.rows) (waiting : t.sentAt = none)
    (now : Int64) : (table.delivered deletes t now).unsent + 1 = table.unsent := by
  obtain ⟨front, back, before, afterwards⟩ := h.rows_delivered deletes ht waiting now
  unfold unsent
  rw [before, afterwards]
  cases deletes <;> simp [InviteToken.isDelivered, waiting] <;> omega

/-! ### Tables without deliveries -/

/-- A table that follows another one with no delivery between them: what is new waits, under a greater number, and
    what was delivered is still there. -/
structure Follows (next table : InviteTable) : Prop where
  ordered : next.Ordered
  last : table.last ≤ next.last
  new : ∀ t ∈ next.rows, t ∈ table.rows ∨ (t.sentAt = none ∧ table.last < t.id)
  kept : ∀ t ∈ table.rows, t.sentAt ≠ none → t ∈ next.rows

theorem Ordered.follows (h : table.Ordered) : table.Follows table :=
  ⟨h, Int64.le_refl _, fun _ ht => .inl ht, fun _ ht _ => ht⟩

theorem Ordered.pruned (h : table.Ordered) (cutoff : Int64) : (table.pruneReceivedBefore cutoff).2.Follows table := by
  refine ⟨h.filter _, Int64.le_refl _, fun t ht => .inl (List.mem_of_mem_filter ht), fun t ht sent => ?_⟩
  refine List.mem_filter.mpr ⟨ht, ?_⟩
  simp [isPruned, InviteToken.isDelivered, Option.isSome_iff_ne_none.mpr sent]

end InviteTable

/-- What is pruned has expired. -/
theorem InviteToken.isExpired_of_pruned {t : InviteToken} {validity now : Int64}
    (h : InviteTable.isPruned (Text.saturatingSub now validity) t = true) :
    t.sentAt = none ∧ t.isExpired (some validity) now = true := by
  obtain ⟨waiting, early⟩ := Bool.and_eq_true_iff.mp h
  refine ⟨?_, decide_eq_true (Text.saturatingAdd_le_of_lt (of_decide_eq_true early))⟩
  simpa [isDelivered] using waiting

/-- Whether an invite is pruned at a time. -/
def InviteToken.isOverdue (t : InviteToken) (validity : Option Int64) (now : Int64) : Bool :=
  validity.any fun span => InviteTable.isPruned (Text.saturatingSub now span) t

theorem InviteToken.isExpired_of_overdue {t : InviteToken} {validity : Option Int64} {now : Int64}
    (h : t.isOverdue validity now = true) : t.sentAt = none ∧ t.isExpired validity now = true := by
  obtain ⟨span, rfl, early⟩ := (Option.any_eq_true ..).mp h
  exact isExpired_of_pruned early

namespace InviteTable

/-- The table without the invites that are pruned at a time. -/
def withoutOverdue (table : InviteTable) (validity : Option Int64) (now : Int64) : InviteTable :=
  { table with rows := table.rows.filter fun t => !t.isOverdue validity now }

theorem mem_withoutOverdue {table : InviteTable} {validity : Option Int64} {now : Int64} {t : InviteToken} :
    t ∈ (table.withoutOverdue validity now).rows ↔ t ∈ table.rows ∧ t.isOverdue validity now = false := by
  simp [withoutOverdue]

theorem length_withoutOverdue (table : InviteTable) (validity : Option Int64) (now : Int64) :
    table.rows.countP (·.isOverdue validity now) + (table.withoutOverdue validity now).rows.length = table.rows.length := by
  rw [List.length_eq_countP_add_countP (·.isOverdue validity now) (l := table.rows), withoutOverdue,
    ← List.countP_eq_length_filter]
  simp

theorem unsent_withoutOverdue (table : InviteTable) (validity : Option Int64) (now : Int64) :
    (table.withoutOverdue validity now).unsent + table.rows.countP (·.isOverdue validity now) = table.unsent := by
  have wait : ∀ t ∈ table.rows.filter (·.isOverdue validity now), (!t.isDelivered) = true := by
    intro t ht
    obtain ⟨waiting, -⟩ := InviteToken.isExpired_of_overdue (List.mem_filter.mp ht).2
    simp [InviteToken.isDelivered, waiting]
  have split := List.countP_eq_countP_filter_add table.rows (fun t => !t.isDelivered) (·.isOverdue validity now)
  rw [List.countP_eq_length.mpr wait, ← List.countP_eq_length_filter] at split
  exact (Nat.add_comm ..).trans split.symm

end InviteTable

theorem InviteTable.run_store {table : InviteTable} {identifier : Identifier} {room sender token : String}
    {now : Int64} (numbers : table.last ≠ Int64.maxValue) :
    let t : InviteToken := ⟨table.last + 1, identifier.medium, identifier.address, room, sender, token, now, none⟩
    (store identifier room sender token now).run table = .ok (t, ⟨table.rows ++ [t], table.last + 1⟩) := by
  simp [store, nextNumber, numbers]

/-- A new invite gets the next number, at the end of the table. -/
theorem Database.storeInvite_ok {db next : Database} {identifier : Identifier} {room sender token : String} {now : Int64}
    {t : InviteToken} (h : db.storeInvite identifier room sender token now = .ok (t, next)) :
    db.invites.last ≠ Int64.maxValue ∧
      t = ⟨db.invites.last + 1, identifier.medium, identifier.address, room, sender, token, now, none⟩ ∧
      next = { db with invites := ⟨db.invites.rows ++ [t], db.invites.last + 1⟩ } := by
  obtain ⟨⟨row, invites⟩, hstore, hnext⟩ := bind_eq_ok.mp h
  cases hnext
  by_cases full : db.invites.last = Int64.maxValue
  · have hrun : (InviteTable.store identifier room sender token now).run db.invites = .error .numbersExhausted := by
      simp [InviteTable.store, nextNumber, full]
    rw [Transaction.execute_error hrun] at hstore
    cases hstore
  · rw [Transaction.execute_ok (InviteTable.run_store full)] at hstore
    cases hstore
    exact ⟨full, rfl, rfl⟩

theorem InviteTable.Ordered.stored {table : InviteTable} {t : InviteToken} (h : table.Ordered)
    (room : table.last ≠ Int64.maxValue) (hid : t.id = table.last + 1) (waiting : t.sentAt = none) :
    Follows ⟨table.rows ++ [t], table.last + 1⟩ table := by
  have above := AssociationLog.last_lt_succ room
  have below : ∀ r ∈ table.rows, r.id < t.id := fun r hr => hid ▸ Int64.lt_of_le_of_lt (h.bounded r hr) above
  refine ⟨⟨?_, fun r hr => ?_⟩, Int64.le_of_lt above, fun r hr => ?_, fun r hr _ => List.mem_append_left _ hr⟩
  · refine List.pairwise_append.mpr ⟨h.ascending, List.pairwise_singleton .., fun r hr q hq => ?_⟩
    rw [List.mem_singleton.mp hq]
    exact below r hr
  · rcases List.mem_append.mp hr with hr | hr
    · exact Int64.le_trans (h.bounded r hr) (Int64.le_of_lt above)
    · rw [List.mem_singleton.mp hr, hid]
      exact Int64.le_refl _
  · rcases List.mem_append.mp hr with hr | hr
    · exact .inl hr
    · rw [List.mem_singleton.mp hr, hid]
      exact .inr ⟨waiting, above⟩

end IdentityServer
