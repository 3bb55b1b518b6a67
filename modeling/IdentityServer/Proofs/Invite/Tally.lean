import IdentityServer.Proofs.Invite.RetryPage

/-! # Invites by identifier

A retry sorts the invites of its page by identifier and counts them. Every identifier comes up once, and the counts of
those with a property add up to the number of their invites. -/

namespace IdentityServer

/-! ### Identifiers in order -/

namespace Identifier
variable {a b c : Identifier}

theorem before_iff : a.before b = true ↔
    a.medium.rank < b.medium.rank ∨ a.medium = b.medium ∧ a.address < b.address := by
  simp [before]

theorem not_before_self : ¬a.before a = true := by
  simp [before_iff]

theorem before_trans (hab : a.before b = true) (hbc : b.before c = true) : a.before c = true := by
  rw [before_iff] at hab hbc ⊢
  obtain hab | ⟨hab, hlt⟩ := hab
  · obtain hbc | ⟨hbc, -⟩ := hbc
    · exact .inl (Nat.lt_trans hab hbc)
    · exact .inl (hbc ▸ hab)
  · obtain hbc | ⟨hbc, hlt'⟩ := hbc
    · exact .inl (hab ▸ hbc)
    · exact .inr ⟨hab.trans hbc, String.lt_trans hlt hlt'⟩

theorem before_of_not_before (ne : b ≠ a) (h : ¬a.before b = true) : b.before a = true := by
  rw [before_iff, not_or] at h
  rw [before_iff]
  by_cases same : a.medium = b.medium
  · have addresses : b.address ≠ a.address := by
      obtain ⟨medium, address⟩ := a
      rintro rfl
      exact ne (congrArg (Identifier.mk · _) same.symm)
    exact .inr ⟨same.symm, Std.lt_of_le_of_ne (String.not_lt.mp fun later => h.2 ⟨same, later⟩) addresses⟩
  · have apart : ∀ m n : Medium, m ≠ n → ¬m.rank < n.rank → n.rank < m.rank := by
      rintro (_ | _) (_ | _) <;> decide
    exact .inl (apart _ _ same h.1)

end Identifier

namespace Delivery

/-! ### How many invites an identifier has -/

/-- The number of counted invites whose identifiers have a property. -/
def amount (p : Identifier → Bool) (counts : List (Identifier × Nat)) : Nat :=
  counts.foldr (fun entry n => if p entry.1 then entry.2 + n else n) 0

theorem amount_cons (p : Identifier → Bool) (entry : Identifier × Nat) (rest : List (Identifier × Nat)) :
    amount p (entry :: rest) = (if p entry.1 then entry.2 else 0) + amount p rest := by
  rw [amount, List.foldr_cons, ← amount]
  split
  · rfl
  · exact (Nat.zero_add _).symm

theorem amount_tally (p : Identifier → Bool) (identifier : Identifier) (counts : List (Identifier × Nat)) :
    amount p (tally identifier counts) = amount p counts + if p identifier then 1 else 0 := by
  induction counts with
  | nil => rw [tally, amount_cons, Nat.add_comm]
  | cons entry rest ih =>
    obtain ⟨other, n⟩ := entry
    rw [tally]
    split
    · rename_i same
      subst same
      simp only [amount_cons]
      split <;> omega
    · split
      · rw [amount_cons p (identifier, 1)]
        exact Nat.add_comm ..
      · rw [amount_cons, amount_cons, ih, Nat.add_assoc]

theorem amount_byIdentifier (p : Identifier → Bool) (tokens : List InviteToken) :
    amount p (byIdentifier tokens) = tokens.countP fun t => p t.identifier := by
  suffices ∀ counts, amount p (tokens.foldl (fun counts t => tally t.identifier counts) counts) =
      amount p counts + tokens.countP fun t => p t.identifier from (this []).trans (Nat.zero_add _)
  induction tokens with
  | nil => simp
  | cons t rest ih =>
    intro counts
    rw [List.foldl_cons, ih, amount_tally, List.countP_cons]
    omega

theorem tally_ascending {identifier : Identifier} {counts : List (Identifier × Nat)}
    (h : counts.Pairwise fun a b => a.1.before b.1 = true) :
    (tally identifier counts).Pairwise fun a b => a.1.before b.1 = true := by
  induction counts with
  | nil => exact List.pairwise_singleton ..
  | cons entry rest ih =>
    obtain ⟨other, n⟩ := entry
    obtain ⟨first, behind⟩ := List.pairwise_cons.mp h
    rw [tally]
    split
    · exact List.pairwise_cons.mpr ⟨first, behind⟩
    · split
      · rename_i before
        refine List.pairwise_cons.mpr ⟨fun later hlater => ?_, h⟩
        rcases List.mem_cons.mp hlater with rfl | hlater
        · exact before
        · exact Identifier.before_trans before (first later hlater)
      · rename_i ne before
        refine List.pairwise_cons.mpr ⟨fun later hlater => ?_, ih behind⟩
        obtain hlater | hlater := mem_tally.mp (List.mem_map_of_mem hlater)
        · rw [hlater]
          exact Identifier.before_of_not_before ne before
        · obtain ⟨entry, hentry, same⟩ := List.mem_map.mp hlater
          rw [← same]
          exact first entry hentry

/-- Every identifier has one entry. -/
theorem nodup_byIdentifier (tokens : List InviteToken) : ((byIdentifier tokens).map (·.1)).Nodup := by
  suffices ascending : ∀ counts : List (Identifier × Nat), (counts.Pairwise fun a b => a.1.before b.1 = true) →
      (tokens.foldl (fun counts t => tally t.identifier counts) counts).Pairwise fun a b => a.1.before b.1 = true by
    refine List.pairwise_map.mpr ((ascending [] .nil).imp fun before same => ?_)
    rw [same] at before
    exact Identifier.not_before_self before
  induction tokens with
  | nil => exact fun _ h => h
  | cons t rest ih => exact fun counts h => ih _ (tally_ascending h)

end Delivery

end IdentityServer
