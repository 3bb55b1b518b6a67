import IdentityServer.Proofs.Json.Literal

/-! # What is read

Every value that a text denotes is well formed: integers within the words, finite doubles, ordered fields at every
depth. Its brackets are no deeper than those of the text, and those are limited. -/

namespace IdentityServer

namespace Json

theorem itemsWellFormed_iff {items : List Json} : ItemsWellFormed items ↔ ∀ item ∈ items, item.WellFormed := by
  induction items with
  | nil => simp [ItemsWellFormed]
  | cons head rest ih => rw [ItemsWellFormed, ih, List.forall_mem_cons]

theorem fieldsWellFormed_iff {fields : Fields Json} : FieldsWellFormed fields ↔ ∀ field ∈ fields, field.2.WellFormed := by
  induction fields with
  | nil => simp [FieldsWellFormed]
  | cons head rest ih => rw [FieldsWellFormed, ih, List.forall_mem_cons]

namespace Source

/-! ### From what is written to values -/

mutual

theorem wellFormed_value? {v : Json} (source : Source) (h : source.value? = some v) :
    v.WellFormed ∧ v.depth ≤ source.depth := by
  match source with
  | .null | .bool _ =>
    cases h
    exact ⟨trivial, Nat.le_refl _⟩
  | .number l =>
    obtain ⟨formed, flat⟩ := NumberLiteral.wellFormed_value? h
    exact ⟨formed, Nat.le_of_eq flat⟩
  | .text written =>
    obtain ⟨s, -, rfl⟩ := Option.map_eq_some_iff.mp h
    exact ⟨trivial, Nat.le_refl _⟩
  | .arr items =>
    obtain ⟨values, hvalues, rfl⟩ := Option.map_eq_some_iff.mp h
    obtain ⟨formed, hdepth⟩ := wellFormed_itemValues? items hvalues
    exact ⟨formed, Nat.succ_le_succ hdepth⟩
  | .obj fields =>
    obtain ⟨pairs, hpairs, rfl⟩ := Option.map_eq_some_iff.mp h
    have formed := wellFormed_fieldValues? fields hpairs
    refine ⟨⟨Fields.ordered_ofList pairs, fieldsWellFormed_iff.mpr fun field hfield => ?_⟩,
      Nat.succ_le_succ (fieldsDepth_le_iff.mpr fun field hfield => ?_)⟩
    · exact (formed field (Fields.mem_ofList hfield)).1
    · exact (formed field (Fields.mem_ofList hfield)).2

theorem wellFormed_itemValues? {values : List Json} (items : List Source) (h : itemValues? items = some values) :
    ItemsWellFormed values ∧ Json.itemsDepth values ≤ itemsDepth items := by
  match items with
  | [] =>
    cases h
    exact ⟨trivial, Nat.le_refl _⟩
  | item :: rest =>
    obtain ⟨v, hv, h⟩ := Option.bind_eq_some_iff.mp h
    obtain ⟨values, hvalues, rfl⟩ := Option.map_eq_some_iff.mp h
    obtain ⟨formed, hdepth⟩ := wellFormed_value? item hv
    obtain ⟨restFormed, hrest⟩ := wellFormed_itemValues? rest hvalues
    exact ⟨⟨formed, restFormed⟩, Nat.max_le.mpr
      ⟨Nat.le_trans hdepth (Nat.le_max_left ..), Nat.le_trans hrest (Nat.le_max_right ..)⟩⟩

theorem wellFormed_fieldValues? {pairs : List (String × Json)} (fields : List (List Char × Source))
    (h : fieldValues? fields = some pairs) :
    ∀ field ∈ pairs, field.2.WellFormed ∧ field.2.depth ≤ fieldsDepth fields := by
  match fields with
  | [] =>
    cases h
    exact nofun
  | (written, source) :: rest =>
    obtain ⟨name, -, h⟩ := Option.bind_eq_some_iff.mp h
    obtain ⟨v, hv, h⟩ := Option.bind_eq_some_iff.mp h
    obtain ⟨pairs, hpairs, rfl⟩ := Option.map_eq_some_iff.mp h
    obtain ⟨formed, hdepth⟩ := wellFormed_value? source hv
    refine List.forall_mem_cons.mpr ⟨⟨formed, Nat.le_trans hdepth (Nat.le_max_left ..)⟩, fun field hfield => ?_⟩
    obtain ⟨restFormed, hrest⟩ := wellFormed_fieldValues? rest hpairs field hfield
    exact ⟨restFormed, Nat.le_trans hrest (Nat.le_max_right ..)⟩

end

/-! ### From texts to what is written -/

/-- With `fuel` calls left, no more brackets are read inside one another than are allowed. -/
structure ReadsWithin (fuel : Nat) : Prop where
  value : ∀ (limit : Nat) (s rest : List Char) (source : Source),
    readValue fuel limit s = some (source, rest) → source.depth ≤ limit
  items : ∀ (limit : Nat) (s rest : List Char) (items : List Source),
    readItems fuel limit s = some (items, rest) → itemsDepth items ≤ limit
  fields : ∀ (limit : Nat) (s rest : List Char) (fields : List (List Char × Source)),
    readFields fuel limit s = some (fields, rest) → fieldsDepth fields ≤ limit

namespace ReadsWithin
variable {fuel : Nat}

theorem value_step (ih : ReadsWithin fuel) (limit : Nat) (s rest : List Char) (source : Source)
    (h : readValue (fuel + 1) limit s = some (source, rest)) : source.depth ≤ limit := by
  rw [readValue] at h
  split at h
  · cases h
    exact Nat.zero_le _
  · cases h
    exact Nat.zero_le _
  · cases h
    exact Nat.zero_le _
  · obtain ⟨p, -, h⟩ := Option.map_eq_some_iff.mp h
    cases h
    exact Nat.zero_le _
  · split at h
    · cases h
    split at h
    · cases h
      exact Nat.succ_le_succ (Nat.zero_le _)
    · obtain ⟨⟨items, after⟩, hitems, h⟩ := Option.map_eq_some_iff.mp h
      cases h
      exact Nat.succ_le_succ (ih.items _ _ _ _ hitems)
  · split at h
    · cases h
    split at h
    · cases h
      exact Nat.succ_le_succ (Nat.zero_le _)
    · obtain ⟨⟨fields, after⟩, hfields, h⟩ := Option.map_eq_some_iff.mp h
      cases h
      exact Nat.succ_le_succ (ih.fields _ _ _ _ hfields)
  · obtain ⟨p, -, h⟩ := Option.map_eq_some_iff.mp h
    cases h
    exact Nat.zero_le _

theorem items_step (ih : ReadsWithin fuel) (limit : Nat) (s rest : List Char) (items : List Source)
    (h : readItems (fuel + 1) limit s = some (items, rest)) : itemsDepth items ≤ limit := by
  rw [readItems] at h
  obtain ⟨⟨item, after⟩, hitem, h⟩ := Option.bind_eq_some_iff.mp h
  have first := ih.value _ _ _ _ hitem
  split at h
  · cases h
    exact Nat.max_le.mpr ⟨first, Nat.zero_le _⟩
  · obtain ⟨⟨more, after⟩, hmore, h⟩ := Option.map_eq_some_iff.mp h
    cases h
    exact Nat.max_le.mpr ⟨first, ih.items _ _ _ _ hmore⟩
  · cases h

theorem fields_step (ih : ReadsWithin fuel) (limit : Nat) (s rest : List Char) (fields : List (List Char × Source))
    (h : readFields (fuel + 1) limit s = some (fields, rest)) : fieldsDepth fields ≤ limit := by
  rw [readFields] at h
  split at h
  · obtain ⟨name, -, h⟩ := Option.bind_eq_some_iff.mp h
    split at h
    · obtain ⟨⟨value, after⟩, hvalue, h⟩ := Option.bind_eq_some_iff.mp h
      have first := ih.value _ _ _ _ hvalue
      split at h
      · cases h
        exact Nat.max_le.mpr ⟨first, Nat.zero_le _⟩
      · obtain ⟨⟨more, after⟩, hmore, h⟩ := Option.map_eq_some_iff.mp h
        cases h
        exact Nat.max_le.mpr ⟨first, ih.fields _ _ _ _ hmore⟩
      · cases h
    · cases h
  · cases h

end ReadsWithin

theorem readsWithin (fuel : Nat) : ReadsWithin fuel := by
  induction fuel with
  | zero => exact ⟨nofun, nofun, nofun⟩
  | succ fuel ih => exact ⟨ih.value_step, ih.items_step, ih.fields_step⟩

end Source

open Source

/-- What is read is well formed, and its brackets are not too deep. -/
theorem wellFormed_parse {text : String} {v : Json} (h : parse text = some v) : v.WellFormed ∧ v.depth ≤ depthLimit := by
  obtain ⟨source, hread, hvalue⟩ := Option.bind_eq_some_iff.mp h
  obtain ⟨⟨source', after⟩, hwhole, hend⟩ := Option.bind_eq_some_iff.mp hread
  obtain ⟨-, rfl⟩ : _ ∧ source' = source := by simpa using hend
  obtain ⟨formed, hdepth⟩ := wellFormed_value? source' hvalue
  exact ⟨formed, Nat.le_trans hdepth ((readsWithin _).value _ _ _ _ hwhole)⟩

end Json

end IdentityServer
