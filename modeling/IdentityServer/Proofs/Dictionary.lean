import IdentityServer.Proofs.Json.RoundTrip
import Mathlib.Data.List.Sort

/-! # Maps are their values

A map is determined by the values of its keys, and what is computed from its entries has the values that are computed
from its values. -/

namespace IdentityServer

namespace Fields
variable {α β : Type} {fields other : Fields α} {key : String} {value : α}

theorem mem_of_get? (h : get? key fields = some value) : (key, value) ∈ fields := by
  induction fields with
  | nil => cases h
  | cons head rest ih =>
    rw [get?] at h
    split at h
    · rename_i hkey
      cases h
      exact hkey ▸ List.mem_cons_self
    · exact List.mem_cons_of_mem _ (ih h)

theorem get?_eq_some_iff (h : fields.Ordered) : get? key fields = some value ↔ (key, value) ∈ fields := by
  induction fields with
  | nil => exact ⟨nofun, nofun⟩
  | cons head rest ih =>
    obtain ⟨k, v⟩ := head
    obtain ⟨above, hrest⟩ := List.pairwise_cons.mp h
    rw [get?, List.mem_cons]
    by_cases hk : k = key
    · have absent : (key, value) ∉ rest := fun hmem => String.lt_irrefl _ (hk ▸ above (key, value) hmem)
      simp [hk, absent, eq_comm]
    · rw [if_neg hk, ih hrest]
      simp [Ne.symm hk]

theorem eq_of_get? (h : fields.Ordered) (h' : other.Ordered) (same : ∀ key, get? key fields = get? key other) :
    fields = other := by
  have : Std.Antisymm fun a b : String × α => a.1 < b.1 := ⟨fun a b hab hba => absurd hba (String.lt_asymm hab)⟩
  have : Std.Irrefl fun a b : String × α => a.1 < b.1 := ⟨fun a => String.lt_irrefl a.1⟩
  refine List.Pairwise.eq_of_mem_iff h h' fun ⟨key, value⟩ => ?_
  rw [← get?_eq_some_iff h, ← get?_eq_some_iff h', same key]

theorem get?_map (f : String → α → β) (fields : Fields α) (key : String) :
    get? key (fields.map fun field => (field.1, f field.1 field.2)) = (get? key fields).map (f key) := by
  induction fields with
  | nil => rfl
  | cons head rest ih =>
    obtain ⟨k, v⟩ := head
    by_cases hk : k = key
    · simp [get?, hk]
    · simpa [get?, hk] using ih

end Fields

namespace Dictionary
variable {α β : Type} {d e : Dictionary α}

theorem eq_of_get? (same : ∀ key, d.get? key = e.get? key) : d = e :=
  ext (Fields.eq_of_get? d.ordered e.ordered same)

theorem get?_ofList_map (f : String → α → β) (d : Dictionary α) (key : String) :
    (ofList (d.entries.map fun entry => (entry.1, f entry.1 entry.2))).get? key = (d.get? key).map (f key) := by
  have ordered : Fields.Ordered (d.entries.map fun entry => (entry.1, f entry.1 entry.2)) :=
    List.pairwise_map.mpr d.ordered
  have entries : (ofList (d.entries.map fun entry => (entry.1, f entry.1 entry.2))).entries = _ :=
    Fields.ofList_ordered ordered
  rw [get?, entries, Fields.get?_map]
  rfl

end Dictionary

end IdentityServer
