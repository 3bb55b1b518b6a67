/-!
# Ordered fields

Maps from texts to values, kept as lists of pairs in ascending order of the keys. The order is that of the
code points, which is also the byte order of the encoded texts, and no key occurs twice, so two maps with
the same entries are the same list. `Dictionary` carries the order in its type; the plain lists serve where
a type nests itself.
-/

namespace IdentityServer

/-- Pairs of keys and values. -/
abbrev Fields (α : Type) := List (String × α)

namespace Fields
variable {α : Type}

/-- Keys in strictly ascending order. -/
def Ordered (fields : Fields α) : Prop :=
  fields.Pairwise fun a b => a.1 < b.1

instance (fields : Fields α) : Decidable fields.Ordered :=
  inferInstanceAs (Decidable (List.Pairwise _ _))

/-- The value of a key. -/
def get? (key : String) : Fields α → Option α
  | [] => none
  | (k, v) :: rest => if k = key then some v else get? key rest

/-- The fields with this value for the key, in its place. -/
def insert (key : String) (value : α) : Fields α → Fields α
  | [] => [(key, value)]
  | (k, v) :: rest =>
    if k = key then (key, value) :: rest
    else if key < k then (key, value) :: (k, v) :: rest
    else (k, v) :: insert key value rest

/-- The fields without this key. -/
def erase (key : String) (fields : Fields α) : Fields α :=
  fields.filter fun field => field.1 ≠ key

/-- The fields that a list of pairs gives, a later pair winning over an earlier one of the same key. -/
def ofList (pairs : List (String × α)) : Fields α :=
  pairs.foldl (fun fields pair => insert pair.1 pair.2 fields) []

theorem mem_insert {key : String} {value : α} {fields : Fields α} {x : String × α}
    (h : x ∈ insert key value fields) : x = (key, value) ∨ x ∈ fields := by
  induction fields with
  | nil => simpa [insert] using h
  | cons head rest ih =>
    simp only [insert] at h
    split at h
    · rcases List.mem_cons.mp h with h | h
      · exact .inl h
      · exact .inr (List.mem_cons_of_mem _ h)
    · split at h
      · exact (List.mem_cons.mp h).imp id id
      · rcases List.mem_cons.mp h with h | h
        · exact .inr (h ▸ List.mem_cons_self ..)
        · exact (ih h).imp id (List.mem_cons_of_mem _)

theorem get?_insert (key k : String) (value : α) (fields : Fields α) :
    get? k (insert key value fields) = if key = k then some value else get? k fields := by
  induction fields with
  | nil => simp [insert, get?]
  | cons head rest ih =>
    obtain ⟨other, v⟩ := head
    by_cases heq : other = key
    · subst heq
      by_cases hk : other = k <;> simp [insert, get?, hk]
    · by_cases hlt : key < other
      · simp [insert, get?, heq, hlt]
      · by_cases hk : other = k
        · subst hk
          simp [insert, get?, heq, hlt, Ne.symm heq]
        · simp [insert, get?, heq, hlt, hk, ih]

theorem get?_erase (key k : String) (fields : Fields α) :
    get? k (erase key fields) = if key = k then none else get? k fields := by
  induction fields with
  | nil => simp [erase, get?]
  | cons head rest ih =>
    obtain ⟨other, v⟩ := head
    have hcons : erase key ((other, v) :: rest) =
        if other = key then erase key rest else (other, v) :: erase key rest := by
      by_cases h : other = key <;> simp [erase, h]
    rw [hcons]
    by_cases heq : other = key
    · subst heq
      rw [if_pos rfl, ih]
      by_cases hk : other = k <;> simp [get?, hk]
    · by_cases hk : other = k
      · subst hk
        simp [get?, heq, Ne.symm heq]
      · simp [get?, heq, hk, ih]

theorem ordered_insert {key : String} {value : α} {fields : Fields α} (h : fields.Ordered) :
    (insert key value fields).Ordered := by
  induction fields with
  | nil => simp [insert, Ordered]
  | cons head rest ih =>
    obtain ⟨hhead, hrest⟩ := List.pairwise_cons.mp h
    simp only [insert]
    split
    · rename_i heq
      exact List.pairwise_cons.mpr ⟨fun x hx => heq ▸ hhead x hx, hrest⟩
    · split
      · rename_i hlt
        refine List.pairwise_cons.mpr ⟨fun x hx => ?_, h⟩
        rcases List.mem_cons.mp hx with rfl | hx
        · exact hlt
        · exact String.lt_trans hlt (hhead x hx)
      · rename_i hne hnlt
        refine List.pairwise_cons.mpr ⟨fun x hx => ?_, ih hrest⟩
        rcases mem_insert hx with rfl | hx
        · exact Std.lt_of_le_of_ne (String.not_lt.mp hnlt) hne
        · exact hhead x hx

theorem ordered_erase {key : String} {fields : Fields α} (h : fields.Ordered) :
    (erase key fields).Ordered :=
  h.filter _

theorem ordered_ofList (pairs : List (String × α)) : (ofList pairs).Ordered := by
  suffices ∀ fields : Fields α, fields.Ordered →
      (pairs.foldl (fun fields pair => insert pair.1 pair.2 fields) fields).Ordered from
    this [] List.Pairwise.nil
  induction pairs with
  | nil => exact fun _ h => h
  | cons pair rest ih => exact fun _ h => ih _ (ordered_insert h)

end Fields

/-- A map from texts to values. -/
structure Dictionary (α : Type) where
  entries : Fields α
  ordered : entries.Ordered

namespace Dictionary
variable {α β : Type}

@[ext] theorem ext {d e : Dictionary α} (h : d.entries = e.entries) : d = e := by
  cases d; cases e; cases h; rfl

instance [DecidableEq α] : DecidableEq (Dictionary α) := fun d e =>
  decidable_of_iff (d.entries = e.entries) ⟨ext, fun h => h ▸ rfl⟩

/-- The map without entries. -/
def empty : Dictionary α := ⟨[], List.Pairwise.nil⟩

/-- Whether there are no entries. -/
def isEmpty (d : Dictionary α) : Bool :=
  d.entries.isEmpty

/-- The value of a key. -/
def get? (d : Dictionary α) (key : String) : Option α :=
  d.entries.get? key

/-- The map with this value for the key. -/
def insert (d : Dictionary α) (key : String) (value : α) : Dictionary α :=
  ⟨d.entries.insert key value, Fields.ordered_insert d.ordered⟩

/-- The map without this key. -/
def erase (d : Dictionary α) (key : String) : Dictionary α :=
  ⟨d.entries.erase key, Fields.ordered_erase d.ordered⟩

/-- The map with a single entry. -/
def single (key : String) (value : α) : Dictionary α :=
  ⟨[(key, value)], List.pairwise_singleton ..⟩

/-- The map that a list of pairs gives, a later pair winning over an earlier one of the same key. -/
def ofList (pairs : List (String × α)) : Dictionary α :=
  ⟨Fields.ofList pairs, Fields.ordered_ofList pairs⟩

@[simp] theorem get?_empty (key : String) : (empty : Dictionary α).get? key = none := rfl

@[simp] theorem get?_insert (d : Dictionary α) (key k : String) (value : α) :
    (d.insert key value).get? k = if key = k then some value else d.get? k :=
  Fields.get?_insert ..

@[simp] theorem get?_erase (d : Dictionary α) (key k : String) :
    (d.erase key).get? k = if key = k then none else d.get? k :=
  Fields.get?_erase ..

@[simp] theorem get?_single (key k : String) (value : α) :
    (single key value).get? k = if key = k then some value else none := by
  simp [single, get?, Fields.get?]

end Dictionary

end IdentityServer
