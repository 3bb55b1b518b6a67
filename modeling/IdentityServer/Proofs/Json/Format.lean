import IdentityServer.Proofs.Association.Attestation
import IdentityServer.Proofs.Json.Reordering
import IdentityServer.Proofs.Outcome
import Mathlib.Data.List.Induction

/-! # Formats

What a reader takes of a JSON value, and what the value has become when what was read is written again. A format is
put together like the values it describes, from texts, words and flags, maps, lists and records. -/

namespace IdentityServer

namespace Fields
variable {α β : Type}

theorem insert_map (f : α → β) (key : String) (value : α) (fields : Fields α) :
    insert key (f value) (fields.map fun field => (field.1, f field.2)) =
      (insert key value fields).map fun field => (field.1, f field.2) := by
  induction fields with
  | nil => rfl
  | cons head rest ih =>
    simp only [List.map_cons, insert]
    split
    · rfl
    · split
      · rfl
      · rw [ih, List.map_cons]

theorem ofList_map (f : α → β) (pairs : List (String × α)) :
    ofList (pairs.map fun pair => (pair.1, f pair.2)) = (ofList pairs).map fun field => (field.1, f field.2) := by
  suffices ∀ fields : Fields α,
      (pairs.map fun pair => (pair.1, f pair.2)).foldl (fun fields pair => insert pair.1 pair.2 fields)
        (fields.map fun field => (field.1, f field.2)) =
      (pairs.foldl (fun fields pair => insert pair.1 pair.2 fields) fields).map fun field => (field.1, f field.2) from
    this []
  induction pairs with
  | nil => exact fun _ => rfl
  | cons pair rest ih =>
    intro fields
    rw [List.map_cons, List.foldl_cons, List.foldl_cons, ← ih, ← insert_map]

theorem get?_ofList_ne_none {pairs : List (String × α)} {pair : String × α} (h : pair ∈ pairs) :
    get? pair.1 (ofList pairs) ≠ none := by
  induction pairs using List.reverseRecOn with
  | nil => cases h
  | append_singleton front last ih =>
    rw [ofList_append, List.foldl_cons, List.foldl_nil, get?_insert]
    split
    · nofun
    · rename_i hne
      rcases List.mem_append.mp h with h | h
      · exact ih h
      · exact absurd (congrArg Prod.fst (List.mem_singleton.mp h)).symm hne

theorem get?_ofList_eq_some {pairs : List (String × α)} (distinct : (pairs.map (·.1)).Nodup) {key : String} {value : α} :
    get? key (ofList pairs) = some value ↔ (key, value) ∈ pairs := by
  have given {v : α} (hv : get? key (ofList pairs) = some v) : (key, v) ∈ pairs := mem_ofList (mem_of_get? hv)
  refine ⟨given, fun h => ?_⟩
  obtain ⟨v, hv⟩ := Option.ne_none_iff_exists'.mp (get?_ofList_ne_none h)
  cases List.inj_on_of_nodup_map distinct (given hv) h rfl
  exact hv

theorem ofList_perm {pairs others : List (String × α)} (distinct : (pairs.map (·.1)).Nodup) (h : pairs.Perm others) :
    ofList pairs = ofList others := by
  refine eq_of_get? (ordered_ofList pairs) (ordered_ofList others) fun key => Option.ext fun value => ?_
  rw [get?_ofList_eq_some distinct, get?_ofList_eq_some ((h.map _).nodup_iff.mp distinct), h.mem_iff]

end Fields

namespace Json

/-- The spellings of a case without content: its name, or an object with nothing under that name. -/
inductive Spells (isNothing : Json → Bool) (name : String) : Json → Prop
  | text : Spells isNothing name (.str name)
  | object {content : Json} (h : isNothing content = true) : Spells isNothing name (.obj [(name, content)])

/-! ### Values of one kind -/

/-- The values that a reader takes, and what they have become when what was read is written. -/
structure Format where
  Accepts : Json → Prop
  rewritten : Json → Json

/-- A writer and a reader that agree with each other and with a format. -/
structure Codec (α : Type) extends Format where
  write : α → Json
  read : Json → Option α
  read_write : ∀ x, read (write x) = some x
  exists_iff : ∀ v, (∃ x, read v = some x) ↔ Accepts v
  write_read : ∀ {v x}, read v = some x → write x = rewritten v

namespace Codec
variable {α β : Type}

theorem text?_eq_some {v : Json} {s : String} : v.text? = some s ↔ v = .str s := by
  cases v <;> simp [text?]

theorem bool?_eq_some {v : Json} {b : Bool} : v.bool? = some b ↔ v = .bool b := by
  cases v <;> simp [bool?]

theorem int64?_eq_some {v : Json} {n : Int64} : v.int64? = some n ↔ v = .ofInt64 n := by
  refine ⟨fun h => ?_, fun h => h ▸ int64?_ofInt64 n⟩
  cases v with
  | int i => rw [ofInt64, Text.toInt64?_eq_some.mp h]
  | _ => cases h

theorem caseName?_eq_some {isNothing : Json → Bool} {v : Json} {name : String} :
    v.caseName? isNothing = some name ↔ v.Spells isNothing name := by
  constructor
  · intro h
    unfold caseName? at h
    split at h
    · cases h
      exact .text
    · split at h
      · rename_i hnothing
        cases h
        exact .object hnothing
      · cases h
    · cases h
  · rintro (_ | hnothing)
    · rfl
    · exact if_pos hnothing

theorem ofName?_eq_some {name : String} {m : Medium} : Medium.ofName? name = some m ↔ name = m.name := by
  refine ⟨fun h => ?_, fun h => h ▸ Medium.ofName?_name m⟩
  unfold Medium.ofName? at h
  split at h
  · rename_i hname
    exact Option.some.inj h ▸ hname
  · split at h
    · rename_i hname
      exact Option.some.inj h ▸ hname
    · cases h

theorem medium?_eq_some {isNothing : Json → Bool} {v : Json} {m : Medium} :
    v.medium? isNothing = some m ↔ v.Spells isNothing m.name := by
  simp only [medium?, Option.bind_eq_some_iff, caseName?_eq_some, ofName?_eq_some, exists_eq_right]

/-- Values that are read in the one way in which they are written. -/
def exact (write : α → Json) (read : Json → Option α) (h : ∀ {v x}, read v = some x ↔ v = write x) : Codec α where
  Accepts v := ∃ x, v = write x
  rewritten := id
  write
  read
  read_write _ := h.mpr rfl
  exists_iff _ := exists_congr fun _ => h
  write_read hread := (h.mp hread).symm

def text : Codec String := exact .str text? text?_eq_some

def word : Codec Int64 := exact .ofInt64 int64? int64?_eq_some

def flag : Codec Bool := exact .bool bool? bool?_eq_some

/-- Media, which are written as texts. -/
def medium (isNothing : Json → Bool) : Codec Medium where
  Accepts v := ∃ m : Medium, v.Spells isNothing m.name
  rewritten v := ((v.caseName? isNothing).map Json.str).getD v
  write m := .str m.name
  read := medium? isNothing
  read_write m := Medium.ofName?_name m
  exists_iff _ := exists_congr fun _ => medium?_eq_some
  write_read h := by
    rw [caseName?_eq_some.mpr (medium?_eq_some.mp h)]
    rfl

def anything : Codec Json := exact id some Option.some_inj

@[simp] theorem text_read : text.read = text? := rfl

@[simp] theorem text_write : text.write = .str := rfl

@[simp] theorem word_read : word.read = int64? := rfl

@[simp] theorem word_write : word.write = .ofInt64 := rfl

@[simp] theorem flag_read : flag.read = bool? := rfl

@[simp] theorem medium_read (isNothing : Json → Bool) : (medium isNothing).read = medium? isNothing := rfl

@[simp] theorem anything_read : anything.read = some := rfl

/-- Lists of values of one kind. -/
def list (c : Codec α) : Codec (List α) where
  Accepts v := ∃ items, v = .arr items ∧ ∀ item ∈ items, c.Accepts item
  rewritten
    | .arr items => .arr (items.map c.rewritten)
    | v => v
  write xs := .arr (xs.map c.write)
  read v := v.items?.bind (·.mapM c.read)
  read_write xs :=
    mapM_eq_some.mpr (List.forall₂_map_left_iff.mpr (List.forall₂_same.mpr fun x _ => c.read_write x))
  exists_iff v := by
    cases v with
    | arr items => simp [items?, exists_mapM_eq_some, c.exists_iff]
    | _ => simp [items?]
  write_read {v xs} h := by
    cases v with
    | arr items =>
      replace h := mapM_eq_some.mp h
      have written : xs.map c.write = items.map c.rewritten := by
        induction h with
        | nil => rfl
        | cons hread _ ih => rw [List.map_cons, List.map_cons, c.write_read hread, ih]
      exact congrArg Json.arr written
    | _ => cases h

@[simp] theorem list_write (c : Codec α) (xs : List α) : c.list.write xs = .arr (xs.map c.write) := rfl

theorem dictionary?_eq_some {read : Json → Option α} {fields : Fields Json} {d : Dictionary α} :
    dictionary? read (.obj fields) = some d ↔
      ∃ entries, List.Forall₂ (fun field entry => read field.2 = some entry.2 ∧ field.1 = entry.1) fields entries ∧
        .ofList entries = d := by
  simp only [dictionary?, fields?, Option.bind_eq_bind, Option.bind_some, Option.bind_eq_some_iff, Option.pure_def,
    Option.some.injEq, mapM_eq_some, Option.map_eq_some_iff, Prod.ext_iff]
  simp only [exists_eq_right_right]

/-- Maps to values of one kind. -/
def map (c : Codec α) : Codec (Dictionary α) where
  Accepts v := ∃ fields, v = .obj fields ∧ ∀ field ∈ fields, c.Accepts field.2
  rewritten
    | .obj fields => .ofFields (fields.map fun field => (field.1, c.rewritten field.2))
    | v => v
  write := ofDictionary c.write
  read := dictionary? c.read
  read_write d := by
    refine dictionary?_eq_some.mpr ⟨d.entries, ?_, Dictionary.ext (Fields.ofList_ordered d.ordered)⟩
    exact List.forall₂_map_left_iff.mpr (List.forall₂_same.mpr fun entry _ => ⟨c.read_write entry.2, rfl⟩)
  exists_iff v := by
    cases v with
    | obj fields =>
      have readable : (∃ d, dictionary? c.read (.obj fields) = some d) ↔
          ∃ entries : Fields α,
            List.Forall₂ (fun field entry => c.read field.2 = some entry.2 ∧ field.1 = entry.1) fields entries := by
        simp only [dictionary?_eq_some]
        exact ⟨fun ⟨_, entries, h, _⟩ => ⟨entries, h⟩, fun ⟨entries, h⟩ => ⟨_, entries, h, rfl⟩⟩
      rw [readable, exists_forall₂_iff]
      simp [← c.exists_iff]
    | _ => simp [dictionary?, fields?]
  write_read {v d} h := by
    cases v with
    | obj fields =>
      obtain ⟨entries, hread, rfl⟩ := dictionary?_eq_some.mp h
      clear h
      have written : (entries.map fun entry => (entry.1, c.write entry.2)) =
          fields.map fun field => (field.1, c.rewritten field.2) := by
        induction hread with
        | nil => rfl
        | cons hfirst _ ih => rw [List.map_cons, List.map_cons, c.write_read hfirst.1, hfirst.2, ih]
      change Json.obj ((Fields.ofList entries).map fun entry => (entry.1, c.write entry.2)) = _
      rw [← Fields.ofList_map c.write, written]
      rfl
    | _ => cases h

@[simp] theorem map_read (c : Codec α) : c.map.read = dictionary? c.read := rfl

end Codec

/-! ### Records -/

/-- The object with these values under the names that have one. -/
def record (pairs : List (String × Option Json)) : Json :=
  .ofFields (pairs.filterMap fun pair => pair.2.map (pair.1, ·))

theorem field?_record {pairs : List (String × Option Json)} (distinct : (pairs.map (·.1)).Nodup) {name : String}
    {value : Option Json} (h : (name, value) ∈ pairs) : (record pairs).field? name = value := by
  -- What is found under the name stands in the list, and the list has one value for it.
  have found {v : Json} (hv : (record pairs).field? name = some v) : value = some v := by
    obtain ⟨pair, hpair, heq⟩ := List.mem_filterMap.mp (Fields.mem_ofList (Fields.mem_of_get? hv))
    obtain ⟨w, hw, heq⟩ := Option.map_eq_some_iff.mp heq
    cases heq
    exact hw ▸ congrArg Prod.snd (List.inj_on_of_nodup_map distinct h hpair rfl)
  cases value with
  | none => exact Option.eq_none_iff_forall_ne_some.mpr fun v hv => nomatch found hv
  | some v =>
    have given : (name, v) ∈ pairs.filterMap fun pair => pair.2.map (pair.1, ·) :=
      List.mem_filterMap.mpr ⟨_, h, rfl⟩
    obtain ⟨w, hw⟩ := Option.ne_none_iff_exists'.mp (Fields.get?_ofList_ne_none given)
    exact (found hw) ▸ hw

/-- What a record may hold under a name, and what is left there when what was read from it is written. -/
structure Field where
  name : String
  Takes : Option Json → Prop
  kept : Option Json → Option Json

/-- The records with these fields, which may depend on the value. Whatever else a record holds is passed over. -/
def Format.ofFields (fields : Json → List Field) : Format where
  Accepts v := ∀ F ∈ fields v, F.Takes (v.field? F.name)
  rewritten v := record ((fields v).map fun F => (F.name, F.kept (v.field? F.name)))

/-- A field for a part of the values of a type. -/
structure RecordPart (α : Type) extends Field where
  written : α → Option Json
  Reads : Json → α → Prop
  Found : Json → Prop
  found_of_takes : ∀ {v}, Takes (v.field? name) → Found v
  reads_written : ∀ {v x}, v.field? name = written x → Reads v x
  takes_of_reads : ∀ {v x}, Reads v x → Takes (v.field? name)
  kept_of_reads : ∀ {v x}, Reads v x → kept (v.field? name) = written x

namespace Codec
variable {α β : Type}

theorem required_iff {write : α → Json} {read : Json → Option α} (h : ∀ {v x}, read v = some x ↔ v = write x)
    {name : String} {v : Json} {x : α} : v.required read name = some x ↔ v.field? name = some (write x) := by
  simp [required, Option.bind_eq_some_iff, h]

theorem exists_required (c : Codec α) {name : String} {v : Json} :
    (∃ x, v.required c.read name = some x) ↔ ∃ w, v.field? name = some w ∧ c.Accepts w := by
  simp only [required, Option.bind_eq_some_iff, ← c.exists_iff]
  rw [exists_comm]
  simp only [exists_and_left]

@[simp] theorem required_some {name : String} {v : Json} : v.required some name = v.field? name :=
  Option.bind_fun_some ..

theorem required_list (c : Codec α) {name : String} {v : Json} :
    v.required c.list.read name = (v.required items? name).bind (·.mapM c.read) :=
  (Option.bind_assoc ..).symm

theorem orElse_eq_some {default x : α} {read : Json → Option α} {name : String} {v : Json} :
    v.orElse default read name = some x ↔
      v.field? name = none ∧ default = x ∨ ∃ w, v.field? name = some w ∧ read w = some x := by
  rw [orElse]
  cases v.field? name <;> simp

theorem exists_orElse (c : Codec α) {default : α} {name : String} {v : Json} :
    (∃ x, v.orElse default c.read name = some x) ↔ ∀ w, v.field? name = some w → c.Accepts w := by
  rw [orElse]
  cases v.field? name with
  | none => simp
  | some w => simp [c.exists_iff]

theorem optionalInt64_eq_none {name : String} {v : Json} :
    v.optionalInt64 name = some none ↔ v.field? name = none ∨ v.field? name = some .null := by
  rw [optionalInt64]
  rcases v.field? name with _ | w
  · simp
  · cases w <;> simp

theorem optionalInt64_eq_some {name : String} {v : Json} {n : Int64} :
    v.optionalInt64 name = some (some n) ↔ v.field? name = some (.ofInt64 n) := by
  rw [optionalInt64]
  rcases v.field? name with _ | w
  · simp
  · cases w <;> simp [int64?_eq_some, ofInt64]

theorem optionalInt64_iff {name : String} {v : Json} {n : Option Int64} :
    v.optionalInt64 name = some n ↔ v.field? name = n.map .ofInt64 ∨ n = none ∧ v.field? name = some .null := by
  cases n with
  | none => simp [optionalInt64_eq_none]
  | some n => simp [optionalInt64_eq_some]

theorem exists_optionalInt64 {name : String} {v : Json} :
    (∃ x, v.optionalInt64 name = some x) ↔ ∀ w, v.field? name = some w → w = .null ∨ word.Accepts w := by
  rw [optionalInt64]
  rcases v.field? name with _ | w
  · simp
  · have readable (w : Json) : (∃ n, w.int64? = some n) ↔ word.Accepts w := word.exists_iff w
    cases w <;> simp [readable]

end Codec

namespace RecordPart
variable {α β : Type} (name : String)

/-- A field that has to be there. -/
def required (c : Codec β) (project : α → β) : RecordPart α where
  name
  Takes found := ∃ w, found = some w ∧ c.Accepts w
  kept := Option.map c.rewritten
  written x := some (c.write (project x))
  Reads v x := v.required c.read name = some (project x)
  Found v := ∃ y, v.required c.read name = some y
  found_of_takes := c.exists_required.mpr
  reads_written h := by rw [Json.required, h, Option.bind_some, c.read_write]
  takes_of_reads h := c.exists_required.mp ⟨_, h⟩
  kept_of_reads h := by
    obtain ⟨w, hw, hread⟩ := Option.bind_eq_some_iff.mp h
    rw [hw, Option.map_some, c.write_read hread]

/-- A field that is always the same text. -/
def tag (value : String) : RecordPart α where
  name
  Takes found := found = some (.str value)
  kept := id
  written _ := some (.str value)
  Reads v _ := v.field? name = some (.str value)
  Found v := v.field? name = some (.str value)
  found_of_takes := id
  reads_written := id
  takes_of_reads := id
  kept_of_reads := id

/-- What stands for an integer that is not there: null, or no field. -/
def absentWord (writesNull : Bool) : Option Json :=
  if writesNull then some .null else none

/-- An integer that may be absent or null. -/
def optionalWord (writesNull : Bool) (project : α → Option Int64) : RecordPart α where
  name
  Takes found := ∀ w, found = some w → w = .null ∨ Codec.word.Accepts w
  kept
    | none | some .null => absentWord writesNull
    | some w => some w
  written x := ((project x).map ofInt64).or (absentWord writesNull)
  Reads v x := v.optionalInt64 name = some (project x)
  Found v := ∃ n, v.optionalInt64 name = some n
  found_of_takes := Codec.exists_optionalInt64.mpr
  reads_written {v x} h := by
    cases hx : project x with
    | none =>
      rw [hx] at h
      cases writesNull with
      | false => exact Codec.optionalInt64_eq_none.mpr (.inl h)
      | true => exact Codec.optionalInt64_eq_none.mpr (.inr h)
    | some n =>
      rw [hx] at h
      exact Codec.optionalInt64_eq_some.mpr h
  takes_of_reads h := Codec.exists_optionalInt64.mp ⟨_, h⟩
  kept_of_reads {v x} h := by
    cases hx : project x with
    | none =>
      rw [hx] at h
      rcases Codec.optionalInt64_eq_none.mp h with h | h <;> rw [h] <;> rfl
    | some n =>
      rw [hx] at h
      rw [Codec.optionalInt64_eq_some.mp h]
      rfl

/-- A field that stands for `default` when it is absent. -/
def orElse (default : β) (c : Codec β) (project : α → β) : RecordPart α where
  name
  Takes found := ∀ w, found = some w → c.Accepts w
  kept
    | none => some (c.write default)
    | some w => some (c.rewritten w)
  written x := some (c.write (project x))
  Reads v x := v.orElse default c.read name = some (project x)
  Found v := ∃ y, v.orElse default c.read name = some y
  found_of_takes := c.exists_orElse.mpr
  reads_written h := by rw [Json.orElse, h]; exact c.read_write _
  takes_of_reads h := c.exists_orElse.mp ⟨_, h⟩
  kept_of_reads h := by
    obtain ⟨hv, hx⟩ | ⟨w, hv, hread⟩ := Codec.orElse_eq_some.mp h
    · rw [hv, ← hx]
    · rw [hv, c.write_read hread]

/-- A map that is left out when it is empty. -/
def sparse (c : Codec β) (project : α → Dictionary β) : RecordPart α where
  name
  Takes found := ∀ w, found = some w → c.map.Accepts w
  kept found := match found.map c.map.rewritten with
    | some (.obj []) => none
    | kept => kept
  written x := if (project x).isEmpty then none else some (c.map.write (project x))
  Reads v x := v.orElse .empty c.map.read name = some (project x)
  Found v := ∃ y, v.orElse .empty c.map.read name = some y
  found_of_takes := c.map.exists_orElse.mpr
  reads_written {v x} h := by
    split at h
    · rename_i hempty
      have : project x = .empty := Dictionary.ext (List.isEmpty_iff.mp hempty)
      rw [Json.orElse, h, this]
    · rw [Json.orElse, h]
      exact c.map.read_write _
  takes_of_reads h := c.map.exists_orElse.mp ⟨_, h⟩
  kept_of_reads {v x} h := by
    obtain ⟨hv, hx⟩ | ⟨w, hv, hread⟩ := Codec.orElse_eq_some.mp h
    · rw [hv, ← hx]
      rfl
    · rw [hv, Option.map_some, ← c.map.write_read hread]
      obtain ⟨entries, ordered⟩ := project x
      cases entries <;> rfl

end RecordPart

namespace Codec
variable {α : Type}

/-- Records whose parts are read and written one by one. -/
def ofParts (parts : List (RecordPart α)) (write : α → Json) (read : Json → Option α)
    (distinct : (parts.map (·.name)).Nodup)
    (write_eq : ∀ x, write x = record (parts.map fun P => (P.name, P.written x)))
    (read_eq_some : ∀ v x, read v = some x ↔ ∀ P ∈ parts, P.Reads v x)
    (complete : ∀ v, (∀ P ∈ parts, P.Found v) → ∃ x, read v = some x) : Codec α where
  toFormat := .ofFields fun _ => parts.map (·.toField)
  write
  read
  read_write x := by
    refine (read_eq_some _ x).mpr fun P hP => P.reads_written ?_
    rw [write_eq]
    refine field?_record ?_ (List.mem_map_of_mem hP)
    rwa [List.map_map]
  exists_iff v := by
    refine ⟨?_, fun h => complete v fun P hP => P.found_of_takes (h _ (List.mem_map_of_mem hP))⟩
    rintro ⟨x, h⟩ F hF
    obtain ⟨P, hP, rfl⟩ := List.mem_map.mp hF
    exact P.takes_of_reads ((read_eq_some v x).mp h P hP)
  write_read {v x} h := by
    have kept : (parts.map fun P => (P.name, P.written x)) = parts.map fun P => (P.name, P.kept (v.field? P.name)) :=
      List.map_congr_left fun P hP => by rw [P.kept_of_reads ((read_eq_some v x).mp h P hP)]
    change _ = record ((parts.map (·.toField)).map fun F => (F.name, F.kept (v.field? F.name)))
    rw [write_eq, kept, List.map_map]
    rfl

/-- Records that may also be lists, which stand for the objects that their layout makes of them. -/
def laidOut (layout : Json → Layout) (c : Codec α) (writes : ∀ x, ∃ fields, c.write x = .obj fields) : Codec α where
  Accepts v := ∃ w, (layout v).object? v = some w ∧ c.Accepts w
  rewritten v := (((layout v).object? v).map c.rewritten).getD v
  write := c.write
  read v := (layout v).read? c.read v
  read_write x := by
    obtain ⟨fields, hwrite⟩ := writes x
    rw [hwrite, Layout.read?_obj, ← hwrite, c.read_write]
  exists_iff v := by
    simp only [Layout.read?, Option.bind_eq_some_iff, ← c.exists_iff]
    rw [exists_comm]
    simp only [exists_and_left]
  write_read h := by
    obtain ⟨w, hw, hread⟩ := Option.bind_eq_some_iff.mp h
    rw [hw]
    exact c.write_read hread

/-- What is read from a value depends on what the format says of it. -/
theorem read_congr (c : Codec α) {v w : Json} (accepts : c.Accepts v ↔ c.Accepts w)
    (rewritten : c.rewritten v = c.rewritten w) : c.read v = c.read w := by
  have transfer {v w : Json} {x : α} (accepts : c.Accepts v ↔ c.Accepts w) (rewritten : c.rewritten v = c.rewritten w)
      (h : c.read v = some x) : c.read w = some x := by
    obtain ⟨y, hy⟩ := (c.exists_iff w).mpr (accepts.mp ((c.exists_iff v).mp ⟨x, h⟩))
    have same : c.write x = c.write y := by rw [c.write_read h, c.write_read hy, rewritten]
    have := c.read_write x
    rw [same, c.read_write] at this
    rw [hy, this]
  exact Option.ext fun x => ⟨transfer accepts rewritten, transfer accepts.symm rewritten.symm⟩

end Codec

end Json

end IdentityServer
