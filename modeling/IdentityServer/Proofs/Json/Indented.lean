import IdentityServer.Proofs.Json.RoundTrip

/-! # Indented texts are read back

Between the tokens of a text any blanks may stand, so the indented text of a value is read as well as the canonical one.
Its fields need not be in order: the value that is read is the one whose fields are. -/

namespace IdentityServer.Json

/-! ### Values whose fields are in no order -/

mutual

/-- Numbers that are written so that they are read back, at every depth. -/
def Legible : Json → Prop
  | .int n => fitsWord n
  | .float x => WritesNumber (floatLayout.text x) (.float x)
  | .arr items => ItemsLegible items
  | .obj fields => FieldsLegible fields
  | _ => True

/-- Every item is legible. -/
def ItemsLegible : List Json → Prop
  | [] => True
  | item :: rest => item.Legible ∧ ItemsLegible rest

/-- The value of every field is legible. -/
def FieldsLegible : List (String × Json) → Prop
  | [] => True
  | (_, value) :: rest => value.Legible ∧ FieldsLegible rest

end

mutual

/-- The value with the fields of its objects in their order. -/
def sorted : Json → Json
  | .arr items => .arr (sortedItems items)
  | .obj fields => .ofFields (sortedFields fields)
  | v => v

/-- The items with their fields in order. -/
def sortedItems : List Json → List Json
  | [] => []
  | item :: rest => item.sorted :: sortedItems rest

/-- The fields with the fields of their values in order. -/
def sortedFields : List (String × Json) → List (String × Json)
  | [] => []
  | (name, value) :: rest => (name, value.sorted) :: sortedFields rest

end

theorem fieldsLegible_iff {fields : Fields Json} : FieldsLegible fields ↔ ∀ field ∈ fields, field.2.Legible := by
  induction fields with
  | nil => simp [FieldsLegible]
  | cons head rest ih => rw [FieldsLegible, ih, List.forall_mem_cons]

theorem sortedFields_eq (fields : List (String × Json)) :
    sortedFields fields = fields.map fun field => (field.1, field.2.sorted) := by
  induction fields with
  | nil => rfl
  | cons head rest ih => rw [sortedFields, ih, List.map_cons]

mutual

/-- What is legible is readable once its fields are in order. -/
theorem readable_sorted (v : Json) (hv : v.Legible) : v.sorted.Readable := by
  match v with
  | .null | .bool _ | .int _ | .float _ | .str _ => exact hv
  | .arr items => exact itemsReadable_sorted items hv
  | .obj fields =>
    refine ⟨Fields.ordered_ofList _, fieldsReadable_iff.mpr fun field hfield => ?_⟩
    exact fieldReadable_sorted fields hv field (Fields.mem_ofList hfield)

theorem itemsReadable_sorted (items : List Json) (hitems : ItemsLegible items) : ItemsReadable (sortedItems items) := by
  match items with
  | [] => trivial
  | item :: rest => exact ⟨readable_sorted item hitems.1, itemsReadable_sorted rest hitems.2⟩

theorem fieldReadable_sorted (fields : List (String × Json)) (hfields : FieldsLegible fields) :
    ∀ field ∈ sortedFields fields, field.2.Readable := by
  match fields with
  | [] => nofun
  | (_, value) :: rest =>
    exact List.forall_mem_cons.mpr ⟨readable_sorted value hfields.1, fieldReadable_sorted rest hfields.2⟩

end

mutual

theorem depth_sorted_le (v : Json) : v.sorted.depth ≤ v.depth := by
  match v with
  | .null | .bool _ | .int _ | .float _ | .str _ => exact Nat.le_refl _
  | .arr items => exact Nat.succ_le_succ (itemsDepth_sorted_le items)
  | .obj fields =>
    refine Nat.succ_le_succ (fieldsDepth_le_iff.mpr fun field hfield => ?_)
    exact fieldDepth_sorted_le fields field (Fields.mem_ofList hfield)

theorem itemsDepth_sorted_le (items : List Json) : itemsDepth (sortedItems items) ≤ itemsDepth items := by
  match items with
  | [] => exact Nat.le_refl _
  | item :: rest => exact Nat.max_le.mpr ⟨Nat.le_trans (depth_sorted_le item) (Nat.le_max_left ..),
      Nat.le_trans (itemsDepth_sorted_le rest) (Nat.le_max_right ..)⟩

theorem fieldDepth_sorted_le (fields : List (String × Json)) :
    ∀ field ∈ sortedFields fields, field.2.depth ≤ fieldsDepth fields := by
  match fields with
  | [] => nofun
  | (_, value) :: rest =>
    refine List.forall_mem_cons.mpr ⟨Nat.le_trans (depth_sorted_le value) (Nat.le_max_left ..), fun field hfield => ?_⟩
    exact Nat.le_trans (fieldDepth_sorted_le rest field hfield) (Nat.le_max_right ..)

end

/-! ### Blanks -/

/-- Characters that may stand between tokens. -/
def IsBlank (c : Char) : Prop :=
  c = ' ' ∨ c = '\n' ∨ c = '\t' ∨ c = '\r'

theorem skipBlanks_append {blanks : List Char} (h : ∀ c ∈ blanks, IsBlank c) (s : List Char) :
    skipBlanks (blanks ++ s) = skipBlanks s := by
  induction blanks with
  | nil => rfl
  | cons c blanks ih =>
    obtain ⟨hc, hblanks⟩ := List.forall_mem_cons.mp h
    rw [← ih hblanks]
    rcases hc with rfl | rfl | rfl | rfl <;> rfl

theorem isBlank_newline (n : Nat) : ∀ c ∈ newline n, IsBlank c := by
  intro c hc
  rcases List.mem_cons.mp hc with rfl | hc
  · exact .inr (.inl rfl)
  · exact .inl (List.eq_of_mem_replicate hc)

namespace Source
variable {fuel depth n : Nat} {rest blanks : List Char}

theorem readValue_append (h : ∀ c ∈ blanks, IsBlank c) (s : List Char) :
    readValue fuel depth (blanks ++ s) = readValue fuel depth s := by
  cases fuel with
  | zero => rfl
  | succ fuel => rw [readValue, readValue, skipBlanks_append h]

theorem readItems_append (h : ∀ c ∈ blanks, IsBlank c) (s : List Char) :
    readItems fuel depth (blanks ++ s) = readItems fuel depth s := by
  cases fuel with
  | zero => rfl
  | succ fuel => rw [readItems, readItems, readValue_append h]

theorem readFields_append (h : ∀ c ∈ blanks, IsBlank c) (s : List Char) :
    readFields fuel depth (blanks ++ s) = readFields fuel depth s := by
  cases fuel with
  | zero => rfl
  | succ fuel => rw [readFields, readFields, skipBlanks_append h]

theorem skipBlanks_opens {c : Char} (hc : Opens c) (cs : List Char) : skipBlanks (c :: cs) = c :: cs := by
  obtain ⟨h1, h2, h3, h4, -⟩ := hc
  simp [skipBlanks, h1, h2, h3, h4]

theorem renderIndented_opens (v : Json) (hv : v.Legible) (n : Nat) : ∃ c cs, v.renderIndented n = c :: cs ∧ Opens c := by
  match v with
  | .null | .bool true | .bool false | .str _ | .arr [] | .arr (_ :: _) | .obj [] | .obj ((_, _) :: _) =>
    exact ⟨_, _, rfl, by unfold Opens; decide⟩
  | .int i => exact render_opens (.int i) hv
  | .float x => exact render_opens (.float x) hv

theorem readValue_indentedArr {c : Char} {cs : List Char} {items : List Source} (hc : Opens c)
    (h : readItems fuel depth (c :: cs) = some (items, rest)) :
    readValue (fuel + 1) (depth + 1) ('[' :: (newline n ++ c :: cs)) = some (.arr items, rest) := by
  have blanks : skipBlanks (newline n ++ c :: cs) = c :: cs := by
    rw [skipBlanks_append (isBlank_newline n), skipBlanks_opens hc]
  simp [readValue, skipBlanks, blanks, hc.2.2.2.2, h]

theorem readValue_indentedObj {cs : List Char} {fields : List (List Char × Source)}
    (h : readFields fuel depth ('"' :: cs) = some (fields, rest)) :
    readValue (fuel + 1) (depth + 1) ('{' :: (newline n ++ '"' :: cs)) = some (.obj fields, rest) := by
  have blanks : skipBlanks (newline n ++ '"' :: cs) = '"' :: cs := skipBlanks_append (isBlank_newline n) _
  simp [readValue, skipBlanks, blanks, h]

theorem readItems_indentedLast {text : List Char} {item : Source}
    (h : readValue fuel depth text = some (item, newline n ++ ']' :: rest)) :
    readItems (fuel + 1) depth text = some ([item], rest) := by
  have blanks : skipBlanks (newline n ++ ']' :: rest) = ']' :: rest := skipBlanks_append (isBlank_newline n) _
  simp [readItems, h, blanks]

theorem readFields_indentedLast {name : String} {text : List Char} {value : Source}
    (h : readValue fuel depth text = some (value, newline n ++ '}' :: rest)) :
    readFields (fuel + 1) depth (renderText name ++ ':' :: text) = some ([(name.toList.flatMap escape, value)], rest) := by
  have blanks : skipBlanks (newline n ++ '}' :: rest) = '}' :: rest := skipBlanks_append (isBlank_newline n) _
  simp [readFields, renderText, skipBlanks, readWritten_flatMap, h, blanks]

theorem endsNumber_newline (n : Nat) (rest : List Char) : EndsNumber (newline n ++ rest) :=
  ⟨by decide, by decide, by decide, by decide⟩

end Source

/-! ### Reading what was written -/

open Source

/-- With `fuel` calls left, whatever is written within that many calls is read back. -/
structure ReadsIndented (fuel : Nat) : Prop where
  value : ∀ (v : Json) (n depth : Nat) (rest : List Char), v.Legible → 2 * (v.renderIndented n).length < fuel →
    v.depth ≤ depth → EndsNumber rest →
    ∃ source, readValue fuel depth (v.renderIndented n ++ rest) = some (source, rest) ∧ source.value? = some v.sorted
  items : ∀ (item : Json) (items : List Json) (n depth : Nat) (rest : List Char), ItemsLegible (item :: items) →
    2 * ((item.renderIndented (n + 1)).length + (indentedItems n items).length) + 1 < fuel →
    itemsDepth (item :: items) ≤ depth →
    ∃ sources, readItems fuel depth (item.renderIndented (n + 1) ++ (indentedItems n items ++ rest)) =
        some (sources, rest) ∧ itemValues? sources = some (sortedItems (item :: items))
  fields : ∀ (name : String) (v : Json) (fields : List (String × Json)) (n depth : Nat) (rest : List Char),
    FieldsLegible ((name, v) :: fields) →
    2 * ((renderText name).length + ((v.renderIndented (n + 1)).length + (indentedFields n fields).length)) + 1 < fuel →
    fieldsDepth ((name, v) :: fields) ≤ depth →
    ∃ sources, readFields fuel depth
        (renderText name ++ ':' :: ' ' :: (v.renderIndented (n + 1) ++ (indentedFields n fields ++ rest))) =
        some (sources, rest) ∧ fieldValues? sources = some (sortedFields ((name, v) :: fields))

namespace ReadsIndented
variable {fuel : Nat}

theorem value_step (ih : ReadsIndented fuel) (v : Json) (n depth : Nat) (rest : List Char) (hv : v.Legible)
    (hfuel : 2 * (v.renderIndented n).length < fuel + 1) (hdepth : v.depth ≤ depth) (hrest : EndsNumber rest) :
    ∃ source, readValue (fuel + 1) depth (v.renderIndented n ++ rest) = some (source, rest) ∧
      source.value? = some v.sorted := by
  match v with
  | .null | .bool _ | .int _ | .float _ | .str _ | .arr [] =>
    exact (readsBack (fuel + 1)).value _ depth rest hv hfuel hdepth hrest
  | .obj [] => exact (readsBack (fuel + 1)).value _ depth rest ⟨.nil, trivial⟩ hfuel hdepth hrest
  | .arr (item :: items) =>
    obtain ⟨depth, rfl⟩ := Nat.exists_eq_add_one_of_ne_zero (Nat.ne_of_gt (Nat.zero_lt_of_lt hdepth))
    simp only [renderIndented, List.length_cons, List.length_append] at hfuel
    obtain ⟨sources, hread, hvalues⟩ :=
      ih.items item items n depth rest hv (by omega) (Nat.le_of_succ_le_succ hdepth)
    obtain ⟨c, cs, hitem, hc⟩ := renderIndented_opens item hv.1 (n + 1)
    refine ⟨.arr sources, ?_, by rw [value?, hvalues, Option.map_some, sorted]⟩
    rw [hitem, List.cons_append] at hread
    simpa [renderIndented, hitem] using readValue_indentedArr (n := n + 1) hc hread
  | .obj ((name, value) :: fields) =>
    obtain ⟨depth, rfl⟩ := Nat.exists_eq_add_one_of_ne_zero (Nat.ne_of_gt (Nat.zero_lt_of_lt hdepth))
    simp only [renderIndented, List.length_cons, List.length_append] at hfuel
    obtain ⟨sources, hread, hvalues⟩ :=
      ih.fields name value fields n depth rest hv (by omega) (Nat.le_of_succ_le_succ hdepth)
    refine ⟨.obj sources, ?_, by rw [value?, hvalues, Option.map_some, sorted]⟩
    simpa [renderIndented, renderText] using readValue_indentedObj (n := n + 1) hread

theorem items_step (ih : ReadsIndented fuel) (item : Json) (items : List Json) (n depth : Nat) (rest : List Char)
    (hitems : ItemsLegible (item :: items))
    (hfuel : 2 * ((item.renderIndented (n + 1)).length + (indentedItems n items).length) + 1 < fuel + 1)
    (hdepth : itemsDepth (item :: items) ≤ depth) :
    ∃ sources, readItems (fuel + 1) depth (item.renderIndented (n + 1) ++ (indentedItems n items ++ rest)) =
        some (sources, rest) ∧ itemValues? sources = some (sortedItems (item :: items)) := by
  obtain ⟨hitem, hrest⟩ := hitems
  obtain ⟨hitem_depth, hitems_depth⟩ := Nat.max_le.mp hdepth
  match items with
  | [] =>
    obtain ⟨source, hread, hvalue⟩ := ih.value item (n + 1) depth (newline n ++ ']' :: rest) hitem (by omega) hitem_depth
      (endsNumber_newline ..)
    refine ⟨[source], ?_, by rw [itemValues?, hvalue]; rfl⟩
    rw [indentedItems, List.append_assoc]
    exact readItems_indentedLast hread
  | next :: items =>
    obtain ⟨source, hread, hvalue⟩ := ih.value item (n + 1) depth (indentedItems n (next :: items) ++ rest) hitem
      (by omega) hitem_depth ⟨by decide, by decide, by decide, by decide⟩
    simp only [indentedItems, List.length_cons, List.length_append] at hfuel
    obtain ⟨sources, hmore, hvalues⟩ := ih.items next items n depth rest hrest (by omega) hitems_depth
    refine ⟨source :: sources, ?_, by rw [itemValues?, hvalue, hvalues]; rfl⟩
    refine readItems_more hread ?_
    simpa [readItems_append (isBlank_newline _)] using hmore

theorem fields_step (ih : ReadsIndented fuel) (name : String) (v : Json) (fields : List (String × Json)) (n depth : Nat)
    (rest : List Char) (hfields : FieldsLegible ((name, v) :: fields))
    (hfuel : 2 * ((renderText name).length + ((v.renderIndented (n + 1)).length + (indentedFields n fields).length)) + 1 <
      fuel + 1)
    (hdepth : fieldsDepth ((name, v) :: fields) ≤ depth) :
    ∃ sources, readFields (fuel + 1) depth
        (renderText name ++ ':' :: ' ' :: (v.renderIndented (n + 1) ++ (indentedFields n fields ++ rest))) =
        some (sources, rest) ∧ fieldValues? sources = some (sortedFields ((name, v) :: fields)) := by
  obtain ⟨hv, hrest⟩ := hfields
  obtain ⟨hv_depth, hfields_depth⟩ := Nat.max_le.mp hdepth
  have blank : ∀ c ∈ [' '], IsBlank c := fun c hc => .inl (List.mem_singleton.mp hc)
  match fields with
  | [] =>
    obtain ⟨source, hread, hvalue⟩ := ih.value v (n + 1) depth (newline n ++ '}' :: rest) hv (by omega) hv_depth
      (endsNumber_newline ..)
    refine ⟨[(name.toList.flatMap escape, source)], ?_, by rw [fieldValues?, hvalue, textOf?_flatMap]; rfl⟩
    rw [indentedFields, List.append_assoc]
    exact readFields_indentedLast ((readValue_append blank _).trans hread)
  | (other, next) :: fields =>
    obtain ⟨source, hread, hvalue⟩ := ih.value v (n + 1) depth (indentedFields n ((other, next) :: fields) ++ rest) hv
      (by omega) hv_depth ⟨by decide, by decide, by decide, by decide⟩
    simp only [indentedFields, List.length_cons, List.length_append] at hfuel
    obtain ⟨sources, hmore, hvalues⟩ := ih.fields other next fields n depth rest hrest (by omega) hfields_depth
    refine ⟨(name.toList.flatMap escape, source) :: sources, ?_,
      by rw [fieldValues?, hvalue, textOf?_flatMap, hvalues]; rfl⟩
    refine readFields_more ((readValue_append blank _).trans hread) ?_
    simpa [readFields_append (isBlank_newline _)] using hmore

end ReadsIndented

end IdentityServer.Json
