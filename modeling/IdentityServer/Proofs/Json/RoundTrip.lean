import IdentityServer.Json.Canonical
import IdentityServer.Json.Parser
import IdentityServer.Proofs.Json.Number
import IdentityServer.Proofs.Json.Text

/-! # Canonical texts are read back

The canonical text of a value is JSON and denotes that value, if its numbers are written so that they are
read back and its brackets are not too deep. The induction is on the calls that are left to the reader, of
which twice the length of the text is enough; what follows the text is whatever does not continue a number. -/

namespace IdentityServer

namespace Fields
variable {α : Type}

theorem insert_last {key : String} {value : α} {fields : Fields α} (h : ∀ field ∈ fields, field.1 < key) :
    insert key value fields = fields ++ [(key, value)] := by
  induction fields with
  | nil => rfl
  | cons head rest ih =>
    obtain ⟨k, v⟩ := head
    have hk : k < key := h (k, v) List.mem_cons_self
    rw [insert, if_neg (String.ne_of_lt hk), if_neg (String.lt_asymm hk), ih fun field hf => h field (List.mem_cons_of_mem _ hf)]
    rfl

theorem mem_ofList {pairs : List (String × α)} {field : String × α} (h : field ∈ ofList pairs) : field ∈ pairs := by
  suffices ∀ front : Fields α, field ∈ pairs.foldl (fun fields pair => insert pair.1 pair.2 fields) front →
      field ∈ front ∨ field ∈ pairs from (this [] h).resolve_left List.not_mem_nil
  clear h
  induction pairs with
  | nil => exact fun _ hf => .inl hf
  | cons pair rest ih =>
    intro front hf
    rcases ih _ hf with hf | hf
    · rcases mem_insert hf with rfl | hf
      · exact .inr List.mem_cons_self
      · exact .inl hf
    · exact .inr (List.mem_cons_of_mem _ hf)

theorem ordered_of_keys {fields : Fields α} (keys : List String) (ascending : keys.Pairwise (· < ·))
    (h : fields.map (·.1) = keys) : fields.Ordered :=
  List.pairwise_map.mp (h ▸ ascending)

/-- Ordered fields are those that they give. -/
theorem ofList_ordered {fields : Fields α} (h : fields.Ordered) : ofList fields = fields := by
  suffices ∀ front : Fields α, (front ++ fields).Ordered →
      fields.foldl (fun fields pair => insert pair.1 pair.2 fields) front = front ++ fields from this [] h
  induction fields with
  | nil => intro front _; exact (List.append_nil front).symm
  | cons head rest ih =>
    intro front hfront
    have before : ∀ field ∈ front, field.1 < head.1 := fun field hf =>
      (List.pairwise_append.mp hfront).2.2 field hf head List.mem_cons_self
    rw [List.foldl_cons, insert_last before, ih (List.pairwise_cons.mp h).2 _ (by rwa [List.append_cons] at hfront),
      ← List.append_cons]

end Fields

namespace Json

mutual

/-- Numbers that are written so that they are read back, and ordered fields, at every depth. -/
def Readable : Json → Prop
  | .int n => fitsWord n
  | .float x => WritesNumber (floatLayout.text x) (.float x)
  | .arr items => ItemsReadable items
  | .obj fields => Fields.Ordered fields ∧ FieldsReadable fields
  | _ => True

/-- Every item is readable. -/
def ItemsReadable : List Json → Prop
  | [] => True
  | item :: rest => item.Readable ∧ ItemsReadable rest

/-- The value of every field is readable. -/
def FieldsReadable : List (String × Json) → Prop
  | [] => True
  | (_, value) :: rest => value.Readable ∧ FieldsReadable rest

end

mutual

/-- The greatest number of brackets inside one another. -/
def depth : Json → Nat
  | .arr items => itemsDepth items + 1
  | .obj fields => fieldsDepth fields + 1
  | _ => 0

/-- The greatest depth of items. -/
def itemsDepth : List Json → Nat
  | [] => 0
  | item :: rest => max item.depth (itemsDepth rest)

/-- The greatest depth of the values of fields. -/
def fieldsDepth : List (String × Json) → Nat
  | [] => 0
  | (_, value) :: rest => max value.depth (fieldsDepth rest)

end

theorem fieldsReadable_iff {fields : Fields Json} : FieldsReadable fields ↔ ∀ field ∈ fields, field.2.Readable := by
  induction fields with
  | nil => simp [FieldsReadable]
  | cons head rest ih => rw [FieldsReadable, ih, List.forall_mem_cons]

theorem fieldsDepth_le_iff {fields : Fields Json} {n : Nat} :
    fieldsDepth fields ≤ n ↔ ∀ field ∈ fields, field.2.depth ≤ n := by
  induction fields with
  | nil => simp [fieldsDepth]
  | cons head rest ih => rw [fieldsDepth, Nat.max_le, ih, List.forall_mem_cons]

namespace Source
variable {fuel depth : Nat} {rest : List Char}

/-- A number starts with a character that nothing else starts with. -/
theorem readValue_number {c : Char} (hc : c = '-' ∨ c.isDigit = true) :
    readValue (fuel + 1) depth (c :: rest) = (literal? (c :: rest)).map fun p => (.number p.1, p.2) := by
  have other : ∀ d : Char, d ≠ '-' → d.isDigit = false → c ≠ d := fun d hminus hdigit =>
    hc.elim (fun h => h ▸ hminus.symm) fun h => Text.ne_of_isDigit h hdigit
  have blanks : skipBlanks (c :: rest) = c :: rest := by
    simp [skipBlanks, other ' ', other '\n', other '\t', other '\r']
  simp [readValue, blanks, other 'n', other 't', other 'f', other '"', other '[', other '{']

theorem readsNumber {text : List Char} {v : Json} (h : WritesNumber text v) (hrest : EndsNumber rest) :
    ∃ source, readValue (fuel + 1) depth (text ++ rest) = some (source, rest) ∧ source.value? = some v := by
  obtain ⟨l, hread, hvalue⟩ := h.reads rest hrest
  obtain ⟨c, cs, rfl, hc⟩ := h.starts
  refine ⟨.number l, ?_, hvalue⟩
  rw [List.cons_append] at hread ⊢
  rw [readValue_number hc, hread]
  rfl

theorem readValue_text (s : List Char) :
    readValue (fuel + 1) depth ('"' :: (s.flatMap escape ++ '"' :: rest)) = some (.text (s.flatMap escape), rest) := by
  simp [readValue, skipBlanks, readWritten_flatMap]

/-- A character with which a value can start. -/
def Opens (c : Char) : Prop :=
  c ≠ ' ' ∧ c ≠ '\n' ∧ c ≠ '\t' ∧ c ≠ '\r' ∧ c ≠ ']'

theorem opens_of_number {c : Char} (hc : c = '-' ∨ c.isDigit = true) : Opens c := by
  rcases hc with rfl | hc
  · exact ⟨by decide, by decide, by decide, by decide, by decide⟩
  · refine ⟨?_, ?_, ?_, ?_, ?_⟩ <;> exact Text.ne_of_isDigit hc (by decide)

theorem render_opens (v : Json) (hv : v.Readable) : ∃ c cs, v.render = c :: cs ∧ Opens c := by
  match v with
  | .null | .bool true | .bool false | .str _ | .arr [] | .arr (_ :: _) | .obj [] | .obj ((_, _) :: _) =>
    exact ⟨_, _, rfl, by unfold Opens; decide⟩
  | .int n =>
    obtain ⟨c, cs, htext, hc⟩ := (writesNumber_showInt hv).starts
    exact ⟨c, cs, htext, opens_of_number hc⟩
  | .float x =>
    obtain ⟨c, cs, htext, hc⟩ := WritesNumber.starts hv
    exact ⟨c, cs, htext, opens_of_number hc⟩

theorem readValue_arr {c : Char} {cs : List Char} {items : List Source} (hc : Opens c)
    (h : readItems fuel depth (c :: cs) = some (items, rest)) :
    readValue (fuel + 1) (depth + 1) ('[' :: c :: cs) = some (.arr items, rest) := by
  obtain ⟨h1, h2, h3, h4, h5⟩ := hc
  simp [readValue, skipBlanks, h1, h2, h3, h4, h5, h]

theorem readValue_obj {cs : List Char} {fields : List (List Char × Source)}
    (h : readFields fuel depth ('"' :: cs) = some (fields, rest)) :
    readValue (fuel + 1) (depth + 1) ('{' :: '"' :: cs) = some (.obj fields, rest) := by
  simp [readValue, skipBlanks, h]

theorem readItems_last {text : List Char} {item : Source} (h : readValue fuel depth text = some (item, ']' :: rest)) :
    readItems (fuel + 1) depth text = some ([item], rest) := by
  simp [readItems, h, skipBlanks]

theorem readItems_more {text more : List Char} {item : Source} {items : List Source}
    (h : readValue fuel depth text = some (item, ',' :: more)) (hmore : readItems fuel depth more = some (items, rest)) :
    readItems (fuel + 1) depth text = some (item :: items, rest) := by
  simp [readItems, h, hmore, skipBlanks]

theorem readFields_last {name : String} {text : List Char} {value : Source}
    (h : readValue fuel depth text = some (value, '}' :: rest)) :
    readFields (fuel + 1) depth (renderText name ++ ':' :: text) = some ([(name.toList.flatMap escape, value)], rest) := by
  simp [readFields, renderText, skipBlanks, readWritten_flatMap, h]

theorem readFields_more {name : String} {text more : List Char} {value : Source} {fields : List (List Char × Source)}
    (h : readValue fuel depth text = some (value, ',' :: more)) (hmore : readFields fuel depth more = some (fields, rest)) :
    readFields (fuel + 1) depth (renderText name ++ ':' :: text) =
      some ((name.toList.flatMap escape, value) :: fields, rest) := by
  simp [readFields, renderText, skipBlanks, readWritten_flatMap, h, hmore]

end Source

/-! ### Reading what was written -/

open Source

/-- With `fuel` calls left, whatever is written within that many calls is read back. -/
structure ReadsBack (fuel : Nat) : Prop where
  value : ∀ (v : Json) (depth : Nat) (rest : List Char), v.Readable → 2 * v.render.length < fuel → v.depth ≤ depth →
    EndsNumber rest →
    ∃ source, readValue fuel depth (v.render ++ rest) = some (source, rest) ∧ source.value? = some v
  items : ∀ (item : Json) (items : List Json) (depth : Nat) (rest : List Char), ItemsReadable (item :: items) →
    2 * (item.render.length + (renderItems items).length) + 1 < fuel → itemsDepth (item :: items) ≤ depth →
    ∃ sources, readItems fuel depth (item.render ++ renderItems items ++ rest) = some (sources, rest) ∧
      itemValues? sources = some (item :: items)
  fields : ∀ (name : String) (v : Json) (fields : List (String × Json)) (depth : Nat) (rest : List Char),
    FieldsReadable ((name, v) :: fields) →
    2 * ((renderText name).length + (v.render.length + (renderFields fields).length)) + 1 < fuel →
    fieldsDepth ((name, v) :: fields) ≤ depth →
    ∃ sources, readFields fuel depth (renderText name ++ ':' :: (v.render ++ renderFields fields) ++ rest) =
        some (sources, rest) ∧ fieldValues? sources = some ((name, v) :: fields)

namespace ReadsBack
variable {fuel : Nat}

theorem value_step (ih : ReadsBack fuel) (v : Json) (depth : Nat) (rest : List Char) (hv : v.Readable)
    (hfuel : 2 * v.render.length < fuel + 1) (hdepth : v.depth ≤ depth) (hrest : EndsNumber rest) :
    ∃ source, readValue (fuel + 1) depth (v.render ++ rest) = some (source, rest) ∧ source.value? = some v := by
  match v with
  | .null => exact ⟨.null, by simp [render, readValue, skipBlanks], rfl⟩
  | .bool true => exact ⟨.bool true, by simp [render, readValue, skipBlanks], rfl⟩
  | .bool false => exact ⟨.bool false, by simp [render, readValue, skipBlanks], rfl⟩
  | .int n => exact readsNumber (writesNumber_showInt hv) hrest
  | .float x => exact readsNumber hv hrest
  | .str s =>
    refine ⟨.text (s.toList.flatMap escape), ?_, ?_⟩
    · rw [render, renderText, List.cons_append, List.append_assoc]
      exact readValue_text s.toList
    · rw [value?, textOf?_flatMap, Option.map_some]
  | .arr [] =>
    obtain ⟨depth, rfl⟩ := Nat.exists_eq_add_one_of_ne_zero (Nat.ne_of_gt hdepth)
    exact ⟨.arr [], by simp [render, readValue, skipBlanks], rfl⟩
  | .arr (item :: items) =>
    obtain ⟨depth, rfl⟩ := Nat.exists_eq_add_one_of_ne_zero (Nat.ne_of_gt (Nat.zero_lt_of_lt hdepth))
    rw [render, List.length_cons, List.length_append] at hfuel
    obtain ⟨sources, hread, hvalues⟩ :=
      ih.items item items depth rest hv (by omega) (Nat.le_of_succ_le_succ hdepth)
    obtain ⟨c, cs, hitem, hc⟩ := render_opens item hv.1
    refine ⟨.arr sources, ?_, by rw [value?, hvalues, Option.map_some]⟩
    rw [render, List.cons_append]
    rw [hitem, List.cons_append, List.cons_append] at hread ⊢
    exact readValue_arr hc hread
  | .obj [] =>
    obtain ⟨depth, rfl⟩ := Nat.exists_eq_add_one_of_ne_zero (Nat.ne_of_gt hdepth)
    exact ⟨.obj [], by simp [render, readValue, skipBlanks], rfl⟩
  | .obj ((name, value) :: fields) =>
    obtain ⟨depth, rfl⟩ := Nat.exists_eq_add_one_of_ne_zero (Nat.ne_of_gt (Nat.zero_lt_of_lt hdepth))
    rw [render, List.length_cons, List.length_append, List.length_cons, List.length_append] at hfuel
    obtain ⟨sources, hread, hvalues⟩ :=
      ih.fields name value fields depth rest hv.2 (by omega) (Nat.le_of_succ_le_succ hdepth)
    refine ⟨.obj sources, ?_, by rw [value?, hvalues, Option.map_some, ofFields, Fields.ofList_ordered hv.1]⟩
    rw [render, List.cons_append]
    exact readValue_obj hread

theorem items_step (ih : ReadsBack fuel) (item : Json) (items : List Json) (depth : Nat) (rest : List Char)
    (hitems : ItemsReadable (item :: items))
    (hfuel : 2 * (item.render.length + (renderItems items).length) + 1 < fuel + 1)
    (hdepth : itemsDepth (item :: items) ≤ depth) :
    ∃ sources, readItems (fuel + 1) depth (item.render ++ renderItems items ++ rest) = some (sources, rest) ∧
      itemValues? sources = some (item :: items) := by
  obtain ⟨hitem, hrest⟩ := hitems
  obtain ⟨hitem_depth, hitems_depth⟩ := Nat.max_le.mp hdepth
  match items with
  | [] =>
    obtain ⟨source, hread, hvalue⟩ := ih.value item depth (']' :: rest) hitem (by omega) hitem_depth
      ⟨by decide, by decide, by decide, by decide⟩
    refine ⟨[source], ?_, by rw [itemValues?, hvalue]; rfl⟩
    rw [renderItems, List.append_assoc]
    exact readItems_last hread
  | next :: items =>
    obtain ⟨source, hread, hvalue⟩ := ih.value item depth (',' :: (next.render ++ renderItems items ++ rest)) hitem
      (by omega) hitem_depth ⟨by decide, by decide, by decide, by decide⟩
    rw [renderItems, List.length_cons, List.length_append] at hfuel
    obtain ⟨sources, hmore, hvalues⟩ := ih.items next items depth rest hrest (by omega) hitems_depth
    refine ⟨source :: sources, ?_, by rw [itemValues?, hvalue, hvalues]; rfl⟩
    rw [renderItems, List.append_assoc]
    exact readItems_more hread hmore

theorem fields_step (ih : ReadsBack fuel) (name : String) (v : Json) (fields : List (String × Json)) (depth : Nat)
    (rest : List Char) (hfields : FieldsReadable ((name, v) :: fields))
    (hfuel : 2 * ((renderText name).length + (v.render.length + (renderFields fields).length)) + 1 < fuel + 1)
    (hdepth : fieldsDepth ((name, v) :: fields) ≤ depth) :
    ∃ sources, readFields (fuel + 1) depth (renderText name ++ ':' :: (v.render ++ renderFields fields) ++ rest) =
        some (sources, rest) ∧ fieldValues? sources = some ((name, v) :: fields) := by
  obtain ⟨hv, hrest⟩ := hfields
  obtain ⟨hv_depth, hfields_depth⟩ := Nat.max_le.mp hdepth
  match fields with
  | [] =>
    obtain ⟨source, hread, hvalue⟩ := ih.value v depth ('}' :: rest) hv (by omega) hv_depth
      ⟨by decide, by decide, by decide, by decide⟩
    refine ⟨[(name.toList.flatMap escape, source)], ?_, by rw [fieldValues?, hvalue, textOf?_flatMap]; rfl⟩
    rw [renderFields, List.append_assoc, List.cons_append, List.append_assoc]
    exact readFields_last hread
  | (other, next) :: fields =>
    obtain ⟨source, hread, hvalue⟩ := ih.value v depth
      (',' :: (renderText other ++ ':' :: (next.render ++ renderFields fields) ++ rest)) hv (by omega) hv_depth
      ⟨by decide, by decide, by decide, by decide⟩
    rw [renderFields, List.length_cons, List.length_append, List.length_cons, List.length_append] at hfuel
    obtain ⟨sources, hmore, hvalues⟩ := ih.fields other next fields depth rest hrest (by omega) hfields_depth
    refine ⟨(name.toList.flatMap escape, source) :: sources, ?_,
      by rw [fieldValues?, hvalue, textOf?_flatMap, hvalues]; rfl⟩
    rw [renderFields, List.append_assoc, List.cons_append, List.append_assoc]
    exact readFields_more hread hmore

end ReadsBack

theorem readsBack (fuel : Nat) : ReadsBack fuel := by
  induction fuel with
  | zero =>
    exact ⟨fun _ _ _ _ hfuel => absurd hfuel (Nat.not_lt_zero _),
      fun _ _ _ _ _ hfuel => absurd hfuel (Nat.not_lt_zero _),
      fun _ _ _ _ _ _ hfuel => absurd hfuel (Nat.not_lt_zero _)⟩
  | succ fuel ih => exact ⟨ih.value_step, ih.items_step, ih.fields_step⟩

/-- The canonical text of a value is read back as that value. -/
theorem parse_canonical {v : Json} (hv : v.Readable) (hdepth : v.depth ≤ depthLimit) : parse v.canonical = some v := by
  obtain ⟨source, hread, hvalue⟩ :=
    (readsBack (2 * v.render.length + 2)).value v depthLimit [] hv (by omega) hdepth trivial
  rw [List.append_nil] at hread
  rw [parse, Source.read, canonical, String.toList_ofList, hread]
  exact hvalue

end Json

end IdentityServer
