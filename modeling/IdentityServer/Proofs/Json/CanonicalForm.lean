import IdentityServer.Proofs.Dictionary
import IdentityServer.Proofs.Json.Reading
import IdentityServer.Proofs.Json.Unambiguous

/-! # The canonical form of what is read

Canonical texts are read back as what they were written from, and two texts that are read have the same canonical
text exactly if they denote the same value, where objects are maps from names to values and doubles are their bits.
Both rest on doubles that their shortest digits denote. The reader rounds twice, so not every double is such a one. -/

namespace IdentityServer

namespace Json

variable {v w : Json} {x y : Binary64}

/-! ### Doubles that are read back -/

def float? : Json → Option Binary64
  | .float x => some x
  | _ => none

theorem bind_float?_eq_some {v? : Option Json} : v?.bind float? = some x ↔ v? = some (.float x) := by
  constructor
  · intro h
    obtain ⟨v, rfl, hx⟩ := Option.bind_eq_some_iff.mp h
    cases v <;> cases hx
    rfl
  · rintro rfl
    rfl

/-- The shortest digits of the double are read as the double. -/
def Rereads (x : Binary64) : Prop :=
  parse (Json.float x).canonical = some (.float x)

instance (x : Binary64) : Decidable (Rereads x) :=
  decidable_of_iff ((parse (Json.float x).canonical).bind float? = some x) bind_float?_eq_some

/-- The shortest digits of a finite double, 5.2789882267533364e+20, are read as the double below it. -/
theorem exists_misread : ∃ x y : Binary64, x.isFinite = true ∧ x ≠ y ∧ parse (Json.float x).canonical = some (.float y) :=
  ⟨⟨0x443c9e115e4b9e30⟩, ⟨0x443c9e115e4b9e2f⟩, by decide +kernel, by decide, bind_float?_eq_some.mp (by decide +kernel)⟩

namespace Source

theorem skipBlanks_numeric {s : List Char} (h : ∀ c ∈ s, numeric c = true) : skipBlanks s = s := by
  cases s with
  | nil => rfl
  | cons c rest =>
    have other : ∀ d : Char, numeric d = false → c ≠ d := by
      rintro d hd rfl
      exact absurd (h c List.mem_cons_self) (by simp [hd])
    simp [skipBlanks, other ' ' (by decide), other '\n' (by decide), other '\t' (by decide), other '\r' (by decide)]

/-- What starts with a character of numbers is read as a literal. -/
theorem readValue_numeric {fuel depth : Nat} {c : Char} {s : List Char} (h : ∀ d ∈ c :: s, numeric d = true) :
    readValue (fuel + 1) depth (c :: s) = (literal? (c :: s)).map fun p => (.number p.1, p.2) := by
  have other : ∀ d : Char, numeric d = false → c ≠ d := by
    rintro d hd rfl
    exact absurd (h c List.mem_cons_self) (by simp [hd])
  rw [readValue, skipBlanks_numeric h]
  simp [other 'n' (by decide), other 't' (by decide), other 'f' (by decide), other '"' (by decide),
    other '[' (by decide), other '{' (by decide)]

end Source

open Source

namespace Rereads

theorem isFinite (h : Rereads x) : x.isFinite = true :=
  (wellFormed_parse h).1

theorem writesNumber (h : Rereads x) : WritesNumber (floatLayout.text x) (.float x) := by
  have number := (isFloatText_text h.isFinite).toIsNumberText
  obtain ⟨c, cs, htext⟩ := List.exists_cons_of_ne_nil number.ne_nil
  obtain ⟨source, hread, hvalue⟩ := Option.bind_eq_some_iff.mp h
  obtain ⟨⟨source', after⟩, hwhole, hend⟩ := Option.bind_eq_some_iff.mp hread
  obtain ⟨hafter, rfl⟩ : skipBlanks after = [] ∧ source' = source := by simpa using hend
  rw [canonical, String.toList_ofList, render, htext, readValue_numeric (htext ▸ number.numeric_of_mem)] at hwhole
  obtain ⟨⟨l, rest⟩, hliteral, hnumber⟩ := Option.map_eq_some_iff.mp hwhole
  cases hnumber
  -- What the literal leaves of the text is numeric like the text, so there are no blanks that it could consist of.
  have numericRest : ∀ d ∈ rest, numeric d = true := fun d hd =>
    number.numeric_of_mem d (htext ▸ (literal?_suffix hliteral).subset hd)
  rw [skipBlanks_numeric numericRest] at hafter
  subst hafter
  rw [← htext] at hliteral
  exact ⟨literal?_starts hliteral, fun rest hrest => ⟨l, literal?_append hrest hliteral, hvalue⟩⟩

theorem eq_of_text (hx : Rereads x) (hy : Rereads y) (h : floatLayout.text x = floatLayout.text y) : x = y := by
  have same : (Json.float x).canonical = (Json.float y).canonical := congrArg String.ofList h
  exact Json.float.inj (Option.some.inj (hx.symm.trans ((congrArg parse same).trans hy)))

end Rereads

theorem writtenApart {xs ys : List Binary64} (hx : ∀ x ∈ xs, Rereads x) (hy : ∀ y ∈ ys, Rereads y) :
    WrittenApart xs ys :=
  ⟨fun x hx' => (hx x hx').isFinite, fun y hy' => (hy y hy').isFinite,
    fun x hx' y hy' => (hx x hx').eq_of_text (hy y hy')⟩

mutual

theorem readable_of_rereads (v : Json) (hv : v.WellFormed) (h : ∀ x ∈ v.floats, Rereads x) : v.Readable := by
  match v with
  | .null | .bool _ | .str _ => trivial
  | .int n => exact hv
  | .float x => exact (h x List.mem_cons_self).writesNumber
  | .arr items => exact itemsReadable_of_rereads items hv h
  | .obj fields => exact ⟨hv.1, fieldsReadable_of_rereads fields hv.2 h⟩

theorem itemsReadable_of_rereads (items : List Json) (hitems : ItemsWellFormed items)
    (h : ∀ x ∈ itemsFloats items, Rereads x) : ItemsReadable items := by
  match items with
  | [] => trivial
  | item :: rest =>
    obtain ⟨first, others⟩ := List.forall_mem_append.mp h
    exact ⟨readable_of_rereads item hitems.1 first, itemsReadable_of_rereads rest hitems.2 others⟩

theorem fieldsReadable_of_rereads (fields : List (String × Json)) (hfields : FieldsWellFormed fields)
    (h : ∀ x ∈ fieldsFloats fields, Rereads x) : FieldsReadable fields := by
  match fields with
  | [] => trivial
  | (_, value) :: rest =>
    obtain ⟨first, others⟩ := List.forall_mem_append.mp h
    exact ⟨readable_of_rereads value hfields.1 first, fieldsReadable_of_rereads rest hfields.2 others⟩

end

/-! ### Equality of values -/

/-- Values that are equal as JSON: of the same kind, doubles by their bits, arrays item by item, objects name by
    name. -/
inductive Same : Json → Json → Prop
  | null : Same .null .null
  | bool (b : Bool) : Same (.bool b) (.bool b)
  | int (n : Int) : Same (.int n) (.int n)
  | float {x y : Binary64} (bits : x.bits = y.bits) : Same (.float x) (.float y)
  | str (s : String) : Same (.str s) (.str s)
  | arr {items others : List Json} (length : items.length = others.length)
      (each : ∀ (i : Nat) (item other : Json), items[i]? = some item → others[i]? = some other → Same item other) :
      Same (.arr items) (.arr others)
  | obj {fields others : Fields Json}
      (names : ∀ name, (fields.get? name).isSome = (others.get? name).isSome)
      (each : ∀ (name : String) (value other : Json), fields.get? name = some value → others.get? name = some other →
        Same value other) :
      Same (.obj fields) (.obj others)

namespace Same

mutual

theorem refl (v : Json) : Same v v := by
  match v with
  | .null => exact null
  | .bool b => exact bool b
  | .int n => exact int n
  | .float x => exact float rfl
  | .str s => exact str s
  | .arr items =>
    refine arr rfl fun i item other hitem hother => ?_
    cases hitem.symm.trans hother
    exact refl_items items item (List.mem_of_getElem? hitem)
  | .obj fields =>
    refine obj (fun _ => rfl) fun name value other hvalue hother => ?_
    cases hvalue.symm.trans hother
    exact refl_fields fields (name, value) (Fields.mem_of_get? hvalue)

theorem refl_items (items : List Json) : ∀ item ∈ items, Same item item := by
  match items with
  | [] => exact nofun
  | first :: rest => exact List.forall_mem_cons.mpr ⟨refl first, refl_items rest⟩

theorem refl_fields (fields : List (String × Json)) : ∀ field ∈ fields, Same field.2 field.2 := by
  match fields with
  | [] => exact nofun
  | (_, value) :: rest => exact List.forall_mem_cons.mpr ⟨refl value, refl_fields rest⟩

end

/-- Well-formed values that are equal as JSON are written as the same list of fields at every depth. -/
theorem eq (h : Same v w) (hv : v.WellFormed) (hw : w.WellFormed) : v = w := by
  induction h with
  | null | bool | int | str => rfl
  | float bits => exact congrArg (Json.float ⟨·⟩) bits
  | @arr items others length each ih =>
    refine congrArg Json.arr (List.ext_getElem length fun i hi hi' => ?_)
    exact ih i _ _ (List.getElem?_eq_getElem hi) (List.getElem?_eq_getElem hi')
      (itemsWellFormed_iff.mp hv _ (List.getElem_mem hi)) (itemsWellFormed_iff.mp hw _ (List.getElem_mem hi'))
  | @obj fields others names each ih =>
    refine congrArg Json.obj (Fields.eq_of_get? hv.1 hw.1 fun name => ?_)
    have present := names name
    cases hvalue : fields.get? name with
    | none =>
      rw [hvalue] at present
      exact (Option.isSome_eq_false_iff.mp present.symm |> Option.isNone_iff_eq_none.mp).symm
    | some value =>
      rw [hvalue] at present
      obtain ⟨other, hother⟩ := Option.isSome_iff_exists.mp present.symm
      rw [hother, ih name value other hvalue hother (fieldsWellFormed_iff.mp hv.2 _ (Fields.mem_of_get? hvalue))
        (fieldsWellFormed_iff.mp hw.2 _ (Fields.mem_of_get? hother))]

end Same

/-- Values have the same canonical text exactly if they are equal. -/
theorem canonical_eq_iff (hv : v.WellFormed) (hw : w.WellFormed) (hvx : ∀ x ∈ v.floats, Rereads x)
    (hwx : ∀ x ∈ w.floats, Rereads x) : v.canonical = w.canonical ↔ Same v w := by
  constructor
  · intro h
    rw [canonical_inj (writtenApart hvx hwx) h]
    exact .refl w
  · intro h
    rw [h.eq hv hw]

/-- What a text denotes is read again from its canonical text, so that this text is its own canonical text, and
    the canonical texts of what two texts denote are equal exactly if the values are. -/
theorem canonical_of_parse {t u : String} (ht : parse t = some v) (hu : parse u = some w)
    (hvx : ∀ x ∈ v.floats, Rereads x) (hwx : ∀ x ∈ w.floats, Rereads x) :
    parse v.canonical = some v ∧ (parse v.canonical).map canonical = some v.canonical ∧
      (v.canonical = w.canonical ↔ Same v w) := by
  obtain ⟨hv, hdepth⟩ := wellFormed_parse ht
  obtain ⟨hw, -⟩ := wellFormed_parse hu
  have reread : parse v.canonical = some v := parse_canonical (readable_of_rereads v hv hvx) hdepth
  exact ⟨reread, by rw [reread, Option.map_some], canonical_eq_iff hv hw hvx hwx⟩

/-- Blanks, other escapes, another order and a field that is overridden leave the canonical text as it is. -/
theorem canonical_of_parse_spellings :
    let t := "\x7b\"b\": [1, 1.0, -0.0, \"1\"], \"\\u0061\": null, \"c\": \"\\ud83d\\ude00\", \"a\": \"\\/\\u000a\"\x7d"
    let u := "\x7b\"a\":\"/\\n\",\"c\":\"😀\",\"b\":[1,10e-1,-0e0,\"1\"]\x7d"
    ∃ v w, parse t = some v ∧ parse u = some w ∧ (∀ x ∈ v.floats, Rereads x) ∧ (∀ x ∈ w.floats, Rereads x) ∧
      parse v.canonical = some v ∧ v.canonical = w.canonical ∧ Same v w := by
  intro t u
  obtain ⟨v, hv⟩ := Option.isSome_iff_exists.mp (show (parse t).isSome = true by decide +kernel)
  obtain ⟨w, hw⟩ := Option.isSome_iff_exists.mp (show (parse u).isSome = true by decide +kernel)
  have rereads : ∀ x ∈ [⟨0x3ff0000000000000⟩, ⟨0x8000000000000000⟩], Rereads x := by decide +kernel
  have floats : (parse t).map floats = some [⟨0x3ff0000000000000⟩, ⟨0x8000000000000000⟩] ∧
      (parse u).map floats = some [⟨0x3ff0000000000000⟩, ⟨0x8000000000000000⟩] := by decide +kernel
  have texts : (parse t).map canonical = (parse u).map canonical := by decide +kernel
  rw [hv, hw] at floats texts
  have hvx : ∀ x ∈ v.floats, Rereads x := Option.some.inj floats.1 ▸ rereads
  have hwx : ∀ x ∈ w.floats, Rereads x := Option.some.inj floats.2 ▸ rereads
  have canonical_eq : v.canonical = w.canonical := Option.some.inj texts
  obtain ⟨reread, -, same⟩ := canonical_of_parse hv hw hvx hwx
  exact ⟨v, w, hv, hw, hvx, hwx, reread, canonical_eq, same.mp canonical_eq⟩

end Json

end IdentityServer
