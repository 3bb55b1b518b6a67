import IdentityServer.Json.Parser
import IdentityServer.Proofs.Dictionary

/-! # The order of fields

Objects whose fields are written in another order, at any depth, denote the same value. -/

namespace IdentityServer

namespace Fields
variable {α : Type} {fields : Fields α} {a b : String}

theorem insert_comm (h : fields.Ordered) (hne : a ≠ b) (x y : α) :
    insert a x (insert b y fields) = insert b y (insert a x fields) := by
  refine eq_of_get? (ordered_insert (ordered_insert h)) (ordered_insert (ordered_insert h)) fun key => ?_
  simp only [get?_insert]
  by_cases ha : a = key
  · rw [if_pos ha, if_pos ha, if_neg (ha ▸ hne.symm)]
  · rw [if_neg ha, if_neg ha]

theorem ofList_append (front back : List (String × α)) :
    ofList (front ++ back) = back.foldl (fun fields pair => insert pair.1 pair.2 fields) (ofList front) :=
  List.foldl_append

theorem ofList_swap (hne : a ≠ b) (front back : List (String × α)) (x y : α) :
    ofList (front ++ (a, x) :: (b, y) :: back) = ofList (front ++ (b, y) :: (a, x) :: back) := by
  rw [ofList_append, ofList_append, List.foldl_cons, List.foldl_cons, List.foldl_cons, List.foldl_cons,
    insert_comm (ordered_ofList front) hne]

end Fields

namespace Json.Source

theorem itemValues?_append (front back : List Source) :
    itemValues? (front ++ back) = (itemValues? front).bind fun vs => (itemValues? back).map (vs ++ ·) := by
  induction front with
  | nil => simp [itemValues?]
  | cons item rest ih =>
    rw [List.cons_append, itemValues?, itemValues?, ih]
    cases item.value? <;> cases itemValues? rest <;> cases itemValues? back <;> rfl

theorem fieldValues?_append (front back : List (List Char × Source)) :
    fieldValues? (front ++ back) = (fieldValues? front).bind fun vs => (fieldValues? back).map (vs ++ ·) := by
  induction front with
  | nil => simp [fieldValues?]
  | cons field rest ih =>
    obtain ⟨name, source⟩ := field
    rw [List.cons_append, fieldValues?, fieldValues?, ih]
    cases textOf? name <;> cases source.value? <;> cases fieldValues? rest <;> cases fieldValues? back <;> rfl

/-- The same but for the order of fields, at any depth. Fields of one name stay in their order, as the last one
    counts. -/
inductive Reordered : Source → Source → Prop
  | refl (s : Source) : Reordered s s
  | trans {s t u : Source} (h : Reordered s t) (h' : Reordered t u) : Reordered s u
  | item {s t : Source} (front back : List Source) (h : Reordered s t) :
      Reordered (.arr (front ++ s :: back)) (.arr (front ++ t :: back))
  | field {s t : Source} (front back : List (List Char × Source)) (name : List Char) (h : Reordered s t) :
      Reordered (.obj (front ++ (name, s) :: back)) (.obj (front ++ (name, t) :: back))
  | swap {a b : List Char} (front back : List (List Char × Source)) (s t : Source) (hne : textOf? a ≠ textOf? b) :
      Reordered (.obj (front ++ (a, s) :: (b, t) :: back)) (.obj (front ++ (b, t) :: (a, s) :: back))

/-- Whichever order the fields are written in, the value is the same. -/
theorem Reordered.value? {s t : Source} (h : Reordered s t) : s.value? = t.value? := by
  induction h with
  | refl s => rfl
  | trans _ _ ih ih' => exact ih.trans ih'
  | item front back _ ih =>
    rw [Source.value?, Source.value?, itemValues?_append, itemValues?_append, itemValues?, itemValues?, ih]
  | field front back name _ ih =>
    rw [Source.value?, Source.value?, fieldValues?_append, fieldValues?_append, fieldValues?, fieldValues?, ih]
  | @swap a b front back s t hne =>
    rw [Source.value?, Source.value?, fieldValues?_append, fieldValues?_append]
    simp only [fieldValues?]
    cases ha : textOf? a with
    | none => cases textOf? b <;> cases t.value? <;> rfl
    | some name =>
      cases hb : textOf? b with
      | none => cases s.value? <;> rfl
      | some other =>
        rw [ha, hb] at hne
        have apart : name ≠ other := fun h => hne (congrArg some h)
        cases fieldValues? front with
        | none => rfl
        | some before =>
          cases s.value? with
          | none => cases t.value? <;> rfl
          | some v =>
            cases t.value? with
            | none => rfl
            | some w =>
              cases fieldValues? back with
              | none => rfl
              | some after => exact congrArg (fun fields => some (Json.obj fields)) (Fields.ofList_swap apart before after v w)

end Json.Source

end IdentityServer
