import IdentityServer.Proofs.Json.CanonicalForm
import IdentityServer.Proofs.Json.Reordering
import IdentityServer.Proofs.Outcome
import IdentityServer.Proofs.Signing.SignedFields

/-! # Signatures on objects

Signing an object puts one entry into it, at the server and the key id, and leaves every other place as it was. As the
entries are not among what is signed, the new one is valid, the others are as valid as before, and signing again puts
the same entry. Whether an object is accepted from a server depends on the fields that are signed and on the entries
of that server. -/

namespace IdentityServer

namespace Fields
variable {α : Type} {fields : Fields α} {key : String}

@[simp] theorem insert_insert (value other : α) : insert key value (insert key other fields) = insert key value fields := by
  induction fields with
  | nil => simp [insert]
  | cons head rest ih =>
    obtain ⟨k, v⟩ := head
    by_cases hk : k = key
    · simp [insert, hk]
    · by_cases hlt : key < k
      · simp [insert, hk, hlt]
      · simp [insert, hk, hlt, ih]

end Fields

/-! ### Places in values -/

namespace Json

/-- The value that names lead to, from object to object. -/
def at? : List String → Json → Option Json
  | [], v => some v
  | name :: path, v => (v.field? name).bind (at? path)

/-- The value with `new` at the end of names, if there are objects on the way. -/
def put : List String → Json → Json → Json
  | [name], new, .obj fields => .obj (Fields.insert name new fields)
  | name :: path, new, .obj fields =>
    match Fields.get? name fields with
    | some v => .obj (Fields.insert name (put path new v) fields)
    | none => .obj fields
  | _, _, v => v

section Places
variable {fields : Fields Json} {name : String}

@[simp] theorem at?_nil (v : Json) : v.at? [] = some v := rfl

theorem at?_cons (name : String) (path : List String) (fields : Fields Json) :
    (Json.obj fields).at? (name :: path) = (fields.get? name).bind (at? path) := rfl

@[simp] theorem at?_singleton (name : String) (fields : Fields Json) : (Json.obj fields).at? [name] = fields.get? name := by
  rw [at?_cons]
  cases fields.get? name <;> rfl

theorem at?_append (path other : List String) (v : Json) : v.at? (path ++ other) = (v.at? path).bind (at? other) := by
  induction path generalizing v with
  | nil => rfl
  | cons name path ih =>
    rw [List.cons_append, at?, at?]
    cases v.field? name with
    | none => rfl
    | some found => exact ih found

theorem wellFormed_at? {v found : Json} {path : List String} (hv : v.WellFormed) (h : v.at? path = some found) :
    found.WellFormed := by
  induction path generalizing v with
  | nil =>
    cases h
    exact hv
  | cons name path ih =>
    obtain ⟨inner, hinner, hfound⟩ := Option.bind_eq_some_iff.mp h
    cases v with
    | obj fields => exact ih (fieldsWellFormed_iff.mp hv.2 _ (Fields.mem_of_get? hinner)) hfound
    | _ => cases hinner

@[simp] theorem at?_insert_self (path : List String) (x : Json) :
    (Json.obj (fields.insert name x)).at? (name :: path) = x.at? path := by
  simp [at?_cons, Fields.get?_insert]

end Places

/-- Neither path leads through the end of the other. -/
def Apart (path other : List String) : Prop :=
  ¬path <+: other ∧ ¬other <+: path

namespace Apart
variable {path other : List String} {name : String}

theorem tail (h : Apart (name :: path) (name :: other)) : Apart path other :=
  ⟨fun before => h.1 (List.cons_prefix_cons.mpr ⟨rfl, before⟩), fun after => h.2 (List.cons_prefix_cons.mpr ⟨rfl, after⟩)⟩

theorem exists_cons (h : Apart path other) : ∃ first rest, path = first :: rest :=
  List.exists_cons_of_ne_nil fun hpath => h.1 (hpath ▸ List.nil_prefix)

end Apart

/-- What is put under a name changes no place outside it. -/
theorem at?_insert {name : String} {path entry : List String} {x : Json} {fields : Fields Json}
    (apart : Apart path (name :: entry)) (inner : ∀ p, Apart p entry → x.at? p = (fields.get? name).bind (at? p)) :
    (Json.obj (fields.insert name x)).at? path = (Json.obj fields).at? path := by
  obtain ⟨first, rest, rfl⟩ := apart.exists_cons
  by_cases hname : name = first
  · subst hname
    rw [at?_insert_self]
    exact inner rest apart.tail
  · simp [at?_cons, Fields.get?_insert, hname]

end Json

namespace SignedJson
open Json

/-! ### What signing does -/

/-- Where the signature of a key stands. -/
def entryOf (server id : String) : List String :=
  ["signatures", server, id]

theorem objectOrNew_none (fault : ObjectFault) : objectOrNew fault none = .ok [] := rfl

theorem objectOrNew_obj (fault : ObjectFault) (fields : Fields Json) : objectOrNew fault (some (.obj fields)) = .ok fields :=
  rfl

theorem objectOrNew_insert (fault : ObjectFault) (name : String) (inner fields : Fields Json) :
    objectOrNew fault ((fields.insert name (.obj inner)).get? name) = .ok inner := by
  rw [Fields.get?_insert, if_pos rfl, objectOrNew_obj]

theorem objectOrNew_eq_ok {fault : ObjectFault} {found : Option Json} {fields : Fields Json} :
    objectOrNew fault found = .ok fields ↔ found = none ∧ fields = [] ∨ found = some (.obj fields) := by
  rcases found with _ | (_ | _ | _ | _ | _ | _ | _) <;> simp [objectOrNew, eq_comm]

theorem exists_objectOrNew_iff {fault : ObjectFault} {found : Option Json} :
    (∃ fields, objectOrNew fault found = .ok fields) ↔ ∀ v, found = some v → v.fields? ≠ none := by
  rcases found with _ | (_ | _ | _ | _ | _ | _ | _) <;> simp [objectOrNew, Json.fields?]

/-- The empty object leads nowhere, as does a missing one. -/
theorem at?_objectOrNew {fault : ObjectFault} {found : Option Json} {fields : Fields Json}
    (h : objectOrNew fault found = .ok fields) (name : String) (path : List String) :
    (Json.obj fields).at? (name :: path) = found.bind (at? (name :: path)) := by
  rcases objectOrNew_eq_ok.mp h with ⟨rfl, rfl⟩ | rfl <;> rfl

theorem signaturesOf_eq (server : String) (v : Json) :
    signaturesOf server v = ((v.at? ["signatures", server]).bind (·.fields?)).getD [] := by
  rw [signaturesOf, at?]
  cases v.field? "signatures" with
  | none => rfl
  | some found =>
    rw [Option.bind_some, Option.bind_some, at?]
    cases found.field? server <;> rfl

theorem mem_signaturesOf {server id : String} {v x : Json} (h : v.at? (entryOf server id) = some x) :
    (id, x) ∈ signaturesOf server v := by
  obtain ⟨holder, hholder, hx⟩ := Option.bind_eq_some_iff.mp ((at?_append ["signatures", server] [id] v).symm.trans h)
  rw [signaturesOf_eq, hholder]
  cases holder with
  | obj keys => exact Fields.mem_of_get? ((at?_singleton id keys).symm.trans hx)
  | _ => cases hx

theorem mem_signaturesOf_iff {server id : String} {v x : Json} (hv : v.WellFormed) :
    (id, x) ∈ signaturesOf server v ↔ v.at? (entryOf server id) = some x := by
  refine ⟨fun h => ?_, mem_signaturesOf⟩
  rw [signaturesOf_eq] at h
  refine (at?_append ["signatures", server] [id] v).trans ?_
  cases hholder : v.at? ["signatures", server] with
  | none =>
    rw [hholder] at h
    cases h
  | some holder =>
    rw [hholder] at h
    cases holder with
    | obj keys =>
      have ordered : Fields.Ordered keys := (wellFormed_at? hv hholder).1
      exact (at?_singleton id keys).trans ((Fields.get?_eq_some_iff ordered).mpr h)
    | _ => cases h

theorem signedText_insert (x : Json) (fields : Fields Json) :
    signedText (fields.insert "signatures" x) = signedText fields := by
  rw [signedText, covered, Fields.erase_insert]
  rfl

theorem at?_server {fields servers : Fields Json} (h : objectOrNew .signatures (fields.get? "signatures") = .ok servers)
    (server : String) : (Json.obj fields).at? ["signatures", server] = servers.get? server := by
  rw [at?_cons, ← at?_objectOrNew h, at?_singleton]

variable [SignatureScheme] {key : KeyPair} {server : String} {v v' : Json}

/-- What an object becomes: the objects down to the entry are there or new, and the entry is put. -/
structure Becomes (key : KeyPair) (server : String) (fields servers keys : Fields Json) (v' : Json) : Prop where
  signatures : objectOrNew .signatures (fields.get? "signatures") = .ok servers
  entries : objectOrNew (.signaturesOf server) (servers.get? server) = .ok keys
  result : v' = .obj (fields.insert "signatures" (.obj (servers.insert server
    (.obj (keys.insert key.id (.str (key.sign (utf8 (signedText fields)))))))))

theorem sign_eq_ok : sign key server v = .ok v' ↔
    ∃ fields servers keys, v = .obj fields ∧ Becomes key server fields servers keys v' := by
  cases v with
  | obj fields =>
    unfold sign
    dsimp only
    rw [bind_eq_ok]
    constructor
    · rintro ⟨servers, hservers, h⟩
      obtain ⟨keys, hkeys, h⟩ := bind_eq_ok.mp h
      cases h
      exact ⟨fields, servers, keys, rfl, hservers, hkeys, rfl⟩
    · rintro ⟨_, servers, keys, hfields, hservers, hkeys, rfl⟩
      cases hfields
      exact ⟨servers, hservers, bind_eq_ok.mpr ⟨keys, hkeys, rfl⟩⟩
  | _ => exact ⟨nofun, nofun⟩

/-- A value that cannot be signed: it is no object, or what should hold the signatures is none. -/
def Unsignable (server : String) (v : Json) : Prop :=
  v.fields? = none ∨ (∃ found, v.at? ["signatures"] = some found ∧ found.fields? = none) ∨
    ∃ found, v.at? ["signatures", server] = some found ∧ found.fields? = none

theorem exists_sign_iff : (∃ v', sign key server v = .ok v') ↔ ¬Unsignable server v := by
  simp only [sign_eq_ok, Unsignable, not_or, not_exists, not_and]
  constructor
  · rintro ⟨_, fields, servers, keys, rfl, hservers, hkeys, -⟩
    refine ⟨nofun, ?_, ?_⟩
    · rw [at?_singleton]
      exact exists_objectOrNew_iff.mp ⟨_, hservers⟩
    · rw [at?_server hservers]
      exact exists_objectOrNew_iff.mp ⟨_, hkeys⟩
  · rintro ⟨isObject, hsignatures, hserver⟩
    obtain ⟨fields, hfields⟩ := Option.ne_none_iff_exists'.mp isObject
    obtain rfl := Json.fields?_eq_some.mp hfields
    rw [at?_singleton] at hsignatures
    obtain ⟨servers, hservers⟩ := exists_objectOrNew_iff.mpr hsignatures
    rw [at?_server hservers] at hserver
    obtain ⟨keys, hkeys⟩ := exists_objectOrNew_iff.mpr hserver
    exact ⟨_, fields, servers, keys, rfl, hservers, hkeys, rfl⟩

/-- The value with the empty object at a place where nothing is. -/
def entered (path : List String) (v : Json) : Json :=
  match v.at? path with
  | none => put path (.obj []) v
  | some _ => v

/-- What is at a place has to be an object; the empty one is put there if nothing is. -/
def enter (path : List String) (fault : ObjectFault) : ExceptT ObjectFault (StateM Json) Unit := do
  modify (entered path)
  match (← get).at? path with
  | some (.obj _) => return
  | _ => throw fault

/-- Signing as it goes on inside the value: the objects down to the entry are entered one by one, after the signature
    has been made, and the entry is put into the last of them. -/
def signing (key : KeyPair) (server : String) : ExceptT ObjectFault (StateM Json) Unit := do
  let .obj fields ← get | throw .notObject
  let signature := key.sign (utf8 (signedText fields))
  enter ["signatures"] .signatures
  enter ["signatures", server] (.signaturesOf server)
  modify (put (entryOf server key.id) (.str signature))

omit [SignatureScheme] in
theorem run_enter {path : List String} {fault : ObjectFault}
    (hput : v.at? path = none → (put path (.obj []) v).at? path = some (.obj [])) :
    StateT.run (enter path fault).run v =
      match objectOrNew fault (v.at? path) with
      | .ok _ => (.ok (), entered path v)
      | .error e => (.error e, v) := by
  have run : StateT.run (enter path fault).run v = StateT.run (ExceptT.run (match (entered path v).at? path with
    | some (.obj _) => pure ()
    | _ => throw fault)) (entered path v) := by
    unfold enter
    rw [run_bind]
    rfl
  rw [run]
  cases hfound : v.at? path with
  | none =>
    simp only [entered, hfound, hput hfound]
    rfl
  | some found =>
    simp only [entered, hfound]
    cases found <;> rfl

omit [SignatureScheme] in
/-- Within the object that holds the signatures. -/
theorem run_enter_server {fields servers : Fields Json} (h : fields.get? "signatures" = some (.obj servers)) (id : String)
    (entry : Json) :
    StateT.run (ExceptT.run do
      enter ["signatures", server] (.signaturesOf server)
      modify (put (entryOf server id) entry)) (.obj fields) =
      match objectOrNew (.signaturesOf server) (servers.get? server) with
      | .ok keys => (.ok (),
          .obj (fields.insert "signatures" (.obj (servers.insert server (.obj (keys.insert id entry))))))
      | .error e => (.error e, .obj fields) := by
  have run : ∀ w : Json, StateT.run (ExceptT.run (modify (put (entryOf server id) entry) :
      ExceptT ObjectFault (StateM Json) Unit)) w = (.ok (), put (entryOf server id) entry w) := fun _ => rfl
  have place : (Json.obj fields).at? ["signatures", server] = servers.get? server := by
    rw [at?_cons, h, Option.bind_some, at?_singleton]
  rw [run_bind, run_enter fun _ => by simp [put, h], place]
  cases hserver : servers.get? server with
  | none =>
    dsimp only [objectOrNew]
    rw [run, entered, place, hserver]
    simp [put, entryOf, h, Fields.get?_insert, Fields.insert]
  | some found =>
    cases found with
    | obj keys =>
      dsimp only [objectOrNew]
      rw [run, entered, place, hserver]
      simp [put, entryOf, h, hserver]
    | _ => rfl

/-- A value that signing fails on has not been touched. -/
theorem run_signing (key : KeyPair) (server : String) (v : Json) :
    StateT.run (signing key server).run v =
      match sign key server v with
      | .ok v' => (.ok (), v')
      | .error e => (.error e, v) := by
  cases v with
  | obj fields =>
    have start : StateT.run (signing key server).run (.obj fields) = StateT.run (ExceptT.run (do
        enter ["signatures"] .signatures
        enter ["signatures", server] (.signaturesOf server)
        modify (put (entryOf server key.id) (.str (key.sign (utf8 (signedText fields))))))) (.obj fields) := rfl
    rw [start, run_bind, run_enter fun _ => by simp [put], at?_singleton]
    unfold sign
    dsimp only
    cases hfound : Fields.get? "signatures" fields with
    | none =>
      have new : entered ["signatures"] (.obj fields) = .obj (Fields.insert "signatures" (.obj []) fields) := by
        rw [entered, at?_singleton, hfound]
        rfl
      have signatures : Fields.get? "signatures" (Fields.insert "signatures" (Json.obj []) fields) = some (.obj []) := by
        rw [Fields.get?_insert, if_pos rfl]
      rw [objectOrNew_none, bind_ok]
      dsimp only
      rw [new, run_enter_server signatures]
      simp only [Fields.insert_insert]
      rfl
    | some found =>
      cases found with
      | obj servers =>
        have there : entered ["signatures"] (.obj fields) = .obj fields := by rw [entered, at?_singleton, hfound]
        rw [objectOrNew_obj, bind_ok]
        dsimp only
        rw [there, run_enter_server hfound]
        cases objectOrNew (.signaturesOf server) (Fields.get? server servers) <;> rfl
      | _ => rfl
  | _ => rfl

/-! ### What is left as it was -/

/-- An entry is valid on an object: the object carries it, and the key of its id verifies it. -/
def ValidAt (keyFor : String → Option String) (server id : String) (v : Json) : Prop :=
  ∃ fields x, v.fields? = some fields ∧ v.at? (entryOf server id) = some x ∧
    entryValid keyFor (utf8 (signedText fields)) (id, x) = true

theorem ValidAt.verify {keyFor : String → Option String} {id : String} (h : ValidAt keyFor server id v) :
    verify v server keyFor = .ok () := by
  obtain ⟨fields, x, hfields, hx, valid⟩ := h
  exact verify_eq_ok.mpr ⟨fields, hfields, (id, x), mem_signaturesOf hx, valid⟩

/-- What signing does to a value, wherever one looks. -/
structure Signs (key : KeyPair) (server : String) (v v' : Json) : Prop where
  /-- The entry is put. -/
  entry : ∃ fields, v.fields? = some fields ∧
    v'.at? (entryOf server key.id) = some (.str (key.sign (utf8 (signedText fields))))
  /-- Every other place is left as it was. -/
  elsewhere : ∀ path, Apart path (entryOf server key.id) → v'.at? path = v.at? path
  /-- Whoever knows the key accepts the object. -/
  accepted : ∀ keyFor, keyFor key.id = some key.publicKey → verify v' server keyFor = .ok ()
  /-- Every other entry that was valid still is, and the object is accepted for its sake. -/
  others : ∀ keyFor other id, (other, id) ≠ (server, key.id) → ValidAt keyFor other id v →
    ValidAt keyFor other id v' ∧ verify v' other keyFor = .ok ()
  /-- Signed again, the object stays as it is. -/
  again : sign key server v' = .ok v'

namespace Becomes
variable {fields servers keys : Fields Json}

theorem fields?_eq (h : Becomes key server fields servers keys v') :
    ∃ fields', v'.fields? = some fields' ∧ signedText fields' = signedText fields := by
  rw [h.result]
  exact ⟨_, rfl, signedText_insert _ _⟩

theorem entry (h : Becomes key server fields servers keys v') :
    v'.at? (entryOf server key.id) = some (.str (key.sign (utf8 (signedText fields)))) := by
  rw [h.result, entryOf, at?_insert_self, at?_insert_self, at?_insert_self, at?_nil]

theorem elsewhere (h : Becomes key server fields servers keys v') {path : List String}
    (apart : Apart path (entryOf server key.id)) : v'.at? path = (Json.obj fields).at? path := by
  rw [h.result]
  refine at?_insert apart fun p hp => ?_
  obtain ⟨name, rest, rfl⟩ := hp.exists_cons
  rw [← at?_objectOrNew h.signatures]
  refine at?_insert hp fun q hq => ?_
  obtain ⟨id, more, rfl⟩ := hq.exists_cons
  rw [← at?_objectOrNew h.entries]
  exact at?_insert hq fun r hr => absurd List.nil_prefix hr.2

theorem again (h : Becomes key server fields servers keys v') : sign key server v' = .ok v' := by
  rw [h.result]
  refine sign_eq_ok.mpr ⟨_, _, _, rfl, objectOrNew_insert .., objectOrNew_insert .., ?_⟩
  rw [signedText_insert, Fields.insert_insert, Fields.insert_insert, Fields.insert_insert]

theorem validAt (h : Becomes key server fields servers keys v') {keyFor : String → Option String} {other id : String}
    (apart : (other, id) ≠ (server, key.id)) (valid : ValidAt keyFor other id (.obj fields)) :
    ValidAt keyFor other id v' := by
  obtain ⟨_, x, hfields, hx, valid⟩ := valid
  cases hfields
  obtain ⟨fields', hfields', covered⟩ := h.fields?_eq
  refine ⟨fields', x, hfields', ?_, covered ▸ valid⟩
  rw [h.elsewhere ?_, hx]
  -- Two paths of one length lead through one another's ends only if they are the same.
  have differ : entryOf other id ≠ entryOf server key.id := fun same => apart (by simpa [entryOf] using same)
  exact ⟨fun before => differ (before.eq_of_length rfl), fun after => differ (after.eq_of_length rfl).symm⟩

theorem signs (lawful : SignatureScheme.Lawful) (h : Becomes key server fields servers keys v') :
    Signs key server (.obj fields) v' where
  entry := ⟨fields, rfl, h.entry⟩
  elsewhere _ := h.elsewhere
  accepted keyFor known := by
    obtain ⟨fields', hfields', covered⟩ := h.fields?_eq
    refine ValidAt.verify ⟨fields', _, hfields', h.entry, ?_⟩
    rw [entryValid, known, covered]
    exact verifySignature_sign lawful key _
  others _ _ _ apart valid := ⟨h.validAt apart valid, (h.validAt apart valid).verify⟩
  again := h.again

end Becomes

/-! ### What acceptance depends on -/

/-- Objects with the same signed fields. -/
structure Agree (v w : Json) : Prop where
  isObject : v.fields?.isSome = w.fields?.isSome
  field : ∀ name, name ≠ "signatures" → name ≠ "unsigned" → v.field? name = w.field? name

variable {w : Json} {keyFor : String → Option String}

omit [SignatureScheme] in
theorem Agree.covered_eq (h : Agree v w) (hv : v.WellFormed) (hw : w.WellFormed) :
    v.fields?.map covered = w.fields?.map covered := by
  have present := h.isObject
  cases hfields : v.fields? with
  | none =>
    rw [hfields] at present
    rw [Option.isNone_iff_eq_none.mp (Option.isSome_eq_false_iff.mp present.symm)]
  | some fields =>
    rw [hfields] at present
    obtain ⟨others, hothers⟩ := Option.isSome_iff_exists.mp present.symm
    obtain rfl := Json.fields?_eq_some.mp hfields
    obtain rfl : w = .obj others := by cases w <;> cases hothers; rfl
    refine congrArg some (Fields.eq_of_get? ?_ ?_ fun name => ?_)
    · exact Fields.ordered_erase (Fields.ordered_erase hv.1)
    · exact Fields.ordered_erase (Fields.ordered_erase hw.1)
    · simp only [covered, Fields.get?_erase]
      split
      · rfl
      · split
        · rfl
        · exact h.field name (Ne.symm ‹_›) (Ne.symm ‹_›)

/-- Unsigned data and the signatures of other servers do not count. -/
theorem Agree.verify_eq (h : Agree v w) (hv : v.WellFormed) (hw : w.WellFormed)
    (signatures : v.at? ["signatures", server] = w.at? ["signatures", server]) :
    verify v server keyFor = verify w server keyFor :=
  verify_congr (h.covered_eq hv hw) (by rw [signaturesOf_eq, signaturesOf_eq, signatures])

/-- An object is accepted if an entry of the server is valid on it. -/
theorem verify_eq_ok_iff (hv : v.WellFormed) : verify v server keyFor = .ok () ↔ ∃ id, ValidAt keyFor server id v := by
  constructor
  · intro h
    obtain ⟨fields, hfields, ⟨id, x⟩, hentry, valid⟩ := verify_eq_ok.mp h
    exact ⟨id, fields, x, hfields, (mem_signaturesOf_iff hv).mp hentry, valid⟩
  · rintro ⟨id, valid⟩
    exact valid.verify

/-- Further entries, whatever they are, take away no acceptance. -/
theorem Agree.verify_more (h : Agree v w) (hv : v.WellFormed) (hw : w.WellFormed)
    (more : ∀ id x, v.at? (entryOf server id) = some x → w.at? (entryOf server id) = some x)
    (accepted : verify v server keyFor = .ok ()) : verify w server keyFor = .ok () := by
  obtain ⟨id, fields, x, hfields, hx, valid⟩ := (verify_eq_ok_iff hv).mp accepted
  have same := h.covered_eq hv hw
  rw [hfields] at same
  obtain ⟨others, hothers, hcovered⟩ := Option.map_eq_some_iff.mp same.symm
  refine ValidAt.verify ⟨others, x, hothers, more id x hx, ?_⟩
  rwa [signedText, hcovered]

/-- Of every key, server and value: the value cannot be signed exactly if it is no object or if no objects hold its
    signatures, and then it has not been touched; else one entry is put, which is valid, while every other place and
    every other valid entry stays as it was. Whether an object is accepted from a server depends neither on the order
    of fields, nor on unsigned data, nor on the signatures of other servers, nor on what stands beside a valid entry. -/
theorem signed_objects (lawful : SignatureScheme.Lawful) :
    (∀ (key : KeyPair) (server : String) (v : Json),
      (Unsignable server v →
        ∃ e, sign key server v = .error e ∧ StateT.run (signing key server).run v = (.error e, v)) ∧
      (¬Unsignable server v →
        ∃ v', sign key server v = .ok v' ∧ StateT.run (signing key server).run v = (.ok (), v') ∧
          Signs key server v v')) ∧
    ∀ (server : String) (keyFor : String → Option String),
      (∀ s t : Source, s.Reordered t →
        s.value?.map (verify · server keyFor) = t.value?.map (verify · server keyFor)) ∧
      ∀ v w : Json, v.WellFormed → w.WellFormed → Agree v w →
        (v.at? ["signatures", server] = w.at? ["signatures", server] → verify v server keyFor = verify w server keyFor) ∧
        ((∀ id x, v.at? (entryOf server id) = some x → w.at? (entryOf server id) = some x) →
          verify v server keyFor = .ok () → verify w server keyFor = .ok ()) := by
  refine ⟨fun key server v => ⟨fun unsignable => ?_, fun signable => ?_⟩, fun server keyFor =>
    ⟨fun s t h => by rw [h.value?], fun v w hv hw h => ⟨h.verify_eq hv hw, h.verify_more hv hw⟩⟩⟩
  · have run := run_signing key server v
    cases hsign : sign key server v with
    | error e =>
      rw [hsign] at run
      exact ⟨e, rfl, run⟩
    | ok v' => exact absurd unsignable (exists_sign_iff.mp ⟨v', hsign⟩)
  · obtain ⟨v', hsign⟩ := exists_sign_iff.mpr signable
    have run := run_signing key server v
    rw [hsign] at run
    obtain ⟨fields, servers, keys, rfl, becomes⟩ := sign_eq_ok.mp hsign
    exact ⟨v', hsign, run, becomes.signs lawful⟩

omit [SignatureScheme] in
/-- An object that carries the signature of another server is signed beside it. -/
theorem signed_objects_countersigned :
    let _ : SignatureScheme := .transparent
    let v := Json.obj [("signatures", .obj [("hs.example.org", .obj [("ed25519:7", .str "AAAA")])]), ("token", .str "abc")]
    ∃ v', sign KeyPair.zeros "id.example.org" v = .ok v' ∧
      v'.at? ["signatures", "hs.example.org", "ed25519:7"] = some (.str "AAAA") ∧
      verify v' "id.example.org" (fun _ => some KeyPair.zeros.publicKey) = .ok () ∧
      sign KeyPair.zeros "id.example.org" v' = .ok v' := by
  intro _ v
  have signed : ∃ v', sign KeyPair.zeros "id.example.org" v = .ok v' := ⟨_, rfl⟩
  obtain ⟨v', hsign, -, signs⟩ := ((signed_objects SignatureScheme.transparent_lawful).1 KeyPair.zeros "id.example.org" v).2
    (exists_sign_iff.mp signed)
  refine ⟨v', hsign, ?_, signs.accepted _ rfl, signs.again⟩
  rw [signs.elsewhere _ ⟨by decide, by decide⟩]
  rfl

end SignedJson

end IdentityServer
