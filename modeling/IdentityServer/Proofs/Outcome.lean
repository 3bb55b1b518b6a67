import IdentityServer.Federation.Client
import IdentityServer.Service.State
import Mathlib.Data.List.Forall2

/-! # Outcomes

What a chain of statements answers, read off from what its statements answer one by one. A transaction
that fails has no table to go on with; an exchange with other servers or an operation of a service that fails
leaves the state in which it failed. -/

namespace IdentityServer

/-! ### Answers that may be failures -/

section Answers
variable {ε α β : Type}

theorem bind_ok (a : α) (f : α → Except ε β) : (Except.ok a >>= f) = f a := rfl

theorem bind_error (e : ε) (f : α → Except ε β) : (Except.error e >>= f) = .error e := rfl

@[simp] theorem throw_ne_ok {e : ε} {a : α} : (throw e : Except ε α) ≠ .ok a := nofun

theorem bind_eq_ok {x : Except ε α} {f : α → Except ε β} {b : β} :
    x >>= f = .ok b ↔ ∃ a, x = .ok a ∧ f a = .ok b := by
  cases x with
  | ok a => simp [bind_ok]
  | error e => simp [bind_error]

theorem toOption_eq_some {x : Except ε α} {a : α} : x.toOption = some a ↔ x = .ok a := by
  cases x <;> simp [Except.toOption]

theorem exists_eq_ok_some {x : Except ε (Option α)} (h : x.map Option.isSome = .ok true) : ∃ a, x = .ok (some a) := by
  rcases x with e | _ | a
  · cases h
  · cases h
  · exact ⟨a, rfl⟩

theorem mapM_eq_ok {f : α → Except ε β} {xs : List α} {ys : List β} :
    xs.mapM f = .ok ys ↔ List.Forall₂ (fun x y => f x = .ok y) xs ys := by
  induction xs generalizing ys with
  | nil =>
    rw [List.mapM_nil, List.forall₂_nil_left_iff]
    exact ⟨fun h => (Except.ok.inj h).symm, fun h => h ▸ rfl⟩
  | cons x xs ih =>
    rw [List.mapM_cons, bind_eq_ok]
    constructor
    · rintro ⟨y, hy, h⟩
      obtain ⟨rest, hrest, h⟩ := bind_eq_ok.mp h
      cases h
      exact .cons hy (ih.mp hrest)
    · rintro (_ | ⟨hy, hrest⟩)
      exact ⟨_, hy, bind_eq_ok.mpr ⟨_, ih.mpr hrest, rfl⟩⟩

theorem exists_forall₂_iff {R : α → β → Prop} {xs : List α} : (∃ ys, List.Forall₂ R xs ys) ↔ ∀ x ∈ xs, ∃ y, R x y := by
  induction xs with
  | nil => exact ⟨fun _ => nofun, fun _ => ⟨[], .nil⟩⟩
  | cons x xs ih =>
    rw [List.forall_mem_cons, ← ih]
    constructor
    · rintro ⟨_, _ | ⟨hy, hrest⟩⟩
      exact ⟨⟨_, hy⟩, _, hrest⟩
    · rintro ⟨⟨y, hy⟩, ys, hrest⟩
      exact ⟨y :: ys, .cons hy hrest⟩

theorem exists_mapM_eq_ok {f : α → Except ε β} {xs : List α} :
    (∃ ys, xs.mapM f = .ok ys) ↔ ∀ x ∈ xs, ∃ y, f x = .ok y := by
  simp only [mapM_eq_ok, exists_forall₂_iff]

theorem mapM_eq_some {f : α → Option β} {xs : List α} {ys : List β} :
    xs.mapM f = some ys ↔ List.Forall₂ (fun x y => f x = some y) xs ys := by
  induction xs generalizing ys with
  | nil => simp [eq_comm]
  | cons x xs ih =>
    simp only [List.mapM_cons, Option.bind_eq_bind, Option.bind_eq_some_iff, Option.pure_def, Option.some.injEq, ih]
    constructor
    · rintro ⟨y, hy, rest, hrest, rfl⟩
      exact .cons hy hrest
    · rintro (_ | ⟨hy, hrest⟩)
      exact ⟨_, hy, _, hrest, rfl⟩

theorem exists_mapM_eq_some {f : α → Option β} {xs : List α} :
    (∃ ys, xs.mapM f = some ys) ↔ ∀ x ∈ xs, ∃ y, f x = some y := by
  simp only [mapM_eq_some, exists_forall₂_iff]

theorem map_mapM_cons {γ : Type} (f : α → Except ε β) (g : β → γ) (x : α) (xs : List α) :
    ((x :: xs).mapM f).map (List.map g) =
      (do return (← (f x).map g) :: (← (xs.mapM f).map (List.map g)) : Except ε (List γ)) := by
  rw [List.mapM_cons]
  cases f x with
  | error e => rfl
  | ok b => cases xs.mapM f <;> rfl

/-- Lists whose items are answered alike, one by one, are answered alike as a whole. -/
theorem map_mapM_congr {γ : Type} {f : α → Except ε β} {g : β → γ} {xs ys : List α}
    (h : List.Forall₂ (fun x y => (f x).map g = (f y).map g) xs ys) :
    (xs.mapM f).map (List.map g) = (ys.mapM f).map (List.map g) := by
  induction h with
  | nil => rfl
  | cons hfirst _ ih => rw [map_mapM_cons, map_mapM_cons, hfirst, ih]

theorem exists_right_of_mem {R : α → β → Prop} {xs : List α} {ys : List β} {x : α} (h : List.Forall₂ R xs ys)
    (hx : x ∈ xs) : ∃ y ∈ ys, R x y := by
  induction h with
  | nil => cases hx
  | cons hfirst _ ih =>
    rcases List.mem_cons.mp hx with rfl | hx
    · exact ⟨_, List.mem_cons_self, hfirst⟩
    · obtain ⟨y, hy, hxy⟩ := ih hx
      exact ⟨y, List.mem_cons_of_mem _ hy, hxy⟩

theorem exists_left_of_mem {R : α → β → Prop} {xs : List α} {ys : List β} {y : β} (h : List.Forall₂ R xs ys)
    (hy : y ∈ ys) : ∃ x ∈ xs, R x y :=
  exists_right_of_mem h.flip hy

/-! ### Answers with a state -/

variable {σ : Type}

theorem run_bind (x : ExceptT ε (StateM σ) α) (next : α → ExceptT ε (StateM σ) β) (s : σ) :
    StateT.run (x >>= next).run s =
      match StateT.run x.run s with
      | (.ok a, t) => StateT.run (next a).run t
      | (.error e, t) => (.error e, t) := by
  simp only [ExceptT.run_bind, StateT.run_bind]
  rcases StateT.run (ExceptT.run x) s with ⟨_ | _, _⟩ <;> rfl

theorem run_bind_ok {x : ExceptT ε (StateM σ) α} {next : α → ExceptT ε (StateM σ) β} {s t : σ} {a : α}
    (h : StateT.run x.run s = (.ok a, t)) : StateT.run (x >>= next).run s = StateT.run (next a).run t := by
  rw [run_bind, h]

theorem run_bind_eq_ok {x : ExceptT ε (StateM σ) α} {next : α → ExceptT ε (StateM σ) β} {s u : σ} {b : β} :
    StateT.run (x >>= next).run s = (.ok b, u) ↔
      ∃ a t, StateT.run x.run s = (.ok a, t) ∧ StateT.run (next a).run t = (.ok b, u) := by
  rw [run_bind]
  rcases StateT.run x.run s with ⟨e | a, t⟩
  · exact ⟨nofun, nofun⟩
  · refine ⟨fun h => ⟨a, t, rfl, h⟩, ?_⟩
    rintro ⟨_, _, ⟨⟩, h⟩
    exact h

/-- Answers that read no state leave it as it is. -/
theorem run_mapM_pure (f : α → Except ε β) (xs : List α) (s : σ) :
    StateT.run (ExceptT.run (xs.mapM fun x => (ExceptT.mk (pure (f x)) : ExceptT ε (StateM σ) β))) s =
      (xs.mapM f, s) := by
  induction xs with
  | nil => rfl
  | cons x xs ih =>
    rw [List.mapM_cons, List.mapM_cons, run_bind]
    cases f x with
    | error e => rfl
    | ok y =>
      rw [bind_ok]
      refine (run_bind _ _ s).trans ?_
      rw [ih]
      cases xs.mapM f <;> rfl

end Answers

/-! ### Transactions -/

namespace Transaction
variable {σ α : Type} {table : σ}

theorem execute_ok {transaction : Transaction σ α} {result : α × σ}
    (h : StateT.run transaction table = .ok result) : transaction.execute table = .ok result := by
  rw [execute, h]

theorem execute_error {transaction : Transaction σ α} {fault : StorageFault}
    (h : StateT.run transaction table = .error fault) : transaction.execute table = .error (.storage fault) := by
  rw [execute, h]

end Transaction

/-! ### Exchanges with other servers -/

namespace Exchange
variable {ω α β : Type}

/-- Whatever an exchange answers has a property. -/
def Yields (exchange : Exchange ω α) (P : α → Prop) : Prop :=
  ∀ s a, (StateT.run (ExceptT.run exchange) s).1 = .ok a → P a

theorem yields_true (exchange : Exchange ω α) : exchange.Yields fun _ => True :=
  fun _ _ _ => trivial

theorem yields_lift {answer : Except FederationError α} {P : α → Prop} (h : ∀ a, answer = .ok a → P a) :
    (liftM answer : Exchange ω α).Yields P :=
  fun _ => h

theorem Yields.bind {exchange : Exchange ω α} {next : α → Exchange ω β} {P : α → Prop} {Q : β → Prop}
    (h : exchange.Yields P) (hnext : ∀ a, P a → (next a).Yields Q) : (exchange >>= next).Yields Q := by
  intro s b hb
  rw [run_bind] at hb
  rcases hrun : StateT.run (ExceptT.run exchange) s with ⟨e | a, t⟩
  · rw [hrun] at hb
    cases hb
  · rw [hrun] at hb
    exact hnext a (h s a (by rw [hrun])) t b hb

theorem run_lift (answer : Except FederationError α) (s : DiscoveryCache × ω) :
    StateT.run (ExceptT.run (liftM answer : Exchange ω α)) s = (answer, s) :=
  rfl

theorem run_lift_eq_ok {answer : Except FederationError α} {s t : DiscoveryCache × ω} {a : α} :
    StateT.run (ExceptT.run (liftM answer : Exchange ω α)) s = (.ok a, t) ↔ answer = .ok a ∧ s = t := by
  rw [run_lift, Prod.mk.injEq]

theorem decode_eq_ok {server body : String} {read : String → Option α} {a : α} :
    decode server read body = .ok a ↔ read body = some a := by
  rw [decode]
  cases read body <;> simp

theorem run_request (net : Network ω) (server : String) (r : HttpRequest) (s : DiscoveryCache × ω) :
    StateT.run (request net server r).run s =
      (((net.send r).run s.2).1.body server r.url, s.1, ((net.send r).run s.2).2) :=
  rfl

end Exchange

/-! ### Operations -/

namespace Operation
variable {ω α β : Type}

/-- What an operation answers in a state, and the state it leaves. -/
def result (operation : Operation ω α) (s : Service ω) : Except ServiceError α × Service ω :=
  StateT.run (ExceptT.run operation) s

variable {s : Service ω}

@[simp] theorem result_get : (get : Operation ω (Service ω)).result s = (.ok s, s) := rfl

@[simp] theorem result_query (read : Database → Except ServiceError α) :
    (query read).result s = (read s.database, s) := rfl

theorem result_query_ok {read : Database → Except ServiceError α} {a : α} (h : read s.database = .ok a) :
    (query read : Operation ω α).result s = (.ok a, s) := by
  rw [result_query, h]

theorem result_query_error {read : Database → Except ServiceError α} {e : ServiceError}
    (h : read s.database = .error e) : (query read : Operation ω α).result s = (.error e, s) := by
  rw [result_query, h]

@[simp] theorem result_ask (question : StateM ω α) :
    (ask question).result s = (.ok (question.run s.world).1, { s with world := (question.run s.world).2 }) := rfl

theorem result_bind (operation : Operation ω α) (next : α → Operation ω β) :
    (operation >>= next).result s =
      match operation.result s with
      | (.ok a, t) => (next a).result t
      | (.error e, t) => (.error e, t) := by
  simp only [result, ExceptT.run_bind, StateT.run_bind]
  rcases StateT.run (ExceptT.run operation) s with ⟨_ | _, _⟩ <;> rfl

theorem result_bind_ok {operation : Operation ω α} {next : α → Operation ω β} {t : Service ω} {a : α}
    (h : operation.result s = (.ok a, t)) : (operation >>= next).result s = (next a).result t := by
  rw [result_bind, h]

theorem result_bind_error {operation : Operation ω α} {next : α → Operation ω β} {t : Service ω}
    {e : ServiceError} (h : operation.result s = (.error e, t)) :
    (operation >>= next).result s = (.error e, t) := by
  rw [result_bind, h]

theorem result_change_ok {write : Database → Except ServiceError (α × Database)} {a : α} {database : Database}
    (h : write s.database = .ok (a, database)) : (change write).result s = (.ok a, { s with database }) := by
  rw [change, result_bind_ok result_get, result_bind_ok (t := s) (a := (a, database))]
  · rfl
  · rw [← h]; rfl

theorem result_change_error {write : Database → Except ServiceError (α × Database)} {e : ServiceError}
    (h : write s.database = .error e) : (change write).result s = (.error e, s) := by
  rw [change, result_bind_ok result_get, result_bind_error (t := s) (e := e)]
  rw [← h]; rfl

@[simp] theorem result_federating_ok (a : α) :
    (federating (.ok a) : Operation ω α).result s = (.ok a, s) := rfl

@[simp] theorem result_federating_error (e : FederationError) :
    (federating (.error e) : Operation ω α).result s = (.error e.toServiceError, s) := rfl

@[simp] theorem result_identifying_ok (a : α) :
    (identifying (.ok a) : Operation ω α).result s = (.ok a, s) := rfl

end Operation

end IdentityServer
