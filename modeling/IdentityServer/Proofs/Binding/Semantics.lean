import IdentityServer.Clock
import IdentityServer.Proofs.Binding.Results
import IdentityServer.Proofs.Invite.Frame
import IdentityServer.Proofs.Store.Lookup
import IdentityServer.Proofs.Text.Integer

/-! # Who is bound

What a look-up answers, in terms of the binds and unbinds that took effect: the last one of the identifier
decides, if it was a bind and the time lies in its span. What carries this through a run is that the log records
exactly the effects, in their order. -/

namespace IdentityServer

/-- A bind or unbind that took effect: the association that the bind returned, or the identifier that was
    unbound. -/
inductive Effect where
  | bound (association : Association)
  | unbound (identifier : Identifier)

namespace Effect

def identifier : Effect → Identifier
  | .bound a => ⟨a.medium, a.address⟩
  | .unbound identifier => identifier

def last? (identifier : Identifier) (effects : List Effect) : Option Effect :=
  effects.reverse.find? (·.identifier = identifier)

variable {effects : List Effect} {e : Effect} {identifier : Identifier}

theorem last?_append :
    last? identifier (effects ++ [e]) = if e.identifier = identifier then some e else last? identifier effects := by
  rw [last?, List.reverse_concat, List.find?_cons, ← last?]
  by_cases h : e.identifier = identifier <;> simp [h]

end Effect

/-- The effect that an entry of the log records. -/
def Change.effect : Change → Effect
  | .bound a => .bound a
  | .tombstone t => .unbound ⟨t.medium, t.address⟩

theorem Change.effect_identifier (c : Change) : c.effect.identifier = c.identifier := by
  cases c <;> rfl

theorem replay_eq_some_iff {changes : List Change} {identifier : Identifier} {a : Association} :
    replay changes identifier = some a ↔ Effect.last? identifier (changes.map Change.effect) = some (.bound a) := by
  -- From the end: the last entry of the identifier decides on both sides.
  induction changes using List.reverseRecOn with
  | nil => simp [replay, Effect.last?]
  | append_singleton changes c ih =>
    rw [replay, List.foldl_append, ← replay, List.map_append, List.map_singleton, Effect.last?_append,
      c.effect_identifier]
    by_cases h : c.identifier = identifier
    · cases c with
      | bound b => simp [Change.replayOn, Change.effect, h]
      | tombstone t => simp [Change.replayOn, Change.effect, h]
    · rw [if_neg h, ← ih]
      simp [Change.replayOn, Ne.symm h]

/-! ### Requests -/

namespace Binder
open AssociationLog
variable [SignatureScheme] {ω : Type} {settings : ServiceSettings} {remote : Remote ω} {readings : UnbindReadings}
  {medium : Medium} {raw account address : String} {claimed : ClaimedSignature} {s t : Service ω}

def tombstoneRow (settings : ServiceSettings) (s : Service ω) (medium : Medium) (address account : String)
    (made : Int64) : NewAssociation :=
  { (tombstone s.ring.current settings.serverName medium address account made).toRow with medium, address }

/-- A removal changes no table, or it answers that it removed the binding of its owner and puts a tombstone into
    the log. -/
theorem removal_cases (settings : ServiceSettings) (medium : Medium) (address account : String)
    (readings : UnbindReadings) (s : Service ω) :
    ((removal settings medium address account readings s).1 ≠ .ok .removed ∧
      (removal settings medium address account readings s).2.database = s.database) ∨
    ((removal settings medium address account readings s).1 = .ok .removed ∧
      s.database.associations.last ≠ Int64.maxValue ∧ s.database.Removable ⟨medium, address⟩ account readings.removed ∧
      (removal settings medium address account readings s).2.database = { s.database with associations :=
        (s.database.associations.put (removes ⟨medium, address⟩ account readings.removed)
          (tombstoneRow settings s medium address account readings.made) true) }) := by
  unfold removal
  split
  · rename_i database hdelete
    rcases Database.delete_ok hdelete with ⟨hfound, -⟩ | ⟨-, room, found, rfl⟩
    · cases hfound
    · exact .inr ⟨rfl, room, found, rfl⟩
  · rename_i database hdelete
    rcases Database.delete_ok hdelete with ⟨-, rfl⟩ | ⟨hfound, -⟩
    · exact .inl ⟨nofun, rfl⟩
    · cases hfound
  · exact .inl ⟨nofun, rfl⟩

theorem removal_removed_iff :
    (removal settings medium address account readings s).1 = .ok .removed ↔
      s.database.Removable ⟨medium, address⟩ account readings.removed ∧ s.database.available .delete = .ok () ∧
        s.database.associations.last ≠ Int64.maxValue := by
  rw [← @Database.delete_removes_iff _ _ _ (tombstone s.ring.current settings.serverName medium address account readings.made)]
  unfold removal
  split <;> simp_all

theorem removal_notFound_iff :
    (removal settings medium address account readings s).1 = .ok .notFound ↔
      ¬s.database.Removable ⟨medium, address⟩ account readings.removed ∧ s.database.available .delete = .ok () := by
  rw [← @Database.delete_misses_iff _ _ _ (tombstone s.ring.current settings.serverName medium address account readings.made)]
  unfold removal
  split <;> simp_all

/-- A request to unbind that names an account and an address and is proven. -/
structure Authorized (settings : ServiceSettings) (remote : Remote ω) (proved : Int64) (medium : Medium)
    (raw account : String) (claimed : ClaimedSignature) (s : Service ω) (address : String) : Prop where
  valid : Account.validate account = .ok ()
  canonical : Address.canonicalize medium raw = .ok address
  proven : ((remote.owns account claimed (SignedRequest.unbind claimed.origin settings.serverName account medium
    raw).signedText proved).run s.world).1 = true

theorem Authorized.result (h : Authorized settings remote readings.proved medium raw account claimed s address) :
    ∃ world, (unbind settings remote readings medium raw account claimed).result s =
      removal settings medium address account readings { s with world } := by
  have hproven : (remote.owns account claimed (SignedRequest.unbind claimed.origin settings.serverName account medium
      raw).signedText readings.proved).run s.world = (true, _) := Prod.ext h.proven rfl
  exact ⟨_, result_unbind h.valid h.canonical hproven⟩

theorem unbind_writes (settings : ServiceSettings) (remote : Remote ω) (readings : UnbindReadings) (medium : Medium)
    (raw account : String) (claimed : ClaimedSignature) (s : Service ω) :
    (((unbind settings remote readings medium raw account claimed).result s).1 ≠ .ok .removed ∧
      ((unbind settings remote readings medium raw account claimed).result s).2.database = s.database) ∨
    ∃ address, Address.canonicalize medium raw = .ok address ∧
      ((unbind settings remote readings medium raw account claimed).result s).1 = .ok .removed ∧
      s.database.associations.last ≠ Int64.maxValue ∧ s.database.Removable ⟨medium, address⟩ account readings.removed ∧
      ((unbind settings remote readings medium raw account claimed).result s).2.database = { s.database with associations :=
        (s.database.associations.put (removes ⟨medium, address⟩ account readings.removed)
          (tombstoneRow settings s medium address account readings.made) true) } := by
  obtain ⟨fault, -, hresult⟩ | ⟨address, proven, world, -, haddress, -, hresult⟩ :=
    unbind_cases settings remote readings medium raw account claimed s
  · rw [hresult]
    exact .inl ⟨nofun, rfl⟩
  · rw [hresult]
    cases proven with
    | false => exact .inl ⟨nofun, rfl⟩
    | true =>
      rcases removal_cases settings medium address account readings { s with world } with unchanged | removed
      · exact .inl unchanged
      · exact .inr ⟨address, haddress, removed⟩

end Binder

/-! ### Runs -/

/-- A service and, in their order, the binds and unbinds that took effect. -/
structure Ledger (ω : Type) where
  service : Service ω
  effects : List Effect

namespace Ledger

section Runs
variable [SignatureScheme] {ω : Type}

/-- What happens to a service. Whatever else may happen to it between requests leaves the log as it is: outages
    begin and end, keys are rotated, invites are stored, the world moves on. -/
inductive Event (ω : Type) where
  | bind (now : Int64) (medium : Medium) (raw account : String) (validated : Bool)
  | unbind (remote : Remote ω) (readings : UnbindReadings) (medium : Medium) (raw account : String)
    (claimed : ClaimedSignature)
  | retry (remote : Remote ω) (readings : RetryReadings)
  | drain (remote : Remote ω) (readings : Nat → PassReadings)
  | elsewhere (service : Service ω)

namespace Event

/-- The identifier that a request is about. -/
def about? : Event ω → Option Identifier
  | .bind _ medium raw _ _ | .unbind _ _ medium raw _ _ =>
    (Address.canonicalize medium raw).toOption.map (Identifier.mk medium)
  | _ => none

/-- The service after an event. -/
def after (settings : ServiceSettings) (s : Service ω) : Event ω → Service ω
  | .bind now medium raw account validated => ((Binder.bind settings now medium raw account validated).result s).2
  | .unbind remote readings medium raw account claimed =>
    ((Binder.unbind settings remote readings medium raw account claimed).result s).2
  | .retry remote readings => ((Delivery.retry settings remote readings).result s).2
  | .drain remote readings => ((Delivery.drain settings remote readings).result s).2
  | .elsewhere t => { t with database := { t.database with associations := s.database.associations } }

/-- The effect of an event: a bind takes effect if it answers with an association, an unbind if it answers that
    the binding was removed. -/
def effect? (settings : ServiceSettings) (s : Service ω) : Event ω → Option Effect
  | .bind now medium raw account validated =>
    match ((Binder.bind settings now medium raw account validated).result s).1 with
    | .ok a => some (.bound a)
    | .error _ => none
  | .unbind remote readings medium raw account claimed =>
    match ((Binder.unbind settings remote readings medium raw account claimed).result s).1 with
    | .ok .removed => (Event.unbind remote readings medium raw account claimed).about?.map .unbound
    | _ => none
  | _ => none

end Event

def start (service : Service ω) : Ledger ω where
  service := { service with database := { service.database with associations := {} } }
  effects := []

def step (settings : ServiceSettings) (s : Ledger ω) (event : Event ω) : Ledger ω where
  service := event.after settings s.service
  effects := s.effects ++ (event.effect? settings s.service).toList

def run (settings : ServiceSettings) (s : Ledger ω) (events : List (Event ω)) : Ledger ω :=
  events.foldl (step settings) s

def log (s : Ledger ω) : AssociationLog :=
  s.service.database.associations

/-- The log records the effects, in their order. -/
structure Recorded (s : Ledger ω) : Prop where
  sound : s.log.Sound
  effects : s.log.changes.map Change.effect = s.effects

omit [SignatureScheme] in
theorem recorded_start (service : Service ω) : (start service).Recorded :=
  ⟨AssociationLog.sound_empty, rfl⟩

variable {settings : ServiceSettings} {s : Ledger ω}

/-- What an event does to the log. -/
inductive Does (settings : ServiceSettings) (s : Ledger ω) (event : Event ω) : Prop
  | nothing (idle : event.effect? settings s.service = none) (unchanged : (s.step settings event).log = s.log)
  | record (e : Effect) (took : event.effect? settings s.service = some e) (about : event.about? = some e.identifier)
    (writes : AssociationLog.Writes s.log (s.step settings event).log)
    (last : (s.step settings event).log.changes.map Change.effect = s.log.changes.map Change.effect ++ [e])

theorem does (settings : ServiceSettings) (s : Ledger ω) (event : Event ω) : Does settings s event := by
  cases event with
  | bind now medium raw account validated =>
    obtain ⟨e, hresult⟩ | ⟨address, sequence, database, -, haddress, hupsert, hresult⟩ :=
      Binder.bind_cases settings now medium raw account validated s.service
    · refine .nothing ?_ ?_
      · simp only [Event.effect?, hresult]
      · simp only [log, step, Event.after, hresult]
    · have took : (Event.bind now medium raw account validated).effect? settings s.service = some (.bound
          { Binder.binding settings s.service.ring.current medium address account now with sequence }) := by
        simp only [Event.effect?, hresult]
      refine .record _ took ?_ ?_ ?_
      · simp only [Event.about?, haddress]
        rfl
      · simp only [log, step, Event.after, hresult]
        exact Database.writes_of_upsert hupsert
      · simp only [log, step, Event.after, hresult]
        obtain ⟨-, rfl, rfl⟩ := Database.upsert_ok hupsert
        rw [AssociationLog.put_changes, List.map_append]
        rfl
  | unbind remote readings medium raw account claimed =>
    obtain ⟨hanswer, hdatabase⟩ | ⟨address, haddress, hanswer, room, found, hdatabase⟩ :=
      Binder.unbind_writes settings remote readings medium raw account claimed s.service
    · refine .nothing ?_ (congrArg Database.associations hdatabase)
      simp only [Event.effect?]
    · have about : (Event.unbind remote readings medium raw account claimed).about? = some ⟨medium, address⟩ := by
        simp only [Event.about?, haddress]
        rfl
      refine .record (.unbound ⟨medium, address⟩) ?_ about ?_ ?_
      · simp only [Event.effect?, hanswer, about, Option.map_some]
      · simp only [log, step, Event.after, hdatabase]
        refine .removal _ _ room (fun r hr => ?_) found
        simp only [AssociationLog.removes, Bool.and_eq_true, decide_eq_true_eq] at hr
        exact hr.1.1
      · simp only [log, step, Event.after, hdatabase]
        rw [AssociationLog.put_changes, List.map_append]
        rfl
  | retry remote readings => exact .nothing rfl (Delivery.retry_keepsLog settings remote readings s.service)
  | drain remote readings => exact .nothing rfl (Delivery.drain_keepsLog settings remote readings s.service)
  | elsewhere service => exact .nothing rfl rfl

theorem Recorded.step (h : s.Recorded) (event : Event ω) : (s.step settings event).Recorded := by
  obtain ⟨idle, unchanged⟩ | ⟨e, took, -, writes, last⟩ := does settings s event
  · refine ⟨unchanged ▸ h.sound, ?_⟩
    rw [unchanged, h.effects, Ledger.step, idle]
    exact (List.append_nil _).symm
  · refine ⟨h.sound.writes writes, ?_⟩
    rw [last, h.effects, Ledger.step, took]
    rfl

theorem Recorded.run (h : s.Recorded) (events : List (Event ω)) : (s.run settings events).Recorded := by
  induction events generalizing s with
  | nil => exact h
  | cons event rest ih => exact ih (h.step event)

/-! ### Look-ups -/

def active (s : Ledger ω) (identifier : Identifier) (t : Int64) : Option Association :=
  s.log.getActive identifier t

omit [SignatureScheme] in
theorem Recorded.active_eq_some (h : s.Recorded) {identifier : Identifier} {t : Int64} {a : Association} :
    s.active identifier t = some a ↔ Effect.last? identifier s.effects = some (.bound a) ∧ a.Serves t := by
  rw [active, h.sound.getActive_eq_some, replay_eq_some_iff, h.effects]

theorem Recorded.active_step (h : s.Recorded) {event : Event ω} {identifier : Identifier}
    (other : event.about? ≠ some identifier ∨ event.effect? settings s.service = none) (t : Int64) :
    (s.step settings event).active identifier t = s.active identifier t := by
  -- The last effect on the identifier is the same before and after, and it decides.
  have same : Effect.last? identifier (s.step settings event).effects = Effect.last? identifier s.effects := by
    obtain ⟨idle, -⟩ | ⟨e, took, about, -, -⟩ := does settings s event
    · rw [Ledger.step, idle]
      simp
    · rw [Ledger.step, took, Option.toList_some, Effect.last?_append, if_neg]
      rintro rfl
      rcases other with other | other
      · exact other about
      · rw [took] at other
        cases other
  refine Option.ext fun a => ?_
  rw [(h.step event).active_eq_some, h.active_eq_some, same]

/-- A bind that has just answered is looked up at once if bindings do not end, or end later. -/
theorem Recorded.active_bind (h : s.Recorded) {now : Int64} {medium : Medium} {raw account : String} {validated : Bool}
    {a b : Association}
    (answer : ((Binder.bind settings now medium raw account validated).result s.service).1 = .ok a) :
    (s.step settings (.bind now medium raw account validated)).active ⟨a.medium, a.address⟩ now = some b ↔
      b = a ∧ ∀ lifetime ∈ settings.lifetime, 0 < lifetime ∧ now < Int64.maxValue := by
  have took : (Event.bind now medium raw account validated).effect? settings s.service = some (.bound a) := by
    simp only [Event.effect?, answer]
  have last : Effect.last? ⟨a.medium, a.address⟩ (s.step settings (.bind now medium raw account validated)).effects =
      some (.bound a) := by
    rw [Ledger.step, took, Option.toList_some, Effect.last?_append]
    exact if_pos rfl
  have span : a.notBefore = now ∧ a.notAfter = settings.lifetime.map (Text.saturatingAdd now) := by
    obtain ⟨e, hresult⟩ | ⟨address, sequence, database, -, -, -, hresult⟩ :=
      Binder.bind_cases settings now medium raw account validated s.service
    · rw [hresult] at answer
      cases answer
    · rw [hresult] at answer
      cases answer
      exact ⟨rfl, rfl⟩
  rw [(h.step _).active_eq_some, last, Option.some.injEq, Effect.bound.injEq, eq_comm]
  refine and_congr_right fun hb => ?_
  subst hb
  rw [Association.Serves, span.1, span.2]
  simp [Text.lt_saturatingAdd_iff]

omit [SignatureScheme] in
theorem Recorded.removable_iff (h : s.Recorded) {identifier : Identifier} {account : String} {now : Int64} :
    s.service.database.Removable identifier account now ↔
      ∃ a, Effect.last? identifier s.effects = some (.bound a) ∧ a.account = account ∧
        ∀ ending ∈ a.notAfter, now < ending := by
  refine h.sound.removes_iff.trans ?_
  simp only [replay_eq_some_iff, h.effects]

/-- Whatever requests a service with an empty log has answered: while the store is available, a look-up finds
    exactly the association that the last effect on the identifier bound, within its span. What is about other
    identifiers, and what has no effect, does not change that. A proven request to unbind is answered by whether
    the last effect bound the identifier to the same account and has not ended, unless the store refuses the
    removal. An association that was just bound is found at once, unless its lifetime is 0. The clock may have moved
    between the proof of a request, its tombstone and the removal. -/
theorem serves_last_bound (settings : ServiceSettings) (service : Service ω) (events : List (Event ω)) :
    let s := run settings (start service) events
    (∀ identifier t a, s.service.database.available .getActive = .ok () →
      (s.service.database.getActive identifier t = .ok (some a) ↔
        Effect.last? identifier s.effects = some (.bound a) ∧ a.notBefore ≤ t ∧ ∀ ending ∈ a.notAfter, t < ending)) ∧
    (∀ (event : Event ω) identifier, event.about? ≠ some identifier ∨ event.effect? settings s.service = none →
      ∀ t, (s.step settings event).active identifier t = s.active identifier t) ∧
    (∀ remote readings medium raw account claimed address,
      Binder.Authorized settings remote readings.proved medium raw account claimed s.service address →
      let answer := ((Binder.unbind settings remote readings medium raw account claimed).result s.service).1
      let bound := ∃ a, Effect.last? ⟨medium, address⟩ s.effects = some (.bound a) ∧ a.account = account ∧
        ∀ ending ∈ a.notAfter, readings.removed < ending
      (answer = .ok .removed ↔
        bound ∧ s.service.database.available .delete = .ok () ∧ s.log.last ≠ Int64.maxValue) ∧
      (answer = .ok .notFound ↔ ¬bound ∧ s.service.database.available .delete = .ok ())) ∧
    ∀ now medium raw account validated a,
      ((Binder.bind settings now medium raw account validated).result s.service).1 = .ok a →
      let after := s.step settings (.bind now medium raw account validated)
      (Clock.isReading now = true → (∀ lifetime ∈ settings.lifetime, 0 < lifetime) →
        after.active ⟨a.medium, a.address⟩ now = some a) ∧
      (settings.lifetime = some 0 → after.active ⟨a.medium, a.address⟩ now = none) := by
  intro s
  have recorded : s.Recorded := (recorded_start service).run events
  refine ⟨?_, fun event identifier other => recorded.active_step other, ?_, ?_⟩
  · intro identifier t a available
    rw [Database.getActive, available, bind_ok]
    refine Iff.trans ?_ recorded.active_eq_some
    exact ⟨Except.ok.inj, congrArg _⟩
  · intro remote readings medium raw account claimed address authorized answer bound
    obtain ⟨world, hresult⟩ := authorized.result
    have hbound : s.service.database.Removable ⟨medium, address⟩ account readings.removed ↔
        bound := recorded.removable_iff
    have hanswer : answer = (Binder.removal settings medium address account readings { s.service with world }).1 :=
      congrArg Prod.fst hresult
    rw [hanswer, ← hbound]
    exact ⟨Binder.removal_removed_iff, Binder.removal_notFound_iff⟩
  · intro now medium raw account validated a hbind after
    refine ⟨fun shown long => (recorded.active_bind hbind).mpr ⟨rfl, fun lifetime given =>
      ⟨long lifetime given, Clock.lt_maxValue shown⟩⟩, fun none_left => ?_⟩
    -- A lifetime of 0 ends the span where it begins.
    refine Option.eq_none_iff_forall_ne_some.mpr fun b hb => ?_
    have long := ((recorded.active_bind hbind).mp hb).2 0 none_left
    exact absurd long.1 (Int64.lt_irrefl)

end Runs

def fresh (outages : List (StoreOperation × String)) : Service Unit where
  database := { outages }
  ring := ⟨.zeros, .empty, .empty⟩
  deliveries := []
  wake := {}
  world := ()

def trusting : Remote Unit where
  deliver _ _ := pure (.ok ())
  push _ _ _ := pure (.ok ⟨0⟩)
  owns _ _ _ _ := pure true

def lasting (lifetime : Int64) : ServiceSettings :=
  ⟨"id.example.org", some lifetime, true, none, 500⟩

/-- A binding that superseded another one is found, kept when a bind is refused, replaced by the next one and
    removed for its account. Without a lifetime it is gone at once. -/
theorem serves_last_bound_superseded :
    let _ : SignatureScheme := .transparent
    let s := run (lasting 1000) (start (fresh [])) [.bind 0 .email "john@example.com" "@john:a.org" true,
      .bind 3 .email "John@example.com" "@jane:a.org" true]
    (∃ a, a.account = "@jane:a.org" ∧ s.service.database.getActive ⟨.email, "john@example.com"⟩ 5 = .ok (some a)) ∧
    (s.step (lasting 1000) (.bind 5 .email "john@example.com" "@john:a.org" false)).active
      ⟨.email, "john@example.com"⟩ 5 = s.active ⟨.email, "john@example.com"⟩ 5 ∧
    ((Binder.unbind (lasting 1000) trusting ⟨7, 6, 5⟩ .email "john@example.com" "@jane:a.org"
      ⟨"a.org", "ed25519:0", "AAAA"⟩).result s.service).1 = .ok .removed ∧
    (∃ a, (s.step (lasting 1000) (.bind 5 .email "john@example.com" "@john:a.org" true)).active
      ⟨.email, "john@example.com"⟩ 5 = some a) ∧
    (step (lasting 0) (start (fresh [])) (.bind 0 .email "john@example.com" "@john:a.org" true)).active
      ⟨.email, "john@example.com"⟩ 0 = none := by
  intro scheme s
  obtain ⟨looked_up, unaffected, answered, just_bound⟩ := serves_last_bound (lasting 1000) (fresh [])
    [.bind 0 .email "john@example.com" "@john:a.org" true, .bind 3 .email "John@example.com" "@jane:a.org" true]
  have readable : s.service.database.available .getActive = .ok () := rfl
  have writable : s.service.database.available .delete = .ok () := rfl
  have authorized : Binder.Authorized (lasting 1000) trusting 7 .email "john@example.com" "@jane:a.org"
      ⟨"a.org", "ed25519:0", "AAAA"⟩ s.service "john@example.com" := ⟨rfl, rfl, rfl⟩
  have open_span : ∀ ending ∈ some (1003 : Int64), 5 < ending := by
    rintro ending ⟨rfl⟩
    decide
  have long : ∀ lifetime ∈ (lasting 1000).lifetime, 0 < lifetime := by
    rintro lifetime ⟨rfl⟩
    decide
  refine ⟨⟨_, rfl, (looked_up _ 5 _ readable).mpr ⟨rfl, by decide, open_span⟩⟩, ?_, ?_, ?_, ?_⟩
  · exact unaffected _ _ (.inr rfl) 5
  · exact (answered _ ⟨7, 6, 5⟩ _ _ _ _ _ authorized).1.mpr ⟨⟨_, rfl, rfl, open_span⟩, writable, by decide +kernel⟩
  · exact ⟨_, (just_bound 5 .email "john@example.com" "@john:a.org" true _ rfl).1 (by decide) long⟩
  · obtain ⟨-, -, -, gone⟩ := serves_last_bound (lasting 0) (fresh []) []
    exact (gone 0 .email "john@example.com" "@john:a.org" true _ rfl).2 rfl

/-- A proven request to unbind what is bound is not answered while the store refuses the removal. -/
theorem unbind_refused :
    let _ : SignatureScheme := .transparent
    let s := run (lasting 1000) (start (fresh [(.delete, "database is locked")]))
      [.bind 0 .email "john@example.com" "@john:a.org" true]
    ∃ claimed a, Binder.Authorized (lasting 1000) trusting 1 .email "john@example.com" "@john:a.org" claimed s.service
        "john@example.com" ∧
      Effect.last? ⟨.email, "john@example.com"⟩ s.effects = some (.bound a) ∧ a.account = "@john:a.org" ∧
      a.notAfter = some 1000 ∧
      ((Binder.unbind (lasting 1000) trusting (.fixed 1) .email "john@example.com" "@john:a.org" claimed).result
        s.service).1 = .error (.transient "database is locked") :=
  ⟨⟨"a.org", "ed25519:0", "AAAA"⟩, _, ⟨rfl, rfl, rfl⟩, rfl, rfl, rfl, rfl⟩

end Ledger

end IdentityServer
