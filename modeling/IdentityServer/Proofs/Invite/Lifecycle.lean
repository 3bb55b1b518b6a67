import IdentityServer.Proofs.Binding.Semantics
import IdentityServer.Proofs.Invite.AtMostOnce

/-! # The life of an invite

Passes come from binds and from retries; each one is for a single identifier, and between any two of them anything may
happen. However they follow one another, an invite that is stored waits until its one successful attempt or until it
has expired. -/

namespace IdentityServer
open Operation

/-! ### Requests leave the invites alone -/

namespace Binder
variable [SignatureScheme] {ω : Type}

theorem bind_database (settings : ServiceSettings) (now : Int64) (medium : Medium) (raw account : String)
    (validated : Bool) (s : Service ω) :
    ∃ associations, ((bind settings now medium raw account validated).result s).2.database =
      { s.database with associations } := by
  obtain ⟨e, hresult⟩ | ⟨address, sequence, database, -, -, hupsert, hresult⟩ :=
    bind_cases settings now medium raw account validated s
  · rw [hresult]
    exact ⟨_, rfl⟩
  · rw [hresult]
    exact ⟨_, (Database.upsert_ok hupsert).2.2⟩

theorem unbind_database (settings : ServiceSettings) (remote : Remote ω) (readings : UnbindReadings) (medium : Medium)
    (raw account : String) (claimed : ClaimedSignature) (s : Service ω) :
    ∃ associations, ((unbind settings remote readings medium raw account claimed).result s).2.database =
      { s.database with associations } := by
  obtain ⟨-, hdatabase⟩ | ⟨address, -, -, -, -, hdatabase⟩ :=
    unbind_writes settings remote readings medium raw account claimed s
  · exact ⟨_, hdatabase⟩
  · exact ⟨_, hdatabase⟩

end Binder

namespace Delivery
variable {ω : Type}

theorem pruneExpired_cases (settings : ServiceSettings) (now : Int64) (s : Service ω) :
    ((pruneExpired settings now).result s).2 = s ∨ ∃ validity, settings.validity = some validity ∧
      ((pruneExpired settings now).result s).2 = { s with database := { s.database with
        invites := (s.database.invites.pruneReceivedBefore (Text.saturatingSub now validity)).2 } } := by
  unfold pruneExpired
  split
  · rename_i validity hvalidity
    cases hprune : s.database.prune (Text.saturatingSub now validity) with
    | error e =>
      rw [result_change_error hprune]
      exact .inl rfl
    | ok pruned =>
      rw [result_change_ok hprune]
      obtain ⟨-, -, hpruned⟩ := bind_eq_ok.mp hprune
      cases hpruned
      exact .inr ⟨validity, hvalidity, rfl⟩
  · exact .inl rfl

end Delivery

/-! ### Runs -/

namespace Journal
open Delivery
variable [SignatureScheme] {ω : Type}

/-- What happens to a service. Whatever else may happen to it leaves the invites as they are. -/
inductive Event (ω : Type) where
  | store (identifier : Identifier) (room sender token : String) (now : Int64)
  | bind (now : Int64) (medium : Medium) (raw account : String) (validated : Bool)
  | unbind (remote : Remote ω) (readings : UnbindReadings) (medium : Medium) (raw account : String)
    (claimed : ClaimedSignature)
  /-- A pass that a bind has scheduled. -/
  | scheduled (remote : Remote ω) (readings : PassReadings) (identifier : Identifier)
  | prune (now : Int64)
  /-- A pass of a retry. -/
  | pass (remote : Remote ω) (readings : PassReadings) (identifier : Identifier)
  | elsewhere (service : Service ω) (records : service.database.Records)

namespace Event

/-- The service after an event. -/
def after (settings : ServiceSettings) (s : Service ω) : Event ω → Service ω
  | .store identifier room sender token now =>
    match s.database.storeInvite identifier room sender token now with
    | .ok (_, database) => { s with database }
    | .error _ => s
  | .bind now medium raw account validated => ((Binder.bind settings now medium raw account validated).result s).2
  | .unbind remote readings medium raw account claimed =>
    ((Binder.unbind settings remote readings medium raw account claimed).result s).2
  | .scheduled remote readings identifier => ((deliverNext settings remote readings identifier).result s).2
  | .prune now => ((pruneExpired settings now).result s).2
  | .pass remote readings identifier => ((deliverPending settings remote readings identifier).result s).2
  | .elsewhere t _ => { t with database := { t.database with invites := s.database.invites } }

/-- The attempts of an event. -/
def attempts (settings : ServiceSettings) (s : Service ω) : Event ω → List (Attempt ω)
  | .scheduled remote readings identifier | .pass remote readings identifier =>
    passAttempts settings remote readings identifier s
  | _ => []

end Event

def step (settings : ServiceSettings) (j : Journal ω) (event : Event ω) : Journal ω where
  service := event.after settings j.service
  attempts := j.attempts ++ event.attempts settings j.service

def run (settings : ServiceSettings) (j : Journal ω) (events : List (Event ω)) : Journal ω :=
  events.foldl (step settings) j

variable {settings : ServiceSettings} {j : Journal ω}

theorem run_service (events : List (Event ω)) :
    (j.run settings events).service = events.foldl (Event.after settings) j.service := by
  induction events generalizing j with
  | nil => rfl
  | cons event rest ih => exact ih

/-! ### Passes -/

/-- A drain makes the passes that are scheduled. -/
theorem drain_eq (settings : ServiceSettings) (remote : Remote ω) (readings : Nat → PassReadings) (s : Service ω) :
    ((drain settings remote readings).result s).2 =
      (s.deliveries.zipIdx.map fun entry => Event.scheduled remote (readings entry.2) entry.1).foldl
        (Event.after settings) s := by
  unfold drain
  rw [result_bind_ok result_get]
  generalize s.deliveries.zipIdx = entries
  induction entries generalizing s with
  | nil => rfl
  | cons entry rest ih =>
    have first : (deliverNext settings remote (readings entry.2) entry.1).result s =
        (.ok (), Event.after settings s (.scheduled remote (readings entry.2) entry.1)) := rfl
    exact (congrArg Prod.snd (result_bind_ok first)).trans (ih _)

theorem result_retryIdentifier (settings : ServiceSettings) (remote : Remote ω) (readings : Identifier → PassReadings)
    (report : RetryReport) (entry : Identifier × Nat) (s : Service ω) :
    ((retryIdentifier settings remote readings report entry).result s).2 =
      Event.after settings s (.pass remote (readings entry.1) entry.1) := by
  have same : Event.after settings s (.pass remote (readings entry.1) entry.1) =
      ((deliverPending settings remote (readings entry.1) entry.1).result s).2 := rfl
  unfold retryIdentifier
  rw [same, result_bind]
  generalize (deliverPending settings remote (readings entry.1) entry.1).result s = result
  obtain ⟨answer, t⟩ := result
  cases answer with
  | error e => rfl
  | ok delivered => cases delivered <;> rfl

theorem passes_eq (settings : ServiceSettings) (remote : Remote ω) (readings : Identifier → PassReadings)
    (entries : List (Identifier × Nat)) (report : RetryReport) (s : Service ω) :
    ∃ identifiers : List Identifier, ((entries.foldlM (retryIdentifier settings remote readings) report).result s).2 =
      (identifiers.map fun i => Event.pass remote (readings i) i).foldl (Event.after settings) s := by
  induction entries generalizing report s with
  | nil => exact ⟨[], rfl⟩
  | cons entry rest ih =>
    have first := result_retryIdentifier settings remote readings report entry s
    rw [List.foldlM_cons, result_bind]
    generalize (retryIdentifier settings remote readings report entry).result s = result at first ⊢
    obtain ⟨answer, t⟩ := result
    cases answer with
    | error e => exact ⟨[entry.1], first⟩
    | ok report =>
      obtain rfl : t = _ := first
      obtain ⟨identifiers, hrest⟩ := ih report _
      exact ⟨entry.1 :: identifiers, hrest⟩

/-- A retry prunes and then makes one pass after the other, until one fails. -/
theorem retry_eq (settings : ServiceSettings) (remote : Remote ω) (readings : RetryReadings) (s : Service ω) :
    ∃ identifiers : List Identifier, ((retry settings remote readings).result s).2 =
      (Event.prune readings.pruned :: identifiers.map fun i => Event.pass remote (readings.pass i) i).foldl
        (Event.after settings) s := by
  have first : ((pruneExpired settings readings.pruned).result s).2 =
      Event.after settings s (.prune readings.pruned) := rfl
  unfold retry
  rw [result_bind]
  generalize (pruneExpired settings readings.pruned).result s = result at first ⊢
  obtain ⟨answer, t⟩ := result
  cases answer with
  | error e => exact ⟨[], first⟩
  | ok pruned =>
    dsimp only
    rw [result_bind, result_query]
    cases t.database.undelivered retryPage with
    | error e => exact ⟨[], first⟩
    | ok tokens =>
      obtain rfl : t = _ := first
      obtain ⟨identifiers, hpasses⟩ := passes_eq settings remote readings.pass (byIdentifier tokens) { pruned } _
      exact ⟨identifiers, hpasses⟩

/-- What an event does to the invites: it makes attempts, or no invite is delivered, and one that is lost was pruned. -/
inductive Does (settings : ServiceSettings) (s : Service ω) (event : Event ω) : Prop
  | delivers (u : Service ω) (leads : Leads settings s (event.attempts settings s) u)
    (proper : ∀ a ∈ event.attempts settings s, a.Proper settings)
    (database : (event.after settings s).database = u.database)
  | follows (idle : event.attempts settings s = []) (records : (event.after settings s).database.Records)
    (follows : (event.after settings s).database.invites.Follows s.database.invites)
    (lost : ∀ t ∈ s.database.invites.rows, t ∈ (event.after settings s).database.invites.rows ∨
      (t.sentAt = none ∧ ∃ now, event = .prune now ∧ t.isExpired settings.validity now = true))

theorem does_same {s : Service ω} {event : Event ω} (records : (event.after settings s).database.Records)
    (ordered : s.database.invites.Ordered) (idle : event.attempts settings s = [])
    (same : (event.after settings s).database.invites = s.database.invites) : Does settings s event := by
  refine .follows idle records ?_ fun t ht => .inl ?_
  · rw [same]
    exact ordered.follows
  · rwa [same]

theorem does_log {s : Service ω} {event : Event ω} {associations : AssociationLog} (records : s.database.Records)
    (ordered : s.database.invites.Ordered) (idle : event.attempts settings s = [])
    (log : (event.after settings s).database = { s.database with associations }) : Does settings s event := by
  refine does_same ?_ ordered idle ?_
  · rw [log]
    exact ⟨records.mark, records.delete⟩
  · rw [log]

theorem does (settings : ServiceSettings) {s : Service ω} (records : s.database.Records)
    (ordered : s.database.invites.Ordered) (event : Event ω) : Does settings s event := by
  cases event with
  | store identifier room sender token now =>
    cases hstore : s.database.storeInvite identifier room sender token now with
    | error e =>
      have unchanged : Event.after settings s (.store identifier room sender token now) = s := by
        simp only [Event.after, hstore]
      exact does_same (by rwa [unchanged]) ordered rfl (by rw [unchanged])
    | ok stored =>
      obtain ⟨t, database⟩ := stored
      obtain ⟨numbers, ht, hdatabase⟩ := Database.storeInvite_ok hstore
      have hafter : (Event.after settings s (.store identifier room sender token now)).database = database := by
        simp only [Event.after, hstore]
      refine .follows rfl ?_ ?_ fun r hr => .inl ?_
      · rw [hafter, hdatabase]
        exact ⟨records.mark, records.delete⟩
      · rw [hafter, hdatabase]
        exact ordered.stored numbers (congrArg InviteToken.id ht) (congrArg InviteToken.sentAt ht)
      · rw [hafter, hdatabase]
        exact List.mem_append_left _ hr
  | bind now medium raw account validated =>
    obtain ⟨associations, hdatabase⟩ := Binder.bind_database settings now medium raw account validated s
    exact does_log records ordered rfl hdatabase
  | unbind remote readings medium raw account claimed =>
    obtain ⟨associations, hdatabase⟩ := Binder.unbind_database settings remote readings medium raw account claimed s
    exact does_log records ordered rfl hdatabase
  | scheduled remote readings identifier =>
    exact .delivers _ (leads_passAttempts records) (proper_passAttempts records ordered) rfl
  | prune now =>
    obtain unchanged | ⟨validity, hvalidity, hpruned⟩ := pruneExpired_cases settings now s
    · exact does_same (by rwa [Event.after, unchanged]) ordered rfl (by rw [Event.after, unchanged])
    · refine .follows rfl ?_ ?_ fun t ht => ?_
      · rw [Event.after, hpruned]
        exact ⟨records.mark, records.delete⟩
      · rw [Event.after, hpruned]
        exact ordered.pruned _
      · rw [Event.after, hpruned, hvalidity]
        by_cases expired : InviteTable.isPruned (Text.saturatingSub now validity) t = true
        · obtain ⟨waiting, overdue⟩ := InviteToken.isExpired_of_pruned expired
          exact .inr ⟨waiting, now, rfl, overdue⟩
        · exact .inl (List.mem_filter.mpr ⟨ht, by simpa using expired⟩)
  | pass remote readings identifier =>
    exact .delivers _ (leads_passAttempts records) (proper_passAttempts records ordered) rfl
  | elsewhere t recordsElsewhere =>
    exact does_same ⟨recordsElsewhere.mark, recordsElsewhere.delete⟩ ordered rfl rfl

theorem Tracked.step (h : j.Tracked settings) (event : Event ω) : (j.step settings event).Tracked settings := by
  obtain ⟨u, leads, proper, database⟩ | ⟨idle, records, follows, -⟩ := does settings h.records h.ordered event
  · have tracked := h.leads leads proper
    refine tracked.follows (database ▸ tracked.records) ?_
    rw [database]
    exact tracked.ordered.follows
  · unfold Journal.step
    rw [idle, List.append_nil]
    exact h.follows records follows

theorem Tracked.run (h : j.Tracked settings) (events : List (Event ω)) : (j.run settings events).Tracked settings := by
  induction events generalizing j with
  | nil => exact h
  | cons event rest ih => exact ih (h.step event)

/-- An invite stays as it is until its successful attempt, or until it is pruned. -/
theorem Tracked.fate (h : j.Tracked settings) (event : Event ω) :
    ∀ t ∈ j.table.rows, t ∈ (j.step settings event).table.rows ∨
      (∃ a ∈ event.attempts settings j.service, a.succeeded = true ∧ a.token = t) ∨
      (t.sentAt = none ∧ ∃ now, event = .prune now ∧ t.isExpired settings.validity now = true) := by
  obtain ⟨u, leads, proper, database⟩ | ⟨-, -, -, lost⟩ := does settings h.records h.ordered event
  · intro t ht
    obtain ht | delivered := h.kept_or_delivered leads proper t ht
    · refine .inl ?_
      rw [table, Journal.step, database]
      exact ht
    · exact .inr (.inl delivered)
  · intro t ht
    exact (lost t ht).imp id .inr

theorem mem_run_attempts {a : Attempt ω} (ha : a ∈ j.attempts) (events : List (Event ω)) :
    a ∈ (j.run settings events).attempts := by
  induction events generalizing j with
  | nil => exact ha
  | cons event rest ih => exact ih (List.mem_append_left _ ha)

/-- A mark is there to stay. -/
theorem Tracked.lasts (h : j.Tracked settings) (events : List (Event ω)) {t : InviteToken} (ht : t ∈ j.table.rows)
    (sent : t.sentAt ≠ none) : t ∈ (j.run settings events).table.rows := by
  obtain ⟨a, ha, succeeded, rfl⟩ := h.stamped t ht sent
  have before := h.settled a ha succeeded
  have afterwards := (h.run events).settled a (mem_run_attempts ha events) succeeded
  unfold Attempt.Settled at before afterwards
  split at before
  · exact absurd rfl (before { a.token with sentAt := some a.sentAt } ht)
  · rename_i keeps
    rwa [if_neg keeps] at afterwards

/-- Whatever happens to a service that stores invites from nothing, its drains and retries are runs of passes, and
    passes are attempts. No two of the attempts succeed for the same invite. Each attempt is for a valid invite that
    waits, tells of it to the account that its identifier is bound to at that moment, and changes nothing if it fails;
    if it succeeds, then the invite is gone for good, or marked with the time for good. No other invite is marked, and
    no other one goes away unless it has expired. -/
theorem invites_delivered_once (settings : ServiceSettings) (service : Service ω) (records : service.database.Records)
    (events : List (Event ω)) :
    let j := (start service).run settings events
    (∀ remote readings, ((drain settings remote readings).result j.service).2 = (j.run settings
      (j.service.deliveries.zipIdx.map fun entry => .scheduled remote (readings entry.2) entry.1)).service) ∧
    (∀ remote readings, ∃ identifiers : List Identifier, ((retry settings remote readings).result j.service).2 =
      (j.run settings (.prune readings.pruned :: identifiers.map fun i => .pass remote (readings.pass i) i)).service) ∧
    (∀ remote readings identifier, Leads settings j.service
      (passAttempts settings remote readings identifier j.service)
      ((deliverPending settings remote readings identifier).result j.service).2) ∧
    ((j.attempts.filter Attempt.succeeded).map fun a => a.token.id).Nodup ∧
    (∀ a ∈ j.attempts, a.token ∈ a.before.database.invites.rows ∧ a.token.sentAt = none ∧
      a.token.isExpired settings.validity a.readings.begun = false ∧
      (∃ association, a.before.database.getActive a.token.identifier a.readings.bound = .ok (some association) ∧
        a.notice = ⟨a.token.medium, a.token.address, association.account, a.token.room, a.token.sender,
          a.token.token⟩) ∧
      (a.succeeded = false → a.after settings = { a.before with world := a.asked.2 }) ∧
      (a.succeeded = true → a.Settled settings j.table)) ∧
    (∀ t ∈ j.table.rows, t.sentAt ≠ none →
      (∃ a ∈ j.attempts, a.succeeded = true ∧ t = { a.token with sentAt := some a.sentAt }) ∧
      ∀ more, t ∈ (j.run settings more).table.rows) ∧
    ∀ event, ∀ t ∈ j.table.rows, t ∈ (j.step settings event).table.rows ∨
      (∃ a ∈ event.attempts settings j.service, a.succeeded = true ∧ a.token = t) ∨
      (t.sentAt = none ∧ ∃ now, event = .prune now ∧ t.isExpired settings.validity now = true) := by
  intro j
  have tracked : j.Tracked settings := (tracked_start records).run events
  refine ⟨fun remote readings => ?_, fun remote readings => ?_,
    fun remote readings identifier => leads_passAttempts tracked.records, tracked.once, fun a ha => ?_,
    fun t ht sent => ⟨tracked.stamped t ht sent, fun more => tracked.lasts more ht sent⟩, tracked.fate⟩
  · exact (drain_eq settings remote readings j.service).trans (run_service _).symm
  · obtain ⟨identifiers, hretry⟩ := retry_eq settings remote readings j.service
    exact ⟨identifiers, hretry.trans (run_service _).symm⟩
  · have proper := tracked.proper a ha
    obtain ⟨association, hactive, haccount⟩ := proper.bound
    refine ⟨proper.stored, proper.waiting, proper.valid, ⟨association, hactive, ?_⟩, proper.after_failed,
      tracked.settled a ha⟩
    rw [haccount]
    rfl

/-- Refuses its first request. -/
def reluctant : Remote Nat where
  deliver _ _ := do
    let requests ← getModify (· + 1)
    return if requests = 0 then .error .invalidSignature else .ok ()
  push _ _ _ := pure (.ok ⟨0⟩)
  owns _ _ _ _ := pure true

omit [SignatureScheme] in
/-- A first attempt fails, a second one leaves a mark, and then there is nothing to do. -/
theorem invites_delivered_once_retried :
    let _ : SignatureScheme := .transparent
    let settings : ServiceSettings := ⟨"id.example.org", some 1000, false, some 500, 500⟩
    let service : Service Nat := ⟨{}, ⟨.zeros, .empty, .empty⟩, [], {}, 0⟩
    let john : Identifier := ⟨.email, "john@example.com"⟩
    let events : List (Event Nat) := [.store john "!room:a.org" "@jane:a.org" "secret" 0,
      .bind 10 .email "John@example.com" "@john:a.org" true, .scheduled reluctant (.fixed 10) john, .prune 20,
      .pass reluctant (.fixed 20) john, .pass reluctant (.fixed 30) john]
    let j := (start service).run settings events
    j.attempts.map (·.succeeded) = [false, true] ∧ j.table.rows.map (·.sentAt) = [some 20] ∧
    ((j.attempts.filter Attempt.succeeded).map fun a => a.token.id).Nodup ∧
    ∀ t ∈ j.table.rows, t.sentAt ≠ none → ∀ more, t ∈ (j.run settings more).table.rows := by
  intro scheme settings service john events j
  obtain ⟨-, -, -, once, -, marked, -⟩ := invites_delivered_once settings service ⟨rfl, rfl⟩ events
  refine ⟨by decide +kernel +zetaReduce, by decide +kernel +zetaReduce, once, fun t ht sent => ?_⟩
  exact (marked t ht sent).2

end Journal

end IdentityServer
