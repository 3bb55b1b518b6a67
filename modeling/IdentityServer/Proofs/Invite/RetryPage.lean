import IdentityServer.Proofs.Invite.Lifecycle

/-! # What a retry reaches

A retry looks at a page of the oldest waiting invites and makes a pass for each identifier among them. A pass attempts all
invites of its identifier, also those behind the page; an identifier that has no invite on the page is not reached, and
invites for identifiers that nobody binds stay on the page. -/

namespace IdentityServer

namespace Delivery

/-! ### Identifiers of a page -/

theorem mem_tally {identifier i : Identifier} {counts : List (Identifier × Nat)} :
    i ∈ (tally identifier counts).map (·.1) ↔ i = identifier ∨ i ∈ counts.map (·.1) := by
  induction counts with
  | nil => simp [tally]
  | cons entry rest ih =>
    obtain ⟨other, n⟩ := entry
    rw [tally]
    split
    · rename_i same
      simp [same]
    · split
      · simp
      · rw [List.map_cons, List.mem_cons, ih, List.map_cons, List.mem_cons]
        exact or_left_comm

theorem mem_byIdentifier {tokens : List InviteToken} {i : Identifier} :
    i ∈ (byIdentifier tokens).map (·.1) ↔ ∃ t ∈ tokens, t.identifier = i := by
  suffices ∀ counts, i ∈ (tokens.foldl (fun counts t => tally t.identifier counts) counts).map (·.1) ↔
      i ∈ counts.map (·.1) ∨ ∃ t ∈ tokens, t.identifier = i by
    simpa [byIdentifier] using this []
  induction tokens with
  | nil => simp
  | cons t rest ih =>
    intro counts
    rw [List.foldl_cons, ih, mem_tally, or_comm (a := i = t.identifier), or_assoc]
    simp [eq_comm]

end Delivery

/-- An invite that waits is on the page if fewer invites than it has room for have waited for longer. -/
theorem InviteTable.Ordered.mem_undelivered {table : InviteTable} (h : table.Ordered) {t : InviteToken}
    (ht : t ∈ table.rows) (waiting : t.sentAt = none) {limit : Nat}
    (before : table.rows.countP (fun r => !r.isDelivered && decide (r.id < t.id)) < limit) : t ∈ table.undelivered limit := by
  have stays : t ∈ table.rows.filter fun r => !r.isDelivered :=
    List.mem_filter.mpr ⟨ht, by simp [InviteToken.isDelivered, waiting]⟩
  -- The invites in front of `t` are those that have waited for longer, and they leave it a place.
  obtain ⟨front, rest, hsplit⟩ := List.append_of_mem stays
  have ascending := h.ascending.filter fun r => !r.isDelivered
  rw [hsplit] at ascending
  have older : ∀ r ∈ front, decide (r.id < t.id) = true := fun r hr =>
    decide_eq_true ((List.pairwise_append.mp ascending).2.2 r hr t List.mem_cons_self)
  have room : front.length < limit := by
    refine Nat.lt_of_le_of_lt ?_ before
    calc front.length = front.countP fun r => decide (r.id < t.id) := (List.countP_eq_length.mpr older).symm
      _ ≤ (front ++ t :: rest).countP fun r => decide (r.id < t.id) := by
        rw [List.countP_append]
        exact Nat.le_add_right ..
      _ = table.rows.countP fun r => !r.isDelivered && decide (r.id < t.id) := by
        rw [← hsplit, List.countP_filter]
        exact List.countP_congr fun r _ => by rw [Bool.and_comm]
  obtain ⟨space, hspace⟩ : ∃ space, limit = front.length + (space + 1) := ⟨limit - front.length - 1, by omega⟩
  rw [InviteTable.undelivered, hsplit, hspace, List.take_length_add_append, List.take_succ_cons]
  simp

/-! ### Frames -/

/-- One service follows another with the same keys, log and outages; an invite stays unless it was attempted. -/
structure Spares {ω : Type} (attempts : List (Attempt ω)) (s u : Service ω) : Prop where
  same : ∃ world invites, u = { s with world, database := { s.database with invites } }
  ordered : u.database.invites.Ordered
  stays : ∀ t ∈ s.database.invites.rows, (∀ a ∈ attempts, a.token ≠ t) → t ∈ u.database.invites.rows

variable {ω : Type} {settings : ServiceSettings} {s t u : Service ω}

theorem Spares.trans {first rest : List (Attempt ω)} (h : Spares first s t) (h' : Spares rest t u) :
    Spares (first ++ rest) s u := by
  obtain ⟨world, invites, rfl⟩ := h.same
  obtain ⟨world, invites, rfl⟩ := h'.same
  refine ⟨⟨_, _, rfl⟩, h'.ordered, fun t ht spared => ?_⟩
  obtain ⟨before, afterwards⟩ := List.forall_mem_append.mp spared
  exact h'.stays t (h.stays t ht before) afterwards

theorem Attempt.Proper.spares {a : Attempt ω} (h : a.Proper settings) (ordered : a.before.database.invites.Ordered) :
    Spares [a] a.before (a.after settings) := by
  have stays : ∀ t ∈ a.before.database.invites.rows, (∀ b ∈ [a], b.token ≠ t) →
      t ∈ (a.after settings).database.invites.rows := by
    intro t ht spared
    obtain ht | ⟨-, same⟩ := h.kept_or_delivered ordered t ht
    · exact ht
    · exact absurd same (spared a (List.mem_singleton_self a))
  cases hanswer : a.succeeded with
  | false =>
    rw [h.after_failed hanswer] at stays ⊢
    exact ⟨⟨_, _, rfl⟩, ordered, stays⟩
  | true =>
    rw [h.after_succeeded hanswer] at stays ⊢
    exact ⟨⟨_, _, rfl⟩, ordered.delivered _ _ _, stays⟩

theorem Leads.spares {attempts : List (Attempt ω)} (leads : Leads settings s attempts u)
    (proper : ∀ a ∈ attempts, a.Proper settings) (ordered : s.database.invites.Ordered) : Spares attempts s u := by
  induction attempts generalizing s with
  | nil =>
    obtain rfl := leads
    exact ⟨⟨_, _, rfl⟩, ordered, fun t ht _ => ht⟩
  | cons a rest ih =>
    obtain ⟨rfl, leads⟩ := leads
    obtain ⟨first, proper⟩ := List.forall_mem_cons.mp proper
    have spares := first.spares ordered
    exact spares.trans (ih leads proper spares.ordered)

namespace Journal
open Operation Delivery

/-- An invite that can be delivered when its identifier has its turn. -/
structure Eligible (settings : ServiceSettings) (readings : Identifier → PassReadings) (s : Service ω)
    (t : InviteToken) : Prop where
  stored : t ∈ s.database.invites.rows
  waiting : t.sentAt = none
  valid : t.isExpired settings.validity (readings t.identifier).begun = false
  bound : ∃ association, s.database.getActive t.identifier (readings t.identifier).bound = .ok (some association)

theorem Eligible.spared {readings : Identifier → PassReadings} {t : InviteToken} (h : Eligible settings readings s t)
    {attempts : List (Attempt ω)} (spares : Spares attempts s u) (spared : ∀ a ∈ attempts, a.token ≠ t) :
    Eligible settings readings u t := by
  obtain ⟨world, invites, rfl⟩ := spares.same
  exact ⟨spares.stays t h.stored spared, h.waiting, h.valid, h.bound⟩

/-- A pass for an identifier that is bound, if it is answered, attempts the invites that can be delivered. -/
theorem pass_attempts {remote : Remote ω} {readings : Identifier → PassReadings} {report result : RetryReport}
    {entry : Identifier × Nat}
    (answer : ((retryIdentifier settings remote readings report entry).result s).1 = .ok result) {t : InviteToken}
    (eligible : Eligible settings readings s t) :
    (∃ a ∈ passAttempts settings remote (readings entry.1) entry.1 s, a.token = t) ↔ t.identifier = entry.1 := by
  constructor
  · rintro ⟨a, ha, rfl⟩
    exact (mem_passAttempts ha).1
  · intro same
    obtain ⟨association, hactive⟩ := eligible.bound
    have valid := eligible.valid
    rw [same] at hactive valid
    have available : s.database.available .pending = .ok () := by
      unfold retryIdentifier deliverPending at answer
      rw [result_bind, result_bind, result_query, hactive] at answer
      cases hpending : s.database.available .pending with
      | ok => rfl
      | error e => simp [result_bind, Database.pending, hpending] at answer
    exact (exists_passAttempts_iff ⟨association, hactive⟩ available).mpr
      ⟨eligible.stored, same, eligible.waiting, valid⟩

variable [SignatureScheme]

/-- A pass tries nothing but invites of its identifier. -/
theorem pass_spares (settings : ServiceSettings) (records : s.database.Records) (ordered : s.database.invites.Ordered)
    (remote : Remote ω) (readings : PassReadings) (identifier : Identifier) :
    Spares (passAttempts settings remote readings identifier s) s
      (Event.after settings s (.pass remote readings identifier)) :=
  Leads.spares (leads_passAttempts records) (proper_passAttempts records ordered) ordered

/-- What was attempted before has no say in a run. -/
theorem run_recorded (events : List (Event ω)) (service : Service ω) (attempts : List (Attempt ω)) :
    run settings ⟨service, attempts⟩ events = ⟨(run settings ⟨service, []⟩ events).service,
      attempts ++ (run settings ⟨service, []⟩ events).attempts⟩ := by
  induction events generalizing service attempts with
  | nil => exact congrArg (Journal.mk service) (List.append_nil attempts).symm
  | cons event rest ih =>
    have recorded := ih (event.after settings service) (attempts ++ event.attempts settings service)
    have alone := ih (event.after settings service) ([] ++ event.attempts settings service)
    have first : ∀ attempts, run settings ⟨service, attempts⟩ (event :: rest) =
        run settings ⟨event.after settings service, attempts ++ event.attempts settings service⟩ rest := fun _ => rfl
    rw [first, first, recorded, alone, List.append_assoc, List.nil_append]

theorem run_cons (event : Event ω) (rest : List (Event ω)) (service : Service ω) :
    run settings ⟨service, []⟩ (event :: rest) = ⟨(run settings ⟨event.after settings service, []⟩ rest).service,
      event.attempts settings service ++ (run settings ⟨event.after settings service, []⟩ rest).attempts⟩ :=
  run_recorded rest (event.after settings service) (event.attempts settings service)

/-- Passes for identifiers, if all are answered, attempt the invites of these that can be delivered. -/
theorem passes_attempt {remote : Remote ω} {readings : Identifier → PassReadings} {entries : List (Identifier × Nat)}
    {report result : RetryReport} (records : s.database.Records) (ordered : s.database.invites.Ordered)
    (answer : ((entries.foldlM (retryIdentifier settings remote readings) report).result s).1 = .ok result) :
    let j := run settings ⟨s, []⟩ (entries.map fun entry => .pass remote (readings entry.1) entry.1)
    ((entries.foldlM (retryIdentifier settings remote readings) report).result s).2 = j.service ∧
    ∀ t, Eligible settings readings s t → ((∃ a ∈ j.attempts, a.token = t) ↔ t.identifier ∈ entries.map (·.1)) := by
  induction entries generalizing s report with
  | nil => exact ⟨rfl, fun t _ => by simp [run]⟩
  | cons entry rest ih =>
    have after := result_retryIdentifier settings remote readings report entry s
    have reaches : ∀ counted, ((retryIdentifier settings remote readings report entry).result s).1 = .ok counted →
        ∀ t, Eligible settings readings s t →
          ((∃ a ∈ passAttempts settings remote (readings entry.1) entry.1 s, a.token = t) ↔ t.identifier = entry.1) :=
      fun _ answer t eligible => pass_attempts answer eligible
    have spares := pass_spares settings records ordered remote (readings entry.1) entry.1
    rw [List.foldlM_cons, result_bind] at answer ⊢
    generalize (retryIdentifier settings remote readings report entry).result s = first at answer after reaches ⊢
    obtain ⟨_ | counted, v⟩ := first
    · cases answer
    · obtain rfl : v = _ := after
      obtain ⟨world, invites, hsame⟩ := spares.same
      have recordsAfter : (Event.after settings s (.pass remote (readings entry.1) entry.1)).database.Records := by
        rw [hsame]
        exact ⟨records.mark, records.delete⟩
      obtain ⟨service, attempted⟩ := ih recordsAfter spares.ordered answer
      rw [List.map_cons, run_cons]
      refine ⟨service, fun t eligible => ?_⟩
      simp only [Event.attempts, List.mem_append, or_and_right, exists_or, List.map_cons, List.mem_cons]
      have first := reaches counted rfl t eligible
      -- What the first pass does not try, it leaves to the passes that follow.
      by_cases tried : ∃ a ∈ passAttempts settings remote (readings entry.1) entry.1 s, a.token = t
      · exact iff_of_true (.inl tried) (.inl (first.mp tried))
      · have spared : ∀ a ∈ passAttempts settings remote (readings entry.1) entry.1 s, a.token ≠ t :=
          fun a ha same => tried ⟨a, ha, same⟩
        rw [or_iff_right tried, or_iff_right fun same => tried (first.mpr same)]
        exact attempted t (eligible.spared spares spared)

/-! ### Identifiers that nobody binds -/

/-- A pass for an identifier that is not bound does nothing. -/
theorem pass_unbound {remote : Remote ω} {readings : PassReadings} {identifier : Identifier}
    (unbound : s.database.getActive identifier readings.bound = .ok none) :
    Event.after settings s (.pass remote readings identifier) = s ∧
      passAttempts settings remote readings identifier s = [] := by
  constructor
  · rw [Event.after]
    unfold deliverPending
    rw [result_bind_ok (result_query_ok unbound)]
    rfl
  · simp only [passAttempts, unbound]

theorem passes_unbound (settings : ServiceSettings) (remote : Remote ω) {readings : Identifier → PassReadings}
    {identifiers : List Identifier}
    (unbound : ∀ identifier ∈ identifiers, s.database.getActive identifier (readings identifier).bound = .ok none) :
    run settings ⟨s, []⟩ (identifiers.map fun i => .pass remote (readings i) i) = ⟨s, []⟩ := by
  induction identifiers with
  | nil => rfl
  | cons identifier rest ih =>
    obtain ⟨first, rest⟩ := List.forall_mem_cons.mp unbound
    obtain ⟨same, idle⟩ := pass_unbound first
    have hstep : step settings ⟨s, []⟩ (.pass remote (readings identifier) identifier) = ⟨s, []⟩ := by
      rw [step, same, Event.attempts, idle]
      rfl
    rw [List.map_cons, run, List.foldl_cons, hstep]
    exact ih rest

/-! ### Retries -/

/-- The waiting invites that a retry looks at. -/
def page (settings : ServiceSettings) (now : Int64) (s : Service ω) : List InviteToken :=
  (Event.after settings s (.prune now)).database.invites.undelivered retryPage

/-- The passes of a retry, after it has pruned. -/
def retryEvents (settings : ServiceSettings) (remote : Remote ω) (readings : RetryReadings) (s : Service ω) :
    List (Event ω) :=
  .prune readings.pruned ::
    ((byIdentifier (page settings readings.pruned s)).map fun entry => .pass remote (readings.pass entry.1) entry.1)

omit [SignatureScheme] in
/-- Pruning changes the invites only, and none that can be delivered. -/
theorem prune_spares (settings : ServiceSettings) (now : Int64) (ordered : s.database.invites.Ordered) :
    ∃ invites, ((pruneExpired settings now).result s).2 = { s with database := { s.database with invites } } ∧
      invites.Ordered ∧ ∀ t ∈ s.database.invites.rows, t.isExpired settings.validity now = false → t ∈ invites.rows := by
  obtain unchanged | ⟨validity, hvalidity, hpruned⟩ := pruneExpired_cases settings now s
  · exact ⟨s.database.invites, unchanged, ordered, fun t ht _ => ht⟩
  · refine ⟨_, hpruned, ordered.filter _, fun t ht valid => List.mem_filter.mpr ⟨ht, ?_⟩⟩
    rw [Bool.not_eq_true', Bool.eq_false_iff]
    intro early
    obtain ⟨-, expired⟩ := InviteToken.isExpired_of_pruned early
    rw [hvalidity, expired] at valid
    cases valid

/-- A retry that is answered has made all its passes. -/
theorem retry_answered {remote : Remote ω} {readings : RetryReadings} {report : RetryReport}
    (answer : ((retry settings remote readings).result s).1 = .ok report) :
    ∃ counted, (retry settings remote readings).result s =
      ((byIdentifier (page settings readings.pruned s)).foldlM (retryIdentifier settings remote readings.pass)
        counted).result (Event.after settings s (.prune readings.pruned)) := by
  have pruned : ((pruneExpired settings readings.pruned).result s).2 =
      Event.after settings s (.prune readings.pruned) := rfl
  unfold retry at answer ⊢
  rw [result_bind] at answer ⊢
  generalize (pruneExpired settings readings.pruned).result s = first at answer pruned ⊢
  obtain ⟨_ | count, t⟩ := first
  · cases answer
  · obtain rfl : t = _ := pruned
    dsimp only at answer ⊢
    rw [result_bind, result_query] at answer ⊢
    cases hpage : (Event.after settings s (.prune readings.pruned)).database.undelivered retryPage with
    | error e =>
      rw [hpage] at answer
      cases answer
    | ok tokens =>
      obtain ⟨-, -, htokens⟩ := bind_eq_ok.mp hpage
      cases htokens
      exact ⟨_, rfl⟩

/-- A retry that is answered has made a pass for each identifier of an invite on its page. So an invite that is not
    pruned and can be delivered is attempted if and only if an invite of its identifier is on the page, as one is if the
    page has room for all invites that have waited for longer. If the identifiers on the page are not bound, then nothing
    is attempted, and the same invites are on the page of the next retry, until they are pruned. -/
theorem retry_attempts_page (settings : ServiceSettings) (remote : Remote ω) (readings : RetryReadings) {s : Service ω}
    (records : s.database.Records) (ordered : s.database.invites.Ordered) {report : RetryReport}
    (answer : ((retry settings remote readings).result s).1 = .ok report) :
    let pruned := Event.after settings s (.prune readings.pruned)
    let j := run settings ⟨s, []⟩ (retryEvents settings remote readings s)
    ((retry settings remote readings).result s).2 = j.service ∧
    (∀ t, t.isExpired settings.validity readings.pruned = false → Eligible settings readings.pass s t →
      ((∃ a ∈ j.attempts, a.token = t) ↔ ∃ r ∈ page settings readings.pruned s, r.identifier = t.identifier)) ∧
    (∀ t, t.isExpired settings.validity readings.pruned = false → Eligible settings readings.pass s t →
      pruned.database.invites.rows.countP (fun r => !r.isDelivered && decide (r.id < t.id)) < retryPage →
      ∃ a ∈ j.attempts, a.token = t) ∧
    ((∀ r ∈ page settings readings.pruned s,
        s.database.getActive r.identifier (readings.pass r.identifier).bound = .ok none) →
      j.attempts = [] ∧ j.service = pruned) := by
  intro pruned j
  obtain ⟨counted, hresult⟩ := retry_answered answer
  obtain ⟨invites, hinvites, hordered, spares⟩ := prune_spares settings readings.pruned ordered
  have hpruned : pruned = { s with database := { s.database with invites } } := hinvites
  have recordsThen : pruned.database.Records := by
    rw [hpruned]
    exact ⟨records.mark, records.delete⟩
  have orderedThen : pruned.database.invites.Ordered := by rwa [hpruned]
  have eligibleThen : ∀ t, t.isExpired settings.validity readings.pruned = false →
      Eligible settings readings.pass s t → Eligible settings readings.pass pruned t := by
    intro t kept eligible
    rw [hpruned]
    exact ⟨spares t eligible.stored kept, eligible.waiting, eligible.valid, eligible.bound⟩
  rw [hresult] at answer ⊢
  obtain ⟨service, attempted⟩ := passes_attempt recordsThen orderedThen answer
  have hrun : j = run settings ⟨pruned, []⟩ _ := run_cons (.prune readings.pruned) _ s
  have reaches : ∀ t, t.isExpired settings.validity readings.pruned = false → Eligible settings readings.pass s t →
      ((∃ a ∈ j.attempts, a.token = t) ↔ ∃ r ∈ page settings readings.pruned s, r.identifier = t.identifier) := by
    intro t kept eligible
    rw [hrun, ← mem_byIdentifier]
    exact attempted t (eligibleThen t kept eligible)
  refine ⟨hrun ▸ service, reaches, fun t kept eligible before => (reaches t kept eligible).mpr ⟨t, ?_, rfl⟩,
    fun unbound => ?_⟩
  · exact orderedThen.mem_undelivered (eligibleThen t kept eligible).stored eligible.waiting before
  · have unboundThen : ∀ identifier ∈ (byIdentifier (page settings readings.pruned s)).map (·.1),
        pruned.database.getActive identifier (readings.pass identifier).bound = .ok none := by
      intro identifier hidentifier
      obtain ⟨r, hr, rfl⟩ := mem_byIdentifier.mp hidentifier
      rw [hpruned]
      exact unbound r hr
    have idle := passes_unbound settings remote unboundThen
    rw [List.map_map] at idle
    have hidle : j = ⟨pruned, []⟩ := hrun.trans idle
    rw [hidle]
    exact ⟨rfl, rfl⟩

omit [SignatureScheme] in
/-- With room on the page, a retry attempts an invite that was stored after another one, whose address is not bound. -/
theorem retry_attempts_page_second :
    let _ : SignatureScheme := .transparent
    let settings := Ledger.lasting 1000
    let john : Identifier := ⟨.email, "john@example.com"⟩
    let events : List (Event Unit) := [.store ⟨.email, "jane@example.com"⟩ "!room:a.org" "@jane:a.org" "first" 0,
      .store john "!room:a.org" "@jane:a.org" "second" 0, .bind 10 .email "john@example.com" "@john:a.org" true]
    let s := ((start (Ledger.fresh [])).run settings events).service
    let j := run settings ⟨s, []⟩ (retryEvents settings Ledger.trusting (.fixed 20) s)
    ((retry settings Ledger.trusting (.fixed 20)).result s).1 = .ok { delivered := 1, waiting := 1 } ∧
    ∃ t ∈ s.database.invites.rows, Eligible settings (fun _ => .fixed 20) s t ∧ t.token = "second" ∧
      ∃ a ∈ j.attempts, a.token = t := by
  intro scheme settings john events s j
  have answer : ((retry settings Ledger.trusting (.fixed 20)).result s).1 = .ok { delivered := 1, waiting := 1 } := by
    decide +kernel +zetaReduce
  have rows : s.database.invites.rows = [⟨1, .email, "jane@example.com", "!room:a.org", "@jane:a.org", "first", 0, none⟩,
      ⟨2, .email, "john@example.com", "!room:a.org", "@jane:a.org", "second", 0, none⟩] := by
    decide +kernel +zetaReduce
  have bound : ∃ association, s.database.getActive john 20 = .ok (some association) :=
    exists_eq_ok_some (by decide +kernel +zetaReduce)
  have records : (Ledger.fresh []).database.Records := ⟨rfl, rfl⟩
  have tracked : ((start (Ledger.fresh [])).run settings events).Tracked settings := (tracked_start records).run events
  obtain ⟨-, -, attempts, -⟩ :=
    retry_attempts_page settings Ledger.trusting (.fixed 20) tracked.records tracked.ordered answer
  have second : ⟨2, .email, "john@example.com", "!room:a.org", "@jane:a.org", "second", 0, none⟩ ∈ s.database.invites.rows := by
    rw [rows]
    exact List.mem_cons_of_mem _ List.mem_cons_self
  have eligible : Eligible settings (fun _ => .fixed 20) s _ := ⟨second, rfl, rfl, bound⟩
  exact ⟨answer, _, second, eligible, rfl, attempts _ rfl eligible (by decide +kernel +zetaReduce)⟩

/-- A thousand invites for an address, and behind them one for another address. -/
def crowd (address : String) (last : InviteToken) : InviteTable where
  rows := ((List.range 1000).map fun n =>
    ⟨.ofNat (n + 1), .email, address, "!room:a.org", "@jane:a.org", "secret", 0, none⟩) ++ [last]
  last := 1001

omit [SignatureScheme] in
/-- An invite can be delivered, and is not attempted: a thousand that cannot be delivered fill the page before it. -/
theorem crowded_out :
    let _ : SignatureScheme := .transparent
    let settings := Ledger.lasting 1000
    let t : InviteToken := ⟨1001, .email, "john@example.com", "!room:a.org", "@jane:a.org", "secret", 0, none⟩
    let bound := Event.after settings (Ledger.fresh []) (.bind 10 .email "john@example.com" "@john:a.org" true)
    let s : Service Unit := { bound with database := { bound.database with invites := crowd "jane@example.com" t } }
    ((retry settings Ledger.trusting (.fixed 20)).result s).1 = .ok { waiting := 1000 } ∧
    Eligible settings (fun _ => .fixed 20) s t ∧
    (run settings ⟨s, []⟩ (retryEvents settings Ledger.trusting (.fixed 20) s)).attempts = [] := by
  intro scheme settings t bound s
  have answer : ((retry settings Ledger.trusting (.fixed 20)).result s).1 = .ok { waiting := 1000 } := by
    decide +kernel +zetaReduce
  have stored : t ∈ s.database.invites.rows := List.mem_append_right _ (List.mem_singleton_self t)
  have found : ∃ association, s.database.getActive t.identifier 20 = .ok (some association) :=
    exists_eq_ok_some (by decide +kernel +zetaReduce)
  refine ⟨answer, ⟨stored, rfl, rfl, found⟩, List.eq_nil_of_length_eq_zero ?_⟩
  decide +kernel +zetaReduce

end Journal

end IdentityServer
