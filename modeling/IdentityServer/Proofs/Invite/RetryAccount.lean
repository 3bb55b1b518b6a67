import IdentityServer.Proofs.Invite.Tally

/-! # What a retry accounts for

A retry counts what it prunes, how its attempts end, and which invites wait for identifiers that nobody has bound. As
every identifier has its turn once and the log of associations stays as it is, no invite is attempted twice, and the
counts say by how much the table of waiting invites has become shorter. -/

namespace IdentityServer

/-! ### What attempts make of the table -/

variable {ω : Type} {settings : ServiceSettings} {s t u : Service ω}

/-- One service follows another: an invite goes away or gets a mark by its successful attempt and in no other way, and
    by that many fewer invites wait. -/
structure Settles (attempts : List (Attempt ω)) (s u : Service ω) : Prop extends Spares attempts s u where
  kept : ∀ t ∈ s.database.invites.rows, t ∈ u.database.invites.rows ∨ ∃ a ∈ attempts, a.succeeded = true ∧ a.token = t
  known : ∀ t ∈ u.database.invites.rows, t ∈ s.database.invites.rows ∨
    ∃ a ∈ attempts, a.succeeded = true ∧ t = { a.token with sentAt := some a.sentAt }
  unsent : u.database.invites.unsent + attempts.countP Attempt.succeeded = s.database.invites.unsent

namespace Settles

theorem refl (ordered : s.database.invites.Ordered) : Settles [] s s where
  same := ⟨_, _, rfl⟩
  ordered := ordered
  stays _ ht _ := ht
  kept _ ht := .inl ht
  known _ ht := .inl ht
  unsent := rfl

theorem trans {first rest : List (Attempt ω)} (h : Settles first s t) (h' : Settles rest t u) :
    Settles (first ++ rest) s u where
  toSpares := h.toSpares.trans h'.toSpares
  kept r hr := by
    obtain hr | ⟨a, ha, delivered⟩ := h.kept r hr
    · exact (h'.kept r hr).imp_right fun ⟨a, ha, delivered⟩ => ⟨a, List.mem_append_right _ ha, delivered⟩
    · exact .inr ⟨a, List.mem_append_left _ ha, delivered⟩
  known r hr := by
    obtain hr | ⟨a, ha, marked⟩ := h'.known r hr
    · exact (h.known r hr).imp_right fun ⟨a, ha, marked⟩ => ⟨a, List.mem_append_left _ ha, marked⟩
    · exact .inr ⟨a, List.mem_append_right _ ha, marked⟩
  unsent := by
    rw [List.countP_append, Nat.add_comm (first.countP _), ← Nat.add_assoc, h'.unsent, h.unsent]

/-- Whoever still waits has waited before. -/
theorem waited {attempts : List (Attempt ω)} (h : Settles attempts s u) {r : InviteToken}
    (hr : r ∈ u.database.invites.rows) (waiting : r.sentAt = none) : r ∈ s.database.invites.rows := by
  obtain hr | ⟨a, -, -, rfl⟩ := h.known r hr
  · exact hr
  · cases waiting

/-- The invite of a failed attempt stays, as it has no other attempt. -/
theorem kept_failed {attempts : List (Attempt ω)} (h : Settles attempts s u) (distinct : (attempts.map (·.token)).Nodup)
    {a : Attempt ω} (ha : a ∈ attempts) (failed : a.succeeded = false) (stored : a.token ∈ s.database.invites.rows) :
    a.token ∈ u.database.invites.rows := by
  obtain ht | ⟨b, hb, delivered, same⟩ := h.kept a.token stored
  · exact ht
  · obtain rfl := List.inj_on_of_nodup_map distinct hb ha same
    rw [failed] at delivered
    cases delivered

end Settles

theorem Attempt.Proper.settles {a : Attempt ω} (h : a.Proper settings) (ordered : a.before.database.invites.Ordered) :
    Settles [a] a.before (a.after settings) := by
  have kept : ∀ t ∈ a.before.database.invites.rows, t ∈ (a.after settings).database.invites.rows ∨
      ∃ b ∈ [a], b.succeeded = true ∧ b.token = t := fun t ht =>
    (h.kept_or_delivered ordered t ht).imp_right fun delivered => ⟨a, List.mem_singleton_self a, delivered⟩
  have spares := h.spares ordered
  cases hanswer : a.succeeded with
  | false =>
    rw [h.after_failed hanswer] at spares kept ⊢
    exact ⟨spares, kept, fun t ht => .inl ht, by simp [hanswer]⟩
  | true =>
    rw [h.after_succeeded hanswer] at spares kept ⊢
    refine ⟨spares, kept, fun t ht => ?_, ?_⟩
    · obtain ⟨ht, -⟩ | ⟨-, marked⟩ := (ordered.mem_delivered h.stored h.waiting).mp ht
      · exact .inl ht
      · exact .inr ⟨a, List.mem_singleton_self a, hanswer, marked⟩
    · rw [List.countP_singleton, if_pos hanswer]
      exact ordered.unsent_delivered settings.deleteOnDelivery h.stored h.waiting a.sentAt

theorem Leads.settles {attempts : List (Attempt ω)} (leads : Leads settings s attempts u)
    (proper : ∀ a ∈ attempts, a.Proper settings) (ordered : s.database.invites.Ordered) : Settles attempts s u := by
  induction attempts generalizing s with
  | nil =>
    obtain rfl := leads
    exact .refl ordered
  | cons a rest ih =>
    obtain ⟨rfl, leads⟩ := leads
    obtain ⟨first, proper⟩ := List.forall_mem_cons.mp proper
    have settles := first.settles ordered
    exact settles.trans (ih leads proper settles.ordered)

theorem Leads.append {first rest : List (Attempt ω)} (h : Leads settings s first t) (h' : Leads settings t rest u) :
    Leads settings s (first ++ rest) u := by
  induction first generalizing s with
  | nil =>
    obtain rfl := h
    exact h'
  | cons a first ih => exact ⟨h.1, ih h.2⟩

/-- A remote that remembers what it is told has been told of the attempts. -/
theorem Leads.remembered {attempts : List (Attempt ω)} {remote : Remote ω} {log : ω → List InviteNotice}
    (leads : Leads settings s attempts u) (proper : ∀ a ∈ attempts, a.Proper settings)
    (asks : ∀ a ∈ attempts, a.remote = remote)
    (remembers : ∀ key notice world, log ((remote.deliver key notice).run world).2 = log world ++ [notice]) :
    log u.world = log s.world ++ attempts.map Attempt.notice := by
  induction attempts generalizing s with
  | nil =>
    obtain rfl := leads
    exact (List.append_nil _).symm
  | cons a rest ih =>
    obtain ⟨rfl, leads⟩ := leads
    obtain ⟨first, proper⟩ := List.forall_mem_cons.mp proper
    obtain ⟨rfl, asks⟩ := List.forall_mem_cons.mp asks
    have told : log (a.after settings).world = log a.before.world ++ [a.notice] := by
      rw [← remembers a.before.ring.current]
      show _ = log a.asked.2
      cases hanswer : a.succeeded with
      | false => rw [first.after_failed hanswer]
      | true => rw [first.after_succeeded hanswer]
    rw [ih leads proper asks, told, List.map_cons, List.append_assoc]
    rfl

/-! ### Counts of attempts -/

/-- No operation of the database is unavailable. -/
def Database.Serves (db : Database) : Prop :=
  ∀ operation, db.available operation = .ok ()

namespace Database.Serves
variable {db : Database} (h : db.Serves)
include h

theorem records : db.Records := ⟨h _, h _⟩

theorem getActive (identifier : Identifier) (now : Int64) :
    db.getActive identifier now = .ok (db.associations.getActive identifier now) := by
  rw [Database.getActive, h, bind_ok]
  rfl

theorem pending (identifier : Identifier) : db.pending identifier = .ok (db.invites.pending identifier) := by
  rw [Database.pending, h, bind_ok]
  rfl

theorem undelivered (limit : Nat) : db.undelivered limit = .ok (db.invites.undelivered limit) := by
  rw [Database.undelivered, h, bind_ok]
  rfl

end Database.Serves

/-- With the ends of attempts counted in. -/
def Delivered.counting (outcome : Delivered) (attempts : List (Attempt ω)) : Delivered where
  succeeded := outcome.succeeded + attempts.countP Attempt.succeeded
  failed := outcome.failed + attempts.countP fun a => !a.succeeded

theorem Delivered.counting_cons (outcome : Delivered) (a : Attempt ω) (rest : List (Attempt ω)) :
    outcome.counting (a :: rest) = (outcome.counting [a]).counting rest := by
  simp only [counting, List.countP_cons, List.countP_nil, Nat.zero_add, Nat.add_assoc, Nat.add_comm, Nat.add_left_comm]

/-- With the ends of attempts counted in, and invites that wait. -/
def RetryReport.counting (report : RetryReport) (attempts : List (Attempt ω)) (waiting : Nat) : RetryReport :=
  { report with
    delivered := report.delivered + attempts.countP Attempt.succeeded
    failed := report.failed + attempts.countP fun a => !a.succeeded
    waiting := report.waiting + waiting }

/-- Whether an identifier is not bound when it has its turn. -/
def Database.isUnbound (db : Database) (readings : Identifier → PassReadings) (identifier : Identifier) : Bool :=
  (db.associations.getActive identifier (readings identifier).bound).isNone

namespace Delivery

section Answers
open Operation
variable (settings : ServiceSettings) (remote : Remote ω) (readings : PassReadings)

theorem answer_deliverToken (account : String) (records : s.database.Records) (outcome : Delivered) (t : InviteToken) :
    ((deliverToken settings remote readings account outcome t).result s).1 =
      .ok (if t.isDelivered || t.isExpired settings.validity readings.begun then outcome
        else outcome.counting [(⟨remote, readings, account, t, s⟩ : Attempt ω)]) := by
  unfold deliverToken
  split
  · rfl
  · rw [result_bind_ok result_get, result_bind_ok (result_ask _)]
    unfold Delivered.counting Attempt.succeeded
    have asked : (⟨remote, readings, account, t, s⟩ : Attempt ω).asked =
        (remote.deliver s.ring.current (t.notice account)).run s.world := rfl
    rw [List.countP_singleton, List.countP_singleton, asked]
    rcases (remote.deliver s.ring.current (t.notice account)).run s.world with ⟨_ | _, world⟩
    · rfl
    · dsimp only
      have recorded := @result_record ω settings { s with world } t records (readings.sent t.id)
      rw [result_bind_ok (result_attempt _), recorded]
      rfl

theorem answer_deliverTokens (account : String) (tokens : List InviteToken) (records : s.database.Records)
    (outcome : Delivered) :
    ((tokens.foldlM (deliverToken settings remote readings account) outcome).result s).1 =
      .ok (outcome.counting (attemptsOn settings remote readings account tokens s)) := by
  induction tokens generalizing s outcome with
  | nil => rfl
  | cons t rest ih =>
    have answer := answer_deliverToken settings remote readings account records outcome t
    obtain ⟨next, hnext⟩ : ∃ next, (deliverToken settings remote readings account outcome t).result s =
        (.ok next, settled settings remote readings account t s) := result_deliverToken records outcome
    rw [hnext] at answer
    cases answer
    rw [List.foldlM_cons, result_bind_ok hnext, attemptsOn]
    obtain ⟨world, invites, hsettled, -⟩ := settled_keeps settings remote readings account t s
    split
    · rename_i skipped
      rw [settled, if_pos skipped]
      exact ih records outcome
    · dsimp only
      rw [Delivered.counting_cons outcome _ (attemptsOn ..), Attempt.after_eq records, hsettled]
      refine ih ?_ _
      exact ⟨records.mark, records.delete⟩

theorem answer_deliverPending (readings : Identifier → PassReadings) (identifier : Identifier)
    (serves : s.database.Serves) :
    ((deliverPending settings remote (readings identifier) identifier).result s).1 =
      .ok (if s.database.isUnbound readings identifier then none
        else some (Delivered.counting {} (passAttempts settings remote (readings identifier) identifier s))) := by
  unfold deliverPending passAttempts Database.isUnbound
  rw [result_bind, result_query, serves.getActive]
  cases s.database.associations.getActive identifier (readings identifier).bound with
  | none => rfl
  | some association =>
    dsimp only
    rw [result_bind, result_query, serves.pending]
    dsimp only
    have answer := answer_deliverTokens settings remote (readings identifier) association.account
      (s.database.invites.pending identifier) serves.records {}
    rw [result_bind]
    generalize (List.foldlM _ _ _ : Operation ω Delivered).result s = result at answer ⊢
    obtain ⟨_ | outcome, t⟩ := result
    · cases answer
    · cases answer
      rfl

theorem answer_retryIdentifier (readings : Identifier → PassReadings) (serves : s.database.Serves) (report : RetryReport)
    (entry : Identifier × Nat) :
    ((retryIdentifier settings remote readings report entry).result s).1 =
      .ok (report.counting (passAttempts settings remote (readings entry.1) entry.1 s)
        (if s.database.isUnbound readings entry.1 then entry.2 else 0)) := by
  have answer := answer_deliverPending settings remote readings entry.1 serves
  unfold retryIdentifier
  rw [result_bind]
  generalize (deliverPending settings remote (readings entry.1) entry.1).result s = result at answer ⊢
  obtain ⟨_ | delivered, t⟩ := result
  · cases answer
  · cases hunbound : s.database.isUnbound readings entry.1 with
    | true =>
      rw [hunbound] at answer
      cases answer
      have unbound : s.database.getActive entry.1 (readings entry.1).bound = .ok none := by
        rw [serves.getActive, Option.isNone_iff_eq_none.mp hunbound]
      simp only [passAttempts, unbound]
      rfl
    | false =>
      rw [hunbound] at answer
      cases answer
      simp only [Delivered.counting, Nat.zero_add]
      rfl

end Answers

/-! ### What is attempted -/

section Attempted
variable {remote : Remote ω} {readings : PassReadings} {account : String} {identifier : Identifier}
  {tokens : List InviteToken}

theorem mem_attemptsOn {a : Attempt ω} (ha : a ∈ attemptsOn settings remote readings account tokens s) :
    a.remote = remote ∧ a.readings = readings ∧ a.account = account := by
  induction tokens generalizing s with
  | nil => cases ha
  | cons t rest ih =>
    rw [attemptsOn] at ha
    split at ha
    · exact ih ha
    · rcases List.mem_cons.mp ha with rfl | ha
      · exact ⟨rfl, rfl, rfl⟩
      · exact ih ha

theorem sublist_attemptsOn : ((attemptsOn settings remote readings account tokens s).map (·.token)).Sublist tokens := by
  induction tokens generalizing s with
  | nil => exact .slnil
  | cons t rest ih =>
    rw [attemptsOn]
    split
    · exact ih.cons t
    · exact ih.cons_cons t

theorem nodup_passAttempts (ordered : s.database.invites.Ordered) :
    ((passAttempts settings remote readings identifier s).map (·.token)).Nodup := by
  have distinct : s.database.invites.rows.Nodup :=
    ordered.ascending.imp fun hlt same => Int64.ne_of_lt hlt (congrArg InviteToken.id same)
  unfold passAttempts
  split
  · rename_i association tokens hactive hpending
    obtain ⟨-, -, hpending⟩ := bind_eq_ok.mp hpending
    cases hpending
    exact (distinct.filter _).sublist sublist_attemptsOn
  · exact .nil

end Attempted
end Delivery

/-- An attempt for an invite that a service can deliver when its identifier has its turn, to the account that has bound
    that. -/
structure Attempt.Due (settings : ServiceSettings) (remote : Remote ω) (readings : Identifier → PassReadings)
    (s : Service ω) (a : Attempt ω) : Prop where
  asks : a.remote = remote
  timely : a.readings = readings a.token.identifier
  eligible : Journal.Eligible settings readings s a.token
  account : ∃ association, s.database.getActive a.token.identifier (readings a.token.identifier).bound =
    .ok (some association) ∧ a.account = association.account

namespace Attempt.Due
variable {remote : Remote ω} {readings : Identifier → PassReadings} {a : Attempt ω} {attempts : List (Attempt ω)}

theorem bound (h : a.Due settings remote readings s) : s.database.isUnbound readings a.token.identifier = false := by
  obtain ⟨association, hactive, -⟩ := h.account
  obtain ⟨-, -, hactive⟩ := bind_eq_ok.mp hactive
  rw [Database.isUnbound, Except.ok.inj hactive]
  rfl

/-- What is due was due while there were more invites. -/
theorem earlier {world : ω} {invites : InviteTable}
    (h : a.Due settings remote readings { s with world, database := { s.database with invites } })
    (stored : a.token ∈ s.database.invites.rows) : a.Due settings remote readings s :=
  ⟨h.asks, h.timely, ⟨stored, h.eligible.waiting, h.eligible.valid, h.eligible.bound⟩, h.account⟩

theorem before (h : a.Due settings remote readings t) (settles : Settles attempts s t) :
    a.Due settings remote readings s := by
  have stored := settles.waited h.eligible.stored h.eligible.waiting
  obtain ⟨world, invites, rfl⟩ := settles.same
  exact h.earlier stored

/-- Invites of one table are told apart by their numbers. -/
theorem nodup_ids (due : ∀ a ∈ attempts, a.Due settings remote readings s) (ordered : s.database.invites.Ordered)
    (distinct : (attempts.map (·.token)).Nodup) : (attempts.map fun a => a.token.id).Nodup := by
  have known := List.Nodup.map_on (f := InviteToken.id) (fun t ht r hr same => ?_) distinct
  · rwa [List.map_map] at known
  · obtain ⟨a, ha, rfl⟩ := List.mem_map.mp ht
    obtain ⟨b, hb, rfl⟩ := List.mem_map.mp hr
    exact ordered.eq_of_id (due a ha).eligible.stored (due b hb).eligible.stored same

end Attempt.Due

namespace Delivery
variable {remote : Remote ω} {readings : Identifier → PassReadings} {identifier : Identifier}

theorem due_passAttempts {a : Attempt ω} (ha : a ∈ passAttempts settings remote (readings identifier) identifier s) :
    a.Due settings remote readings s := by
  obtain ⟨rfl, bound⟩ := mem_passAttempts ha
  unfold passAttempts at ha
  split at ha
  · rename_i association tokens hactive hpending
    obtain ⟨hmem, waiting, valid⟩ := exists_attemptsOn_iff.mp ⟨a, ha, rfl⟩
    obtain ⟨hremote, hreadings, haccount⟩ := mem_attemptsOn ha
    obtain ⟨-, -, hpending⟩ := bind_eq_ok.mp hpending
    cases hpending
    refine ⟨hremote, hreadings, ⟨List.mem_of_mem_filter hmem, ?_, valid, bound⟩, association, hactive, haccount⟩
    simpa [InviteToken.isDelivered] using waiting
  · cases ha

end Delivery

namespace Journal
open Operation Delivery
variable [SignatureScheme]

/-- The passes for identifiers are attempts, each of which is due from the start, and no two are for the same invite. -/
theorem passes_lead (settings : ServiceSettings) (remote : Remote ω) (readings : Identifier → PassReadings)
    {identifiers : List Identifier} (distinct : identifiers.Nodup) (records : s.database.Records)
    (ordered : s.database.invites.Ordered) :
    let j := run settings ⟨s, []⟩ (identifiers.map fun i => .pass remote (readings i) i)
    Leads settings s j.attempts j.service ∧ (∀ a ∈ j.attempts, a.Proper settings) ∧
    (∀ a ∈ j.attempts, a.Due settings remote readings s ∧ a.token.identifier ∈ identifiers) ∧
    (j.attempts.map (·.token)).Nodup := by
  induction identifiers generalizing s with
  | nil => exact ⟨rfl, nofun, nofun, .nil⟩
  | cons identifier rest ih =>
    obtain ⟨fresh, distinct⟩ := List.nodup_cons.mp distinct
    have leads : Leads settings s (passAttempts settings remote (readings identifier) identifier s)
        (Event.after settings s (.pass remote (readings identifier) identifier)) := leads_passAttempts records
    have proper : ∀ a ∈ passAttempts settings remote (readings identifier) identifier s, a.Proper settings :=
      proper_passAttempts records ordered
    have settles := leads.settles proper ordered
    obtain ⟨world, invites, hsame⟩ := settles.same
    have recordsAfter : (Event.after settings s (.pass remote (readings identifier) identifier)).database.Records := by
      rw [hsame]
      exact ⟨records.mark, records.delete⟩
    obtain ⟨leadsRest, properRest, dueRest, once⟩ := ih distinct recordsAfter settles.ordered
    intro j
    rw [show j = _ from run_cons ..]
    dsimp only [Event.attempts]
    refine ⟨leads.append leadsRest, List.forall_mem_append.mpr ⟨proper, properRest⟩,
      List.forall_mem_append.mpr ⟨fun a ha => ?_, fun a ha => ?_⟩, ?_⟩
    · rw [(mem_passAttempts ha).1]
      exact ⟨due_passAttempts ha, List.mem_cons_self⟩
    · obtain ⟨due, hidentifier⟩ := dueRest a ha
      exact ⟨due.before settles, List.mem_cons_of_mem _ hidentifier⟩
    · rw [List.map_append]
      refine List.nodup_append.mpr ⟨nodup_passAttempts ordered, once, fun t ht r hr same => fresh ?_⟩
      obtain ⟨a, ha, rfl⟩ := List.mem_map.mp ht
      obtain ⟨b, hb, rfl⟩ := List.mem_map.mp hr
      rw [← (mem_passAttempts ha).1, show a.token = b.token from same]
      exact (dueRest b hb).2

/-- Passes are counted by the ends of their attempts and by the invites of identifiers that are not bound. -/
theorem passes_account (settings : ServiceSettings) (remote : Remote ω) (readings : Identifier → PassReadings)
    (serves : s.database.Serves) (ordered : s.database.invites.Ordered) (entries : List (Identifier × Nat))
    (report : RetryReport) :
    let j := run settings ⟨s, []⟩ ((entries.map (·.1)).map fun i => .pass remote (readings i) i)
    (entries.foldlM (retryIdentifier settings remote readings) report).result s =
      (.ok (report.counting j.attempts (amount (s.database.isUnbound readings) entries)), j.service) := by
  induction entries generalizing s report with
  | nil => rfl
  | cons entry rest ih =>
    have answer := answer_retryIdentifier settings remote readings serves report entry
    have after := result_retryIdentifier settings remote readings report entry s
    have spares := pass_spares settings serves.records ordered remote (readings entry.1) entry.1
    intro j
    rw [show j = _ from run_cons .., amount_cons, List.foldlM_cons, result_bind]
    generalize (retryIdentifier settings remote readings report entry).result s = first at answer after ⊢
    obtain ⟨_ | counted, t⟩ := first
    · cases answer
    · cases answer
      obtain rfl : t = _ := after
      dsimp only [Event.attempts]
      obtain ⟨world, invites, hsame⟩ := spares.same
      have servesAfter : (Event.after settings s (.pass remote (readings entry.1) entry.1)).database.Serves := by
        rw [hsame]
        exact serves
      have unbound : (Event.after settings s (.pass remote (readings entry.1) entry.1)).database.isUnbound =
          s.database.isUnbound := by
        rw [hsame]
        rfl
      rw [ih servesAfter spares.ordered, unbound]
      simp [RetryReport.counting, Nat.add_assoc]

/-! ### Retries -/

/-- What a retry does, from its report, from the service once it has pruned and once it has ended, and from its
    attempts. -/
structure Accounts (settings : ServiceSettings) (remote : Remote ω) (readings : RetryReadings) (s : Service ω)
    (report : RetryReport) (pruned after : Service ω) (attempts : List (Attempt ω)) : Prop where
  /-- What is pruned waited and has expired. -/
  expired : ∀ t ∈ s.database.invites.rows, t ∈ pruned.database.invites.rows ∨
    (t.sentAt = none ∧ t.isExpired settings.validity readings.pruned = true)
  kept : pruned.database.invites.rows.Sublist s.database.invites.rows
  pruned_count : report.pruned + pruned.database.invites.rows.length = s.database.invites.rows.length
  /-- After that, nothing is done but attempts. -/
  leads : Leads settings pruned attempts after
  remembered : ∀ log : ω → List InviteNotice,
    (∀ key notice world, log ((remote.deliver key notice).run world).2 = log world ++ [notice]) →
    log after.world = log s.world ++ attempts.map Attempt.notice
  once : (attempts.map fun a => a.token.id).Nodup
  due : ∀ a ∈ attempts, a.Due settings remote readings.pass s
  delivered_count : report.delivered = attempts.countP Attempt.succeeded
  failed_count : report.failed = attempts.countP fun a => !a.succeeded
  waiting_count : report.waiting =
    (page settings readings.pruned s).countP fun t => s.database.isUnbound readings.pass t.identifier
  unsent_count : after.database.invites.unsent + (report.pruned + report.delivered) = s.database.invites.unsent
  /-- What is neither pruned nor delivered stays as it is. -/
  unchanged : ∀ t ∈ pruned.database.invites.rows, t ∈ after.database.invites.rows ∨
    ∃ a ∈ attempts, a.succeeded = true ∧ a.token = t
  known : ∀ t ∈ after.database.invites.rows, t ∈ pruned.database.invites.rows ∨
    ∃ a ∈ attempts, a.succeeded = true ∧ t = { a.token with sentAt := some a.sentAt }
  failed_unchanged : ∀ a ∈ attempts, a.succeeded = false → a.token ∈ after.database.invites.rows
  waiting_unchanged : ∀ t ∈ pruned.database.invites.rows,
    s.database.isUnbound readings.pass t.identifier = true → t ∈ after.database.invites.rows
  sent_unchanged : ∀ t ∈ s.database.invites.rows, t.sentAt ≠ none → t ∈ after.database.invites.rows
  /-- An invite is known by its number, before and after. -/
  ordered : after.database.invites.Ordered

section Retry
variable (settings : ServiceSettings) (serves : s.database.Serves)
include serves

omit [SignatureScheme] in
theorem result_pruneExpired (now : Int64) :
    (pruneExpired settings now).result s =
      (.ok (s.database.invites.rows.countP (·.isOverdue settings.validity now)), { s with database :=
        { s.database with invites := s.database.invites.withoutOverdue settings.validity now } }) := by
  unfold pruneExpired InviteTable.withoutOverdue InviteToken.isOverdue
  cases settings.validity with
  | none =>
    show (Except.ok 0, s) = _
    simp
  | some validity =>
    refine result_change_ok ?_
    rw [Database.prune, serves, bind_ok]
    rfl

theorem after_prune (now : Int64) : Event.after settings s (.prune now) =
    { s with database := { s.database with invites := s.database.invites.withoutOverdue settings.validity now } } :=
  congrArg Prod.snd (result_pruneExpired settings serves now)

/-- A retry is a prune, and then one pass for each identifier of its page. -/
theorem result_retry (remote : Remote ω) (readings : RetryReadings) (ordered : s.database.invites.Ordered) :
    let j := run settings ⟨s, []⟩ (retryEvents settings remote readings s)
    let counted : RetryReport :=
      { pruned := s.database.invites.rows.countP (·.isOverdue settings.validity readings.pruned) }
    j = run settings ⟨Event.after settings s (.prune readings.pruned), []⟩
      (((byIdentifier (page settings readings.pruned s)).map (·.1)).map fun i => .pass remote (readings.pass i) i) ∧
    (retry settings remote readings).result s = (.ok (counted.counting j.attempts
      ((page settings readings.pruned s).countP fun t => s.database.isUnbound readings.pass t.identifier)), j.service) := by
  intro j counted
  have hrun : j = run settings ⟨Event.after settings s (.prune readings.pruned), []⟩
      (((byIdentifier (page settings readings.pruned s)).map (·.1)).map fun i => .pass remote (readings.pass i) i) := by
    rw [List.map_map]
    exact run_cons (.prune readings.pruned) _ s
  have hprune := result_pruneExpired settings serves readings.pruned
  rw [← after_prune settings serves readings.pruned] at hprune
  have servesThen : (Event.after settings s (.prune readings.pruned)).database.Serves := by
    rw [after_prune settings serves readings.pruned]
    exact serves
  have orderedThen : (Event.after settings s (.prune readings.pruned)).database.invites.Ordered := by
    rw [after_prune settings serves readings.pruned]
    exact ordered.filter _
  have unbound : (Event.after settings s (.prune readings.pruned)).database.isUnbound = s.database.isUnbound := by
    rw [after_prune settings serves readings.pruned]
    rfl
  have passes := passes_account settings remote readings.pass servesThen orderedThen
    (byIdentifier (page settings readings.pruned s)) counted
  rw [← hrun, amount_byIdentifier, unbound] at passes
  refine ⟨hrun, ?_⟩
  unfold retry
  rw [result_bind_ok hprune, result_bind_ok (result_query_ok (servesThen.undelivered retryPage))]
  exact passes

end Retry

/-- While the database serves, a retry ends with a report, for any table of invites, any log and any answers of the
    world. It prunes invites that have expired and makes one attempt for each of the invites that it tries, which wait,
    have not expired and are bound. By what it counts as pruned and as delivered, fewer invites wait afterwards. All
    others are as before, and those that it counts as waiting are on its page and not bound. -/
theorem retry_accounts (settings : ServiceSettings) (remote : Remote ω) (readings : RetryReadings) {s : Service ω}
    (serves : s.database.Serves) (ordered : s.database.invites.Ordered) :
    let pruned := Event.after settings s (.prune readings.pruned)
    let j := run settings ⟨s, []⟩ (retryEvents settings remote readings s)
    ∃ report, (retry settings remote readings).result s = (.ok report, j.service) ∧
      Accounts settings remote readings s report pruned j.service j.attempts := by
  intro pruned j
  obtain ⟨hrun, hresult⟩ := result_retry settings serves remote readings ordered
  have hpruned : pruned = _ := after_prune settings serves readings.pruned
  have recordsThen : pruned.database.Records := by
    rw [hpruned]
    exact ⟨serves.records.mark, serves.records.delete⟩
  have orderedThen : pruned.database.invites.Ordered := by
    rw [hpruned]
    exact ordered.filter _
  obtain ⟨leads, proper, due, distinct⟩ := passes_lead settings remote readings.pass
    (nodup_byIdentifier (page settings readings.pruned s)) recordsThen orderedThen
  rw [← hrun] at leads proper due distinct
  have settles := leads.settles proper orderedThen
  have mem_pruned : ∀ t, t ∈ pruned.database.invites.rows ↔
      t ∈ s.database.invites.rows ∧ t.isOverdue settings.validity readings.pruned = false := by
    rw [hpruned]
    exact fun t => InviteTable.mem_withoutOverdue
  have dueBefore : ∀ a ∈ j.attempts, a.Due settings remote readings.pass s := by
    intro a ha
    have stored := ((mem_pruned _).mp (due a ha).1.eligible.stored).1
    exact (hpruned ▸ (due a ha).1).earlier stored
  refine ⟨_, hresult, ?_⟩
  constructor
  case expired =>
    intro t ht
    cases overdue : t.isOverdue settings.validity readings.pruned with
    | true => exact .inr (InviteToken.isExpired_of_overdue overdue)
    | false => exact .inl ((mem_pruned t).mpr ⟨ht, overdue⟩)
  case kept =>
    rw [hpruned]
    exact List.filter_sublist
  case pruned_count =>
    rw [hpruned]
    exact s.database.invites.length_withoutOverdue settings.validity readings.pruned
  case leads => exact leads
  case remembered =>
    intro log remembers
    rw [leads.remembered proper (fun a ha => (dueBefore a ha).asks) remembers, hpruned]
  case once => exact Attempt.Due.nodup_ids dueBefore ordered distinct
  case due => exact dueBefore
  case delivered_count => exact Nat.zero_add _
  case failed_count => exact Nat.zero_add _
  case waiting_count => exact Nat.zero_add _
  case unsent_count =>
    have before := s.database.invites.unsent_withoutOverdue settings.validity readings.pruned
    have during := settles.unsent
    rw [hpruned] at during
    rw [← before, ← during, Nat.add_assoc, RetryReport.counting, Nat.zero_add, Nat.add_comm (List.countP _ _)]
  case unchanged => exact settles.kept
  case known => exact settles.known
  case failed_unchanged =>
    exact fun a ha failed => settles.kept_failed distinct ha failed (due a ha).1.eligible.stored
  case waiting_unchanged =>
    intro t ht unbound
    obtain ht | ⟨a, ha, -, rfl⟩ := settles.kept t ht
    · exact ht
    · rw [(dueBefore a ha).bound] at unbound
      cases unbound
  case sent_unchanged =>
    intro t ht sent
    have spared : t.isOverdue settings.validity readings.pruned = false :=
      Bool.eq_false_iff.mpr fun overdue => sent (InviteToken.isExpired_of_overdue overdue).1
    obtain ht | ⟨a, ha, -, rfl⟩ := settles.kept t ((mem_pruned t).mpr ⟨ht, spared⟩)
    · exact ht
    · exact absurd (dueBefore a ha).eligible.waiting sent
  case ordered => exact settles.ordered

omit [SignatureScheme] in
/-- Of six invites one is pruned, one expires at that moment, one fails, one is delivered and marked, one waits for an
    address that nobody has bound, and one was delivered long ago. -/
theorem retry_accounts_mixed :
    let _ : SignatureScheme := .transparent
    let settings : ServiceSettings := ⟨"id.example.org", some 1000, false, some 500, 500⟩
    let john : NewAssociation := ⟨.email, "john@example.com", "@john:a.org", 10, some 2000, 10, "{}"⟩
    let associations : AssociationLog := ⟨[⟨john, 1, false, true⟩], 1⟩
    let invite (id : Int64) (address : String) (received : Int64) (sent : Option Int64) : InviteToken :=
      ⟨id, .email, address, "!room:a.org", "@jane:a.org", "secret", received, sent⟩
    let invites : InviteTable := ⟨[invite 1 "john@example.com" 0 none, invite 2 "john@example.com" 500 none,
      invite 3 "john@example.com" 900 none, invite 4 "john@example.com" 950 none, invite 5 "jane@example.com" 960 none,
      invite 6 "john@example.com" 0 (some 10)], 6⟩
    let s : Service Nat := ⟨{ associations, invites }, ⟨.zeros, .empty, .empty⟩, [], {}, 0⟩
    let j := run settings ⟨s, []⟩ (retryEvents settings reluctant (.fixed 1000) s)
    s.database.Serves ∧ s.database.invites.Ordered ∧ ∃ report, (retry settings reluctant (.fixed 1000)).result s =
      (.ok report, j.service) ∧ report = { pruned := 1, delivered := 1, failed := 1, waiting := 1 } ∧
      Accounts settings reluctant (.fixed 1000) s report (Event.after settings s (.prune 1000)) j.service j.attempts := by
  intro scheme settings john associations invite invites s j
  have serves : s.database.Serves := fun _ => rfl
  have ordered : s.database.invites.Ordered := ⟨by decide, by decide⟩
  obtain ⟨report, hresult, accounts⟩ := retry_accounts settings reluctant (.fixed 1000) serves ordered
  have answer : ((retry settings reluctant (.fixed 1000)).result s).1 =
      .ok { pruned := 1, delivered := 1, failed := 1, waiting := 1 } := by
    decide +kernel +zetaReduce
  exact ⟨serves, ordered, report, hresult, Except.ok.inj ((congrArg Prod.fst hresult).symm.trans answer), accounts⟩

end Journal
end IdentityServer
