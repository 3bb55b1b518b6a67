import IdentityServer.Proofs.Binding.Semantics

/-! # All or nothing

A request to bind or unbind that fails leaves the service as it was, at whichever statement of the store it fails:
what comes before the transaction only reads, and what comes after it cannot fail. One that is answered puts a
single entry at the end of the log and takes the mark from one other entry at most. -/

namespace IdentityServer

namespace Operation
variable {ω α β : Type}

/-- An operation that leaves the service as it was, whether it fails or not. The world may have been asked. -/
def Reads (operation : Operation ω α) : Prop :=
  ∀ s, ∃ world, (operation.result s).2 = { s with world }

def Succeeds (operation : Operation ω α) : Prop :=
  ∀ s, ∃ a, (operation.result s).1 = .ok a

/-- An operation that leaves the service as it was if it fails. -/
def Atomic (operation : Operation ω α) : Prop :=
  ∀ s e t, operation.result s = (.error e, t) → ∃ world, t = { s with world }

namespace Reads

theorem pure (a : α) : (Pure.pure a : Operation ω α).Reads := fun s => ⟨s.world, rfl⟩

theorem throw (e : ServiceError) : (throw e : Operation ω α).Reads := fun s => ⟨s.world, rfl⟩

theorem get : (MonadState.get : Operation ω (Service ω)).Reads := fun s => ⟨s.world, rfl⟩

theorem ask (question : StateM ω α) : (Operation.ask question).Reads := fun s => ⟨(question.run s.world).2, rfl⟩

theorem identifying (checked : Except IdentifierFault α) : (Operation.identifying checked : Operation ω α).Reads := by
  cases checked with
  | ok a => exact pure a
  | error fault => exact throw _

theorem bind {operation : Operation ω α} {next : α → Operation ω β} (h : operation.Reads) (h' : ∀ a, (next a).Reads) :
    (operation >>= next).Reads := by
  intro s
  obtain ⟨world, hworld⟩ := h s
  rw [result_bind]
  generalize operation.result s = result at hworld
  obtain ⟨answer, t⟩ := result
  subst hworld
  cases answer with
  | ok a => exact h' a { s with world }
  | error e => exact ⟨world, rfl⟩

theorem atomic {operation : Operation ω α} (h : operation.Reads) : operation.Atomic := by
  intro s e t hresult
  obtain ⟨world, hworld⟩ := h s
  rw [hresult] at hworld
  exact ⟨world, hworld⟩

/-- What only reads may come before what is atomic. -/
theorem bind_atomic {operation : Operation ω α} {next : α → Operation ω β} (h : operation.Reads)
    (h' : ∀ a, (next a).Atomic) : (operation >>= next).Atomic := by
  intro s e t hresult
  obtain ⟨world, hworld⟩ := h s
  rw [result_bind] at hresult
  generalize operation.result s = result at hworld hresult
  obtain ⟨answer, u⟩ := result
  subst hworld
  cases answer with
  | ok a =>
    obtain ⟨world', rfl⟩ := h' a _ _ _ hresult
    exact ⟨world', rfl⟩
  | error e =>
    cases hresult
    exact ⟨world, rfl⟩

end Reads

theorem Succeeds.modify (f : Service ω → Service ω) : (modify f : Operation ω Unit).Succeeds := fun _ => ⟨(), rfl⟩

theorem Succeeds.pure (a : α) : (Pure.pure a : Operation ω α).Succeeds := fun _ => ⟨a, rfl⟩

theorem Succeeds.bind {operation : Operation ω α} {next : α → Operation ω β} (h : operation.Succeeds)
    (h' : ∀ a, (next a).Succeeds) : (operation >>= next).Succeeds := by
  intro s
  obtain ⟨a, ha⟩ := h s
  rw [result_bind_ok (Prod.ext ha rfl)]
  exact h' a _

/-- What cannot fail may come after what is atomic. -/
theorem Atomic.bind {operation : Operation ω α} {next : α → Operation ω β} (h : operation.Atomic)
    (h' : ∀ a, (next a).Succeeds) : (operation >>= next).Atomic := by
  intro s e t hresult
  have first := h s
  rw [result_bind] at hresult
  generalize operation.result s = result at first hresult
  obtain ⟨answer, u⟩ := result
  cases answer with
  | ok a =>
    obtain ⟨b, hb⟩ := h' a u
    simp only [hresult] at hb
    cases hb
  | error e' =>
    cases hresult
    exact first e t rfl

theorem Atomic.change (write : Database → Except ServiceError (α × Database)) :
    (Operation.change write : Operation ω α).Atomic := by
  intro s e t hresult
  cases hwrite : write s.database with
  | ok written =>
    rw [result_change_ok hwrite] at hresult
    cases hresult
  | error e =>
    rw [result_change_error hwrite] at hresult
    cases hresult
    exact ⟨s.world, rfl⟩

end Operation

/-! ### Any transaction on the log -/

/-- Runs a transaction on the log. -/
def Database.transact {α : Type} (operation : StoreOperation) (transaction : Transaction AssociationLog α)
    (db : Database) : Except ServiceError (α × Database) := do
  db.available operation
  let (answer, associations) ← transaction.execute db.associations
  return (answer, { db with associations })

namespace Binder
open Operation AssociationLog
variable [SignatureScheme] {ω : Type}

/-- Binding over a store that runs `supersede` on the log. -/
def bindBy (supersede : NewAssociation → Transaction AssociationLog Int64) (settings : ServiceSettings) (now : Int64)
    (medium : Medium) (raw account : String) (validated : Bool) : Operation ω Association := do
  if !validated then throw (.precondition .validated)
  identifying (Account.validate account)
  let address ← identifying (Address.canonicalize medium raw)
  let new : NewAssociation :=
    { medium, address, account
      notBefore := now
      notAfter := settings.lifetime.map (Text.saturatingAdd now)
      createdAt := now
      signedPayload := "" }
  let new := { new with signedPayload := ← signed settings new.attestation.toJson }
  let sequence ← change (·.transact .upsert (supersede new))
  scheduleDelivery ⟨medium, address⟩
  wakeSenders
  return { new with sequence }

/-- Unbinding over a store that runs `remove` on the log. -/
def unbindBy (remove : Identifier → String → NewTombstone → Int64 → Transaction AssociationLog Bool)
    (settings : ServiceSettings) (remote : Remote ω) (readings : UnbindReadings) (medium : Medium) (raw account : String)
    (claimed : ClaimedSignature) : Operation ω UnbindOutcome := do
  identifying (Account.validate account)
  let address ← identifying (Address.canonicalize medium raw)
  let request := SignedRequest.unbind claimed.origin settings.serverName account medium raw
  if !(← ask (remote.owns account claimed request.signedText readings.proved)) then throw (.notAuthorized account)
  let tombstone : NewTombstone := { medium, address, account, deletedAt := readings.made, signedPayload := "" }
  let tombstone := { tombstone with signedPayload := ← signed settings tombstone.attestation.toJson }
  if ← change (·.transact .delete (remove ⟨medium, address⟩ account tombstone readings.removed)) then
    wakeSenders
    return .removed
  else return .notFound

theorem signed_reads (settings : ServiceSettings) (statement : Json) : (signed settings statement : Operation ω _).Reads := by
  refine .bind .get fun s => ?_
  split
  · exact .pure _
  · exact .throw _

theorem bindBy_atomic (supersede : NewAssociation → Transaction AssociationLog Int64) (settings : ServiceSettings)
    (now : Int64) (medium : Medium) (raw account : String) (validated : Bool) :
    (bindBy supersede settings now medium raw account validated : Operation ω _).Atomic := by
  unfold bindBy
  cases validated with
  | false => exact (Reads.throw _).atomic
  | true =>
    refine (Reads.identifying _).bind_atomic fun _ => (Reads.identifying _).bind_atomic fun address => ?_
    refine (signed_reads settings _).bind_atomic fun payload => (Atomic.change _).bind fun sequence => ?_
    exact (Succeeds.modify _).bind fun _ => (Succeeds.modify _).bind fun _ => .pure _

theorem unbindBy_atomic (remove : Identifier → String → NewTombstone → Int64 → Transaction AssociationLog Bool)
    (settings : ServiceSettings) (remote : Remote ω) (readings : UnbindReadings) (medium : Medium) (raw account : String)
    (claimed : ClaimedSignature) : (unbindBy remove settings remote readings medium raw account claimed).Atomic := by
  unfold unbindBy
  refine (Reads.identifying _).bind_atomic fun _ => (Reads.identifying _).bind_atomic fun address => ?_
  refine (Reads.ask _).bind_atomic fun proven => ?_
  cases proven with
  | false => exact (Reads.throw _).atomic
  | true =>
    refine (signed_reads settings _).bind_atomic fun payload => (Atomic.change _).bind fun removed => ?_
    cases removed with
    | false => exact .pure _
    | true => exact (Succeeds.modify _).bind fun _ => .pure _

/-- Finding nothing to remove is no change either. -/
theorem unbind_notFound {settings : ServiceSettings} {remote : Remote ω} {readings : UnbindReadings} {medium : Medium}
    {raw account : String} {claimed : ClaimedSignature} {s t : Service ω}
    (h : (unbind settings remote readings medium raw account claimed).result s = (.ok .notFound, t)) :
    ∃ world, t = { s with world } := by
  obtain ⟨fault, -, hcase⟩ | ⟨address, proven, world, -, -, -, hcase⟩ :=
    unbind_cases settings remote readings medium raw account claimed s
  · cases h.symm.trans hcase
  · have hresult := h.symm.trans hcase
    cases proven with
    | false => cases hresult
    | true =>
      rw [if_pos rfl, removal] at hresult
      split at hresult
      · cases hresult
      · rename_i database hdelete
        obtain ⟨-, rfl⟩ | ⟨hfound, -⟩ := Database.delete_ok hdelete
        · cases hresult
          exact ⟨world, rfl⟩
        · cases hfound
      · cases hresult

end Binder

/-! ### Marks -/

namespace AssociationLog
variable {log : AssociationLog} {p : LogRow → Bool} {identifier : Identifier}

/-- The entries `kept` are `rows` with the mark taken from the active entry `r`. -/
def Unmarks (r : LogRow) (rows kept : List LogRow) : Prop :=
  r.active = true ∧ ∃ front back, rows = front ++ r :: back ∧ kept = front ++ { r with active := false } :: back

theorem Sound.unmarks (h : log.Sound) {r : LogRow} (hr : r ∈ log.rows) (hactive : r.active = true) (hpr : p r = true)
    (hp : ∀ q ∈ log.rows, q.active = true → p q = true → q.identifier = r.identifier) :
    Unmarks r log.rows (log.rows.map (LogRow.cleared p)) := by
  have hits : ∀ q ∈ log.rows, q.sequence ≠ r.sequence → q.cleared p = q := by
    intro q hq hne
    refine if_neg fun hit => hne ?_
    obtain ⟨hqactive, hpq⟩ := Bool.and_eq_true_iff.mp hit
    rw [h.eq_of_active hq hr hqactive hactive (hp q hq hqactive hpq)]
  obtain ⟨front, back, hrows⟩ := List.append_of_mem hr
  have ascending := h.ascending
  rw [hrows] at ascending hits
  obtain ⟨-, hback, hfront⟩ := List.pairwise_append.mp ascending
  have same_front : front.map (LogRow.cleared p) = front := by
    refine (List.map_congr_left fun q hq => ?_).trans (List.map_id front)
    exact hits q (List.mem_append_left _ hq) (Int64.ne_of_lt (hfront q hq r List.mem_cons_self))
  have same_back : back.map (LogRow.cleared p) = back := by
    refine (List.map_congr_left fun q hq => ?_).trans (List.map_id back)
    exact hits q (by simp [hq]) (Int64.ne_of_lt ((List.pairwise_cons.mp hback).1 q hq)).symm
  refine ⟨hactive, front, back, hrows, ?_⟩
  rw [hrows, List.map_append, List.map_cons, same_front, same_back, LogRow.cleared, hactive, hpr]
  rfl

/-- Superseding takes the mark from one entry at most. -/
theorem Sound.unmarks_or (h : log.Sound) (hp : ∀ q ∈ log.rows, p q = true → q.identifier = identifier) :
    log.rows.map (LogRow.cleared p) = log.rows ∨
      ∃ r, r.identifier = identifier ∧ Unmarks r log.rows (log.rows.map (LogRow.cleared p)) := by
  by_cases found : ∃ r ∈ log.rows, r.active = true ∧ p r = true
  · obtain ⟨r, hr, hactive, hpr⟩ := found
    have hid := hp r hr hpr
    exact .inr ⟨r, hid, h.unmarks hr hactive hpr fun q hq _ hpq => (hp q hq hpq).trans hid.symm⟩
  · refine .inl (map_cleared_eq (List.countP_eq_zero.mpr fun r hr hit => found ?_))
    exact ⟨r, hr, Bool.and_eq_true_iff.mp hit⟩

end AssociationLog

namespace Ledger
open Binder AssociationLog
variable [SignatureScheme] {ω : Type}

/-- Whatever requests a service with an empty log has answered: a bind or unbind that fails, with any transaction in
    the place of the one that it runs on the log, so at any statement of it, leaves all tables, the numbers, the
    invites that wait for delivery and the senders as they were, and so does an unbind that finds nothing. A bind
    that is answered puts what it answers at the end of the log and takes the mark from one entry of the identifier
    at most; an unbind that removes takes the mark from the entry that binds the account and puts one tombstone of
    its identifier at the end. -/
theorem requests_all_or_nothing (settings : ServiceSettings) (service : Service ω) (events : List (Event ω)) :
    let s := (run settings (start service) events).service
    let log := s.database.associations
    (∀ now medium raw account validated,
      bindBy upsert settings now medium raw account validated =
        (bind settings now medium raw account validated : Operation ω _) ∧
      ∀ supersede e t, (bindBy supersede settings now medium raw account validated).result s = (.error e, t) →
        ∃ world, t = { s with world }) ∧
    (∀ remote readings medium raw account claimed,
      unbindBy delete settings remote readings medium raw account claimed =
        (unbind settings remote readings medium raw account claimed : Operation ω _) ∧
      (∀ remove e t, (unbindBy remove settings remote readings medium raw account claimed).result s = (.error e, t) →
        ∃ world, t = { s with world }) ∧
      ∀ t, (unbind settings remote readings medium raw account claimed).result s = (.ok .notFound, t) →
        ∃ world, t = { s with world }) ∧
    (∀ now medium raw account validated a t,
      (bind settings now medium raw account validated).result s = (.ok a, t) →
      ∃ kept, t.database = { s.database with associations :=
          ⟨kept ++ [⟨a.toNewAssociation, a.sequence, false, true⟩], a.sequence⟩ } ∧ log.last < a.sequence ∧
        (kept = log.rows ∨ ∃ r, r.identifier = ⟨a.medium, a.address⟩ ∧ Unmarks r log.rows kept)) ∧
    ∀ remote readings medium raw account claimed t,
      (unbind settings remote readings medium raw account claimed).result s = (.ok .removed, t) →
      ∃ r kept tombstone, t.database = { s.database with associations :=
          ⟨kept ++ [tombstone], tombstone.sequence⟩ } ∧ log.last < tombstone.sequence ∧
        Unmarks r log.rows kept ∧ r.tombstone = false ∧ r.account = account ∧ r.notEnded readings.removed = true ∧
        Address.canonicalize medium raw = .ok r.address ∧ r.medium = medium ∧
        tombstone.tombstone = true ∧ tombstone.active = false ∧ tombstone.identifier = r.identifier ∧
        tombstone.account = account := by
  intro s log
  have sound : log.Sound := ((recorded_start service).run events).sound
  refine ⟨fun now medium raw account validated => ⟨rfl, fun supersede e t hresult => ?_⟩,
    fun remote readings medium raw account claimed => ⟨rfl, fun remove e t hresult => ?_, fun t hresult => ?_⟩, ?_, ?_⟩
  · exact bindBy_atomic supersede settings now medium raw account validated s e t hresult
  · exact unbindBy_atomic remove settings remote readings medium raw account claimed s e t hresult
  · exact unbind_notFound hresult
  · intro now medium raw account validated a t hresult
    obtain ⟨e, hcase⟩ | ⟨address, sequence, database, -, -, hupsert, hcase⟩ :=
      bind_cases settings now medium raw account validated s
    · cases hresult.symm.trans hcase
    · cases hresult.symm.trans hcase
      obtain ⟨room, rfl, rfl⟩ := Database.upsert_ok hupsert
      refine ⟨_, rfl, last_lt_succ room, ?_⟩
      exact sound.unmarks_or fun q _ hq => by simpa using hq
  · intro remote readings medium raw account claimed t hresult
    have writes := unbind_writes settings remote readings medium raw account claimed s
    rw [hresult] at writes
    obtain ⟨hanswer, -⟩ | ⟨address, haddress, -, room, ⟨r, hr, hactive, hremoves⟩, hdatabase⟩ := writes
    · exact absurd rfl hanswer
    · have about : ∀ q, removes ⟨medium, address⟩ account readings.removed q = true → q.identifier = ⟨medium, address⟩ := by
        intro q hq
        simp only [removes, Bool.and_eq_true, decide_eq_true_eq] at hq
        exact hq.1.1
      have hid : r.identifier = ⟨medium, address⟩ := about r hremoves
      have marks := sound.unmarks hr hactive hremoves fun q _ _ hq => (about q hq).trans hid.symm
      simp only [removes, Bool.and_eq_true, decide_eq_true_eq] at hremoves
      cases hid
      exact ⟨r, _, _, hdatabase, last_lt_succ room, marks, ((sound.active_iff r hr).mp hactive).1, hremoves.1.2,
        hremoves.2, haddress, rfl, rfl, rfl, rfl, rfl⟩

/-- A transaction that finds no number left after it has taken the mark from the active entry. -/
def superseding (new : NewAssociation) : Transaction AssociationLog Int64 := do
  let _ ← AssociationLog.deactivate fun r => r.identifier = ⟨new.medium, new.address⟩
  throw .numbersExhausted

omit [SignatureScheme] in
/-- What is bound stays bound when such a transaction fails, gets a higher number when it is bound again, and can be
    removed for its account. -/
theorem requests_all_or_nothing_superseded :
    let _ : SignatureScheme := .transparent
    let s := (run (lasting 1000) (start (fresh [])) [.bind 0 .email "john@example.com" "@john:a.org" true]).service
    (∃ t, (bindBy superseding (lasting 1000) 5 .email "john@example.com" "@jane:a.org" true).result s =
      (.error (.storage .numbersExhausted), t) ∧ ∃ world, t = { s with world }) ∧
    (∃ a t, (bind (lasting 1000) 5 .email "john@example.com" "@jane:a.org" true).result s = (.ok a, t) ∧
      s.database.associations.last < a.sequence) ∧
    ∃ t r, (unbind (lasting 1000) trusting ⟨7, 6, 5⟩ .email "john@example.com" "@john:a.org"
      ⟨"a.org", "ed25519:0", "AAAA"⟩).result s = (.ok .removed, t) ∧ r.account = "@john:a.org" ∧
      ∃ kept, Unmarks r s.database.associations.rows kept := by
  intro scheme s
  obtain ⟨binds, -, bound, removed⟩ := requests_all_or_nothing (lasting 1000) (fresh [])
    [.bind 0 .email "john@example.com" "@john:a.org" true]
  refine ⟨⟨_, rfl, (binds 5 .email "john@example.com" "@jane:a.org" true).2 superseding _ _ rfl⟩, ?_, ?_⟩
  · obtain ⟨-, -, higher, -⟩ := bound 5 .email "john@example.com" "@jane:a.org" true _ _ rfl
    exact ⟨_, _, rfl, higher⟩
  · obtain ⟨r, kept, -, -, -, marks, -, owner, -⟩ := removed trusting ⟨7, 6, 5⟩ .email "john@example.com" "@john:a.org"
      ⟨"a.org", "ed25519:0", "AAAA"⟩ _ rfl
    exact ⟨_, r, rfl, owner, kept, marks⟩

end Ledger

end IdentityServer
