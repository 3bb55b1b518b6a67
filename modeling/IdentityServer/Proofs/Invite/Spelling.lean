import IdentityServer.Proofs.Binding.GenuineLog
import IdentityServer.Proofs.Invite.Lifecycle

/-! # Spellings of what was invited

A bind is for the canonical spelling of an address, and so is all that follows from it; an invite is kept under the
spelling that it came with. So an invite is attempted if it came with the canonical spelling, and never otherwise. -/

namespace IdentityServer

/-- All addresses of the log are canonical. -/
def AssociationLog.Canonical (log : AssociationLog) : Prop :=
  ∀ r ∈ log.rows, Address.canonicalize r.medium r.address = .ok r.address

namespace AssociationLog
variable {log next : AssociationLog}

theorem Canonical.grows [SignatureScheme] {key : KeyPair} {server : String} (h : log.Canonical)
    (grows : Grows key server log next) : next.Canonical := by
  intro r hr
  obtain ⟨q, hq, p, rfl⟩ | ⟨genuine, -⟩ := grows.mem hr
  · have same : (q.cleared p).identifier = q.identifier := LogRow.cleared_identifier
    obtain ⟨medium, address⟩ := (Identifier.mk.injEq ..).mp same
    rw [medium, address]
    exact h q hq
  · exact genuine.address

/-- What is found to be bound is canonical. -/
theorem Canonical.found (h : log.Canonical) {identifier : Identifier} {now : Int64} {a : Association}
    (found : log.getActive identifier now = some a) :
    Address.canonicalize identifier.medium identifier.address = .ok identifier.address := by
  obtain ⟨r, hr, -⟩ := Option.map_eq_some_iff.mp found
  have satisfies := List.find?_some hr
  simp only [Bool.and_eq_true, decide_eq_true_eq] at satisfies
  obtain ⟨⟨⟨rfl, -⟩, -⟩, -⟩ := satisfies
  exact h r (List.mem_of_find?_eq_some hr)

end AssociationLog

namespace Journal
open Delivery
variable [SignatureScheme] {ω : Type} {settings : ServiceSettings} {j : Journal ω}

/-- Whatever else happens puts no other spelling into the log. -/
def Event.Quiet : Event ω → Prop
  | .elsewhere t _ => t.database.associations.Canonical
  | _ => True

theorem Event.canonical_after {s : Service ω} (h : s.database.associations.Canonical) {event : Event ω}
    (quiet : event.Quiet) : (event.after settings s).database.associations.Canonical := by
  cases event with
  | store identifier room sender token now =>
    cases hstore : s.database.storeInvite identifier room sender token now with
    | error e => simpa only [after, hstore] using h
    | ok stored =>
      obtain ⟨t, database⟩ := stored
      obtain ⟨-, -, rfl⟩ := Database.storeInvite_ok hstore
      simpa only [after, hstore] using h
  | bind now medium raw account validated =>
    have recorded : Binder.Recorded settings s ((Binder.bind settings now medium raw account validated).result s).2 :=
      Binder.bind_recorded validated
    exact h.grows recorded.grows
  | unbind remote readings medium raw account claimed =>
    obtain ⟨world, -, recorded⟩ : ∃ world, _ ∧ Binder.Recorded settings { s with world }
        ((Binder.unbind settings remote readings medium raw account claimed).result s).2 :=
      Binder.unbind_recorded remote readings claimed
    exact h.grows recorded.grows
  | scheduled remote readings identifier =>
    have same := deliverNext_keepsLog settings remote readings identifier s
    rwa [after, same]
  | prune now =>
    have same := pruneExpired_keepsLog settings now s
    rwa [after, same]
  | pass remote readings identifier =>
    have same := deliverPending_keepsLog settings remote readings identifier s
    rwa [after, same]
  | elsewhere t records => exact quiet

/-- What is bound is canonical, and what was attempted was. -/
structure Spelled (j : Journal ω) : Prop where
  log : j.service.database.associations.Canonical
  attempts : ∀ a ∈ j.attempts, Address.canonicalize a.token.medium a.token.address = .ok a.token.address

omit [SignatureScheme] in
theorem Spelled.passAttempts (h : j.Spelled) {remote : Remote ω} {readings : PassReadings} {identifier : Identifier} :
    ∀ a ∈ Delivery.passAttempts settings remote readings identifier j.service,
      Address.canonicalize a.token.medium a.token.address = .ok a.token.address := by
  intro a ha
  obtain ⟨rfl, association, hactive⟩ := mem_passAttempts ha
  obtain ⟨-, -, hfound⟩ := bind_eq_ok.mp hactive
  exact h.log.found (Except.ok.inj hfound)

theorem Spelled.step (h : j.Spelled) {event : Event ω} (quiet : event.Quiet) : (j.step settings event).Spelled := by
  refine ⟨event.canonical_after h.log quiet, List.forall_mem_append.mpr ⟨h.attempts, ?_⟩⟩
  cases event with
  | scheduled remote readings identifier => exact h.passAttempts
  | pass remote readings identifier => exact h.passAttempts
  | _ => nofun

theorem Spelled.run (h : j.Spelled) {events : List (Event ω)} (quiet : ∀ event ∈ events, event.Quiet) :
    (j.run settings events).Spelled := by
  induction events generalizing j with
  | nil => exact h
  | cons event rest ih =>
    obtain ⟨first, rest⟩ := List.forall_mem_cons.mp quiet
    exact ih (h.step first) rest

/-- A bind for any spelling has the canonical one delivered, and leaves the invites as they are. -/
theorem bind_schedules {s : Service ω} {now : Int64} {medium : Medium} {raw account c : String} {validated : Bool}
    {association : Association} (hraw : Address.canonicalize medium raw = .ok c)
    (answer : ((Binder.bind settings now medium raw account validated).result s).1 = .ok association) :
    let next := Event.after settings s (.bind now medium raw account validated)
    next.deliveries = s.deliveries ++ [⟨medium, c⟩] ∧ next.database.invites = s.database.invites := by
  obtain ⟨e, hresult⟩ | ⟨address, sequence, database, -, haddress, hupsert, hresult⟩ :=
    Binder.bind_cases settings now medium raw account validated s
  · rw [hresult] at answer
    cases answer
  · cases hraw.symm.trans haddress
    obtain ⟨-, -, rfl⟩ := Database.upsert_ok hupsert
    rw [Event.after, hresult]
    exact ⟨rfl, rfl⟩

/-- Take a spelling of an address. Whatever happens to a service whose log holds canonical addresses, invites that came
    with this spelling are only attempted if it is the canonical one. A bind for any spelling of the address has the
    invites of the canonical one delivered; and as long as that one is bound, every pass for it attempts an invite that came
    with the given spelling, waits and has not expired, if and only if this is the canonical one. -/
theorem attempted_iff_canonical (settings : ServiceSettings) (service : Service ω)
    (canonical : service.database.associations.Canonical) {events : List (Event ω)} (quiet : ∀ event ∈ events, event.Quiet)
    {medium : Medium} {raw c : String} (hraw : Address.canonicalize medium raw = .ok c) :
    let j := (start service).run settings events
    (∀ a ∈ j.attempts, a.token.identifier = ⟨medium, raw⟩ → raw = c) ∧
    (∀ other now account validated association, Address.canonicalize medium other = .ok c →
      ((Binder.bind settings now medium other account validated).result j.service).1 = .ok association →
      let next := j.step settings (.bind now medium other account validated)
      next.service.deliveries = j.service.deliveries ++ [⟨medium, c⟩] ∧ next.table = j.table) ∧
    ∀ remote readings, ∀ t ∈ j.table.rows, t.identifier = ⟨medium, raw⟩ → t.sentAt = none →
      t.isExpired settings.validity readings.begun = false →
      (∃ association, j.service.database.getActive ⟨medium, c⟩ readings.bound = .ok (some association)) →
      j.service.database.available .pending = .ok () →
      ((∃ a ∈ passAttempts settings remote readings ⟨medium, c⟩ j.service, a.token = t) ↔ raw = c) := by
  intro j
  have spelled : j.Spelled := Spelled.run (j := start service) ⟨canonical, nofun⟩ quiet
  refine ⟨fun a ha hid => ?_, fun other now account validated association hother answer => bind_schedules hother answer,
    fun remote readings t ht hid waiting valid bound available => ?_⟩
  · obtain ⟨rfl, rfl⟩ := (Identifier.mk.injEq ..).mp hid
    exact Except.ok.inj ((spelled.attempts a ha).symm.trans hraw)
  · rw [exists_passAttempts_iff bound available, hid, Identifier.mk.injEq]
    exact ⟨fun attempted => attempted.2.1.2, fun same => ⟨ht, ⟨rfl, same⟩, waiting, valid⟩⟩

omit [SignatureScheme] in
/-- Two invites of one address, of which the second came with the canonical spelling: it alone is attempted, once the
    address was bound under a third spelling. -/
theorem attempted_iff_canonical_second :
    let _ : SignatureScheme := .transparent
    let settings := Ledger.lasting 1000
    let john : Identifier := ⟨.email, "john@example.com"⟩
    let events : List (Event Unit) := [.store ⟨.email, "John@Example.com"⟩ "!room:a.org" "@jane:a.org" "first" 0,
      .store john "!room:a.org" "@jane:a.org" "second" 0, .bind 10 .email "JOHN@example.com" "@john:a.org" true]
    let j := (start (Ledger.fresh [])).run settings events
    j.table.rows.map (·.token) = ["first", "second"] ∧ j.service.deliveries = [john] ∧
    ∀ t ∈ j.table.rows, (∃ a ∈ passAttempts settings Ledger.trusting (.fixed 10) john j.service, a.token = t) ↔
      t.token = "second" := by
  intro scheme settings john events j
  have canonical : (Ledger.fresh []).database.associations.Canonical := nofun
  have quiet : ∀ event ∈ events, event.Quiet := by simp [events, Event.Quiet]
  have bound : ∃ association, j.service.database.getActive john 10 = .ok (some association) :=
    exists_eq_ok_some (by decide +kernel +zetaReduce)
  have available : j.service.database.available .pending = .ok () := by decide +kernel +zetaReduce
  have rows : j.table.rows = [⟨1, .email, "John@Example.com", "!room:a.org", "@jane:a.org", "first", 0, none⟩,
      ⟨2, .email, "john@example.com", "!room:a.org", "@jane:a.org", "second", 0, none⟩] := by
    decide +kernel +zetaReduce
  have misspelled : Address.canonicalize .email "John@Example.com" = .ok "john@example.com" := by decide +kernel
  have spelled : Address.canonicalize .email "john@example.com" = .ok "john@example.com" := by decide +kernel
  obtain ⟨-, -, first⟩ := attempted_iff_canonical settings (Ledger.fresh []) canonical quiet misspelled
  obtain ⟨-, -, second⟩ := attempted_iff_canonical settings (Ledger.fresh []) canonical quiet spelled
  refine ⟨by decide +kernel +zetaReduce, by decide +kernel +zetaReduce, fun t ht => ?_⟩
  have first := first Ledger.trusting (.fixed 10) t ht
  have second := second Ledger.trusting (.fixed 10) t ht
  rw [rows] at ht
  rcases List.mem_pair.mp ht with rfl | rfl
  · exact (first rfl rfl rfl bound available).trans (by decide)
  · exact (second rfl rfl rfl bound available).trans (by decide)

omit [SignatureScheme] in
/-- An invite for an address that is bound under another spelling is delivered neither by the bind nor by a retry, though
    both spellings have one canonical form. -/
theorem misspelled_never_delivered :
    let _ : SignatureScheme := .transparent
    let settings := Ledger.lasting 1000
    let events (raw : String) : List (Event Unit) := [.store ⟨.email, raw⟩ "!room:a.org" "@jane:a.org" "secret" 0,
      .bind 10 .email "john@example.com" "@john:a.org" true,
      .scheduled Ledger.trusting (.fixed 10) ⟨.email, "john@example.com"⟩]
    let j (raw : String) := (start (Ledger.fresh [])).run settings (events raw)
    Address.canonicalize .email "John@Example.com" = Address.canonicalize .email "john@example.com" ∧
    (j "John@Example.com").attempts.length = 0 ∧ (j "john@example.com").attempts.length = 1 ∧
    ((retry settings Ledger.trusting (.fixed 20)).result (j "John@Example.com").service).1 = .ok { waiting := 1 } := by
  decide +kernel +zetaReduce

end Journal

end IdentityServer
