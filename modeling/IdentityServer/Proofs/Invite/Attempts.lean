import IdentityServer.Invite.Delivery
import IdentityServer.Proofs.Store.InviteTable

/-! # Attempts

What a pass does is a sequence of attempts: each asks the world to deliver one waiting invite and records a success at
once, so the next one finds the record. An invite that is not attempted, and an attempt that fails, leave the service
as it was. -/

namespace IdentityServer
open Operation
variable {ω : Type}

/-- The store can record that an invite was delivered. -/
structure Database.Records (db : Database) : Prop where
  mark : db.available .markSent = .ok ()
  delete : db.available .deleteInvite = .ok ()

/-- An attempt to deliver an invite: by which clock, to which account, and the service that makes it. -/
structure Attempt (ω : Type) where
  remote : Remote ω
  readings : PassReadings
  account : String
  token : InviteToken
  before : Service ω

namespace Attempt

def notice (a : Attempt ω) : InviteNotice :=
  a.token.notice a.account

/-- What the world answers, and the world afterwards. -/
def asked (a : Attempt ω) : Except FederationError Unit × ω :=
  (a.remote.deliver a.before.ring.current a.notice).run a.before.world

def succeeded (a : Attempt ω) : Bool :=
  a.asked.1.isOk

/-- When the invite is marked as delivered, if it is marked. -/
def sentAt (a : Attempt ω) : Int64 :=
  a.readings.sent a.token.id

/-- The service after an attempt. -/
def after (settings : ServiceSettings) (a : Attempt ω) : Service ω :=
  ((Delivery.deliverToken settings a.remote a.readings a.account {} a.token).result a.before).2

/-- An attempt as it should be: a success can be recorded, the invite is in the table and waits, its validity has not
    passed, and it goes to the account that its identifier is bound to. -/
structure Proper (settings : ServiceSettings) (a : Attempt ω) : Prop where
  records : a.before.database.Records
  stored : a.token ∈ a.before.database.invites.rows
  waiting : a.token.sentAt = none
  valid : a.token.isExpired settings.validity a.readings.begun = false
  bound : ∃ association, a.before.database.getActive a.token.identifier a.readings.bound = .ok (some association) ∧
    association.account = a.account

end Attempt

namespace Delivery
variable {settings : ServiceSettings} {remote : Remote ω} {readings : PassReadings} {account : String} {s : Service ω}
  {t : InviteToken}

theorem result_attempt {α : Type} (operation : Operation ω α) :
    (attempt operation).result s = (.ok (operation.result s).1, (operation.result s).2) := rfl

/-- The service after an invite was looked at: the invite is passed over, or the world has been asked, and a success is
    recorded. -/
def settled (settings : ServiceSettings) (remote : Remote ω) (readings : PassReadings) (account : String)
    (t : InviteToken) (s : Service ω) : Service ω :=
  if t.isDelivered || t.isExpired settings.validity readings.begun then s
  else
    match (remote.deliver s.ring.current (t.notice account)).run s.world with
    | (.ok _, world) => { s with world, database :=
        { s.database with invites :=
          s.database.invites.delivered settings.deleteOnDelivery t (readings.sent t.id) } }
    | (.error _, world) => { s with world }

theorem result_record (records : s.database.Records) (sentAt : Int64) :
    (record settings sentAt t).result s = (.ok (), { s with database :=
      { s.database with invites := s.database.invites.delivered settings.deleteOnDelivery t sentAt } }) := by
  refine result_change_ok ?_
  cases settings.deleteOnDelivery with
  | true => simp [Database.deleteInvite, records.delete, bind_ok, InviteTable.delivered, pure, Except.pure]
  | false => simp [Database.markSent, records.mark, bind_ok, InviteTable.delivered, pure, Except.pure]

/-- Delivering never fails, and the counts have no say in what it does. -/
theorem result_deliverToken (records : s.database.Records) (outcome : Delivered) :
    ∃ next, (deliverToken settings remote readings account outcome t).result s =
      (.ok next, settled settings remote readings account t s) := by
  unfold deliverToken settled
  by_cases skipped : (t.isDelivered || t.isExpired settings.validity readings.begun) = true
  · rw [if_pos skipped, if_pos skipped]
    exact ⟨outcome, rfl⟩
  · rw [if_neg skipped, if_neg skipped, result_bind_ok result_get, result_bind_ok (result_ask _)]
    rcases (remote.deliver s.ring.current (t.notice account)).run s.world with ⟨_ | _, world⟩
    · exact ⟨_, rfl⟩
    · dsimp only
      have recorded := @result_record ω settings { s with world } t records (readings.sent t.id)
      rw [result_bind_ok (result_attempt _), recorded]
      exact ⟨_, rfl⟩

/-- Whatever becomes of an invite, the others stay in the table, and besides the table only the world changes. -/
theorem settled_keeps (settings : ServiceSettings) (remote : Remote ω) (readings : PassReadings) (account : String)
    (t : InviteToken) (s : Service ω) :
    ∃ world invites,
      settled settings remote readings account t s = { s with world, database := { s.database with invites } } ∧
      ∀ r ∈ s.database.invites.rows, r.id ≠ t.id → r ∈ invites.rows := by
  unfold settled
  split
  · exact ⟨s.world, s.database.invites, rfl, fun r hr _ => hr⟩
  · split
    · rename_i world hasked
      exact ⟨world, _, rfl, fun r hr other => InviteTable.mem_delivered_other hr other⟩
    · rename_i world hasked
      exact ⟨world, s.database.invites, rfl, fun r hr _ => hr⟩

end Delivery

namespace Attempt
open Delivery
variable {settings : ServiceSettings} {a : Attempt ω}

theorem after_eq (records : a.before.database.Records) :
    a.after settings = settled settings a.remote a.readings a.account a.token a.before := by
  obtain ⟨next, hnext⟩ := result_deliverToken records {}
  exact congrArg Prod.snd hnext

theorem Proper.after_eq (h : a.Proper settings) : a.after settings =
    match a.asked with
    | (.ok _, world) => { a.before with world, database := { a.before.database with
        invites := a.before.database.invites.delivered settings.deleteOnDelivery a.token a.sentAt } }
    | (.error _, world) => { a.before with world } := by
  rw [Attempt.after_eq h.records]
  refine if_neg ?_
  simp [InviteToken.isDelivered, h.waiting, h.valid]

/-- A failed attempt changes nothing. -/
theorem Proper.after_failed (h : a.Proper settings) (failed : a.succeeded = false) :
    a.after settings = { a.before with world := a.asked.2 } := by
  rw [h.after_eq]
  unfold succeeded at failed
  rcases hasked : a.asked with ⟨answer, world⟩
  cases answer with
  | error e => rfl
  | ok =>
    rw [hasked] at failed
    cases failed

/-- A successful attempt is recorded before anything else happens. -/
theorem Proper.after_succeeded (h : a.Proper settings) (succeeded : a.succeeded = true) :
    a.after settings = { a.before with world := a.asked.2, database := { a.before.database with
      invites := a.before.database.invites.delivered settings.deleteOnDelivery a.token a.sentAt } } := by
  rw [h.after_eq]
  unfold Attempt.succeeded at succeeded
  rcases hasked : a.asked with ⟨answer, world⟩
  cases answer with
  | error e =>
    rw [hasked] at succeeded
    cases succeeded
  | ok => rfl

end Attempt

/-! ### Passes -/

/-- Attempts that lead from one service to another, each one to the next. -/
def Leads (settings : ServiceSettings) : Service ω → List (Attempt ω) → Service ω → Prop
  | s, [], t => t = s
  | s, a :: rest, t => a.before = s ∧ Leads settings (a.after settings) rest t

namespace Delivery
variable {settings : ServiceSettings} {remote : Remote ω} {readings : PassReadings} {account : String}
  {identifier : Identifier} {s : Service ω} {tokens : List InviteToken} {t : InviteToken}

/-- The attempts to deliver invites, one after the other. -/
def attemptsOn (settings : ServiceSettings) (remote : Remote ω) (readings : PassReadings) (account : String) :
    List InviteToken → Service ω → List (Attempt ω)
  | [], _ => []
  | t :: rest, s =>
    if t.isDelivered || t.isExpired settings.validity readings.begun then attemptsOn settings remote readings account rest s
    else
      let a : Attempt ω := ⟨remote, readings, account, t, s⟩
      a :: attemptsOn settings remote readings account rest (a.after settings)

/-- The attempts of a pass for an identifier. -/
def passAttempts (settings : ServiceSettings) (remote : Remote ω) (readings : PassReadings) (identifier : Identifier)
    (s : Service ω) : List (Attempt ω) :=
  match s.database.getActive identifier readings.bound, s.database.pending identifier with
  | .ok (some association), .ok tokens => attemptsOn settings remote readings association.account tokens s
  | _, _ => []

/-! ### Which invites are attempted -/

/-- The invites that were not delivered and have not expired are attempted, and no others. -/
theorem exists_attemptsOn_iff : (∃ a ∈ attemptsOn settings remote readings account tokens s, a.token = t) ↔
    t ∈ tokens ∧ t.isDelivered = false ∧ t.isExpired settings.validity readings.begun = false := by
  induction tokens generalizing s with
  | nil => simp [attemptsOn]
  | cons r rest ih =>
    rw [attemptsOn]
    split
    · rename_i skipped
      rw [ih, List.mem_cons]
      refine and_congr_left fun due => (or_iff_right ?_).symm
      rintro rfl
      simp [due] at skipped
    · rename_i due
      have due : r.isDelivered = false ∧ r.isExpired settings.validity readings.begun = false := by simpa using due
      simp only [List.mem_cons, or_and_right, exists_or, exists_eq_left, ih]
      refine or_congr_left ⟨?_, fun first => first.1.symm⟩
      rintro rfl
      exact ⟨rfl, due⟩

/-- A pass attempts invites of its identifier, if that is bound. -/
theorem mem_passAttempts {a : Attempt ω} (ha : a ∈ passAttempts settings remote readings identifier s) :
    a.token.identifier = identifier ∧
      ∃ association, s.database.getActive identifier readings.bound = .ok (some association) := by
  unfold passAttempts at ha
  split at ha
  · rename_i association tokens hactive hpending
    obtain ⟨hmem, -⟩ := exists_attemptsOn_iff.mp ⟨a, ha, rfl⟩
    obtain ⟨-, -, hpending⟩ := bind_eq_ok.mp hpending
    cases hpending
    have hpend := (List.mem_filter.mp hmem).2
    exact ⟨of_decide_eq_true (Bool.and_eq_true_iff.mp hpend).1, association, hactive⟩
  · cases ha

/-- A pass for an identifier that is bound attempts all its invites that wait and have not expired. -/
theorem exists_passAttempts_iff
    (bound : ∃ association, s.database.getActive identifier readings.bound = .ok (some association))
    (available : s.database.available .pending = .ok ()) :
    (∃ a ∈ passAttempts settings remote readings identifier s, a.token = t) ↔ t ∈ s.database.invites.rows ∧
      t.identifier = identifier ∧ t.sentAt = none ∧ t.isExpired settings.validity readings.begun = false := by
  obtain ⟨association, hactive⟩ := bound
  have hpending : s.database.pending identifier = .ok (s.database.invites.pending identifier) := by
    rw [Database.pending, available, bind_ok]
    rfl
  simp only [passAttempts, hactive, hpending]
  rw [exists_attemptsOn_iff, InviteTable.pending, List.mem_filter]
  simp [InviteToken.isDelivered, and_assoc]

/-! ### Passes as attempts -/

theorem leads_attemptsOn (records : s.database.Records) (outcome : Delivered) :
    Leads settings s (attemptsOn settings remote readings account tokens s)
      ((tokens.foldlM (deliverToken settings remote readings account) outcome).result s).2 := by
  induction tokens generalizing s outcome with
  | nil => rfl
  | cons t rest ih =>
    obtain ⟨next, hnext⟩ := result_deliverToken records outcome
    rw [List.foldlM_cons, result_bind_ok hnext, attemptsOn]
    by_cases skipped : (t.isDelivered || t.isExpired settings.validity readings.begun) = true
    · rw [if_pos skipped, settled, if_pos skipped]
      exact ih records next
    · rw [if_neg skipped]
      obtain ⟨world, invites, hsettled, -⟩ := settled_keeps settings remote readings account t s
      refine ⟨rfl, ?_⟩
      rw [Attempt.after_eq records, hsettled]
      refine ih ?_ next
      exact ⟨records.mark, records.delete⟩

/-- Whatever a pass does are its attempts. -/
theorem leads_passAttempts (records : s.database.Records) :
    Leads settings s (passAttempts settings remote readings identifier s)
      ((deliverPending settings remote readings identifier).result s).2 := by
  unfold passAttempts deliverPending
  rw [result_bind, result_query]
  cases s.database.getActive identifier readings.bound with
  | error e => rfl
  | ok found =>
    cases found with
    | none => rfl
    | some association =>
      dsimp only
      rw [result_bind, result_query]
      cases s.database.pending identifier with
      | error e => rfl
      | ok tokens =>
        dsimp only
        have leads : Leads settings s (attemptsOn settings remote readings association.account tokens s) _ :=
          leads_attemptsOn records {}
        rw [result_bind]
        generalize (tokens.foldlM (deliverToken settings remote readings association.account) {}).result s = result
          at leads ⊢
        obtain ⟨_ | _, t⟩ := result
        · exact leads
        · exact leads

theorem proper_attemptsOn (records : s.database.Records)
    (bound : ∃ association, s.database.getActive identifier readings.bound = .ok (some association) ∧
      association.account = account)
    (distinct : tokens.Pairwise fun t r => t.id ≠ r.id)
    (pending : ∀ t ∈ tokens, t ∈ s.database.invites.rows ∧ t.sentAt = none ∧ t.identifier = identifier) :
    ∀ a ∈ attemptsOn settings remote readings account tokens s, a.Proper settings := by
  induction tokens generalizing s with
  | nil => nofun
  | cons t rest ih =>
    obtain ⟨apart, distinct⟩ := List.pairwise_cons.mp distinct
    obtain ⟨⟨stored, waiting, rfl⟩, pending⟩ := List.forall_mem_cons.mp pending
    intro a ha
    rw [attemptsOn] at ha
    split at ha
    · exact ih records bound distinct pending a ha
    · rename_i due
      rcases List.mem_cons.mp ha with rfl | ha
      · exact ⟨records, stored, waiting, by simp_all, bound⟩
      · obtain ⟨world, invites, hsettled, others⟩ := settled_keeps settings remote readings account t s
        rw [Attempt.after_eq records, hsettled] at ha
        refine ih ?_ ?_ distinct (fun r hr => ?_) a ha
        · exact ⟨records.mark, records.delete⟩
        · exact bound
        exact ⟨others r (pending r hr).1 (apart r hr).symm, (pending r hr).2⟩

/-- Every attempt of a pass is as it should be. -/
theorem proper_passAttempts (records : s.database.Records) (ordered : s.database.invites.Ordered) :
    ∀ a ∈ passAttempts settings remote readings identifier s, a.Proper settings := by
  intro a ha
  cases hactive : s.database.getActive identifier readings.bound with
  | error e => simp [passAttempts, hactive] at ha
  | ok found =>
    cases found with
    | none => simp [passAttempts, hactive] at ha
    | some association =>
      cases hpending : s.database.pending identifier with
      | error e => simp [passAttempts, hactive, hpending] at ha
      | ok tokens =>
        simp only [passAttempts, hactive, hpending] at ha
        obtain ⟨-, -, hpending⟩ := bind_eq_ok.mp hpending
        cases hpending
        refine proper_attemptsOn records ⟨association, hactive, rfl⟩ ?_ (fun t ht => ?_) a ha
        · exact (ordered.ascending.filter _).imp fun hlt => Int64.ne_of_lt hlt
        · obtain ⟨stored, hpending⟩ := List.mem_filter.mp ht
          obtain ⟨hid, waiting⟩ := Bool.and_eq_true_iff.mp hpending
          exact ⟨stored, by simpa [InviteToken.isDelivered] using waiting, of_decide_eq_true hid⟩

end Delivery

end IdentityServer
