import IdentityServer.Invite.Delivery
import IdentityServer.Proofs.Outcome

/-! # Deliveries leave the log alone

Delivering invites reads who is bound and writes the table of invites. Whatever it comes to, the log of
associations stays as it was; statement by statement, since every statement of an operation keeps it. -/

namespace IdentityServer

namespace Operation
variable {ω α β : Type}

/-- An operation that leaves the log of associations as it was, whether it fails or not. -/
def KeepsLog (operation : Operation ω α) : Prop :=
  ∀ s, (operation.result s).2.database.associations = s.database.associations

namespace KeepsLog

theorem pure (a : α) : (Pure.pure a : Operation ω α).KeepsLog := fun _ => rfl

theorem bind {operation : Operation ω α} {next : α → Operation ω β} (h : operation.KeepsLog)
    (h' : ∀ a, (next a).KeepsLog) : (operation >>= next).KeepsLog := by
  intro s
  have first := h s
  rw [result_bind]
  generalize operation.result s = result at first
  obtain ⟨answer, t⟩ := result
  cases answer with
  | ok a => exact (h' a t).trans first
  | error e => exact first

theorem get : (MonadState.get : Operation ω (Service ω)).KeepsLog := fun _ => rfl

theorem query (read : Database → Except ServiceError α) : (Operation.query read : Operation ω α).KeepsLog :=
  fun _ => rfl

theorem ask (question : StateM ω α) : (Operation.ask question).KeepsLog := fun _ => rfl

theorem modify {f : Service ω → Service ω} (h : ∀ s, (f s).database.associations = s.database.associations) :
    (modify f : Operation ω Unit).KeepsLog :=
  h

theorem attempt {operation : Operation ω α} (h : operation.KeepsLog) : (Operation.attempt operation).KeepsLog :=
  h

theorem change {write : Database → Except ServiceError (α × Database)}
    (h : ∀ db a next, write db = .ok (a, next) → next.associations = db.associations) :
    (Operation.change write : Operation ω α).KeepsLog := by
  intro s
  cases hwrite : write s.database with
  | ok written =>
    rw [result_change_ok hwrite]
    exact h _ _ _ hwrite
  | error e => rw [result_change_error hwrite]

theorem foldlM {f : β → α → Operation ω β} (h : ∀ b a, (f b a).KeepsLog) (xs : List α) (b : β) :
    (xs.foldlM f b).KeepsLog := by
  induction xs generalizing b with
  | nil => exact pure b
  | cons x rest ih =>
    rw [List.foldlM_cons]
    exact (h b x).bind ih

theorem forM {f : α → Operation ω Unit} (h : ∀ a, (f a).KeepsLog) (xs : List α) : (xs.forM f).KeepsLog := by
  induction xs with
  | nil => exact pure ()
  | cons x rest ih =>
    show (f x >>= fun _ => rest.forM f).KeepsLog
    exact (h x).bind fun _ => ih

end KeepsLog

end Operation

namespace Delivery
open Operation
variable {ω : Type} (settings : ServiceSettings) (remote : Remote ω) (readings : PassReadings)

theorem record_keepsLog (sentAt : Int64) (t : InviteToken) : (record settings sentAt t : Operation ω Unit).KeepsLog := by
  refine .change fun db a next h => ?_
  simp only at h
  split at h
  · obtain ⟨written, hdelete, h⟩ := bind_eq_ok.mp h
    obtain ⟨-, -, hwritten⟩ := bind_eq_ok.mp hdelete
    cases h
    cases hwritten
    rfl
  · obtain ⟨written, hmark, h⟩ := bind_eq_ok.mp h
    obtain ⟨-, -, hwritten⟩ := bind_eq_ok.mp hmark
    cases h
    cases hwritten
    rfl

theorem deliverToken_keepsLog (account : String) (outcome : Delivered) (t : InviteToken) :
    (deliverToken settings remote readings account outcome t).KeepsLog := by
  unfold deliverToken
  split
  · exact .pure outcome
  · refine .bind .get fun s => .bind (.ask _) fun answer => ?_
    cases answer with
    | error e => exact .pure _
    | ok =>
      refine .bind (.attempt (record_keepsLog settings (readings.sent t.id) t)) fun recorded => ?_
      cases recorded with
      | ok => exact .pure _
      | error e => exact .pure _

theorem deliverPending_keepsLog (identifier : Identifier) :
    (deliverPending settings remote readings identifier).KeepsLog := by
  unfold deliverPending
  refine .bind (.query _) fun found => ?_
  cases found with
  | none => exact .pure _
  | some association =>
    refine .bind (.query _) fun tokens => .bind ?_ fun _ => .pure _
    exact .foldlM (deliverToken_keepsLog settings remote readings association.account) tokens {}

theorem deliverNext_keepsLog (identifier : Identifier) : (deliverNext settings remote readings identifier).KeepsLog :=
  .bind (.attempt (deliverPending_keepsLog settings remote readings identifier)) fun _ => .modify fun _ => rfl

theorem drain_keepsLog (readings : Nat → PassReadings) : (drain settings remote readings).KeepsLog := by
  refine .bind .get fun s => .forM (fun entry => ?_) s.deliveries.zipIdx
  exact deliverNext_keepsLog settings remote (readings entry.2) entry.1

theorem pruneExpired_keepsLog (now : Int64) : (pruneExpired settings now : Operation ω Nat).KeepsLog := by
  unfold pruneExpired
  split
  · refine .change fun db a next h => ?_
    obtain ⟨-, -, h⟩ := bind_eq_ok.mp h
    cases h
    rfl
  · exact .pure 0

theorem retry_keepsLog (readings : RetryReadings) : (retry settings remote readings).KeepsLog := by
  refine .bind (pruneExpired_keepsLog settings readings.pruned) fun pruned => .bind (.query _) fun tokens => ?_
  refine .foldlM (fun report entry => ?_) _ _
  refine .bind (deliverPending_keepsLog settings remote (readings.pass entry.1) entry.1) fun outcome => ?_
  cases outcome with
  | none => exact .pure _
  | some _ => exact .pure _

end Delivery

end IdentityServer
