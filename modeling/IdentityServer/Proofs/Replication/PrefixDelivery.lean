import IdentityServer.Proofs.Replication.Pages
import IdentityServer.Service.Remote

/-! # Exact prefixes

Whatever a transport does, the batches that a peer acknowledged are together the log up to its cursor:
every entry once, in order and unaltered. The log grows between pushes, so a batch that is sent again need
not be the one that failed; it still starts right after the cursor. -/

namespace IdentityServer
variable {ω : Type}

/-- A remote that also remembers the batches it was handed. -/
def Remote.recorded (remote : Remote ω) : Remote (List ReplicationBatch × ω) where
  deliver key notice := onSecond (remote.deliver key notice)
  push key peer batch := do
    modify fun world => (world.1 ++ [batch], world.2)
    onSecond (remote.push key peer batch)
  owns account claimed payload now := onSecond (remote.owns account claimed payload now)

/-- What one push answers, the batches it handed to the transport, and the service it leaves. -/
structure PushReport (ω : Type) where
  answer : Except ServiceError PushOutcome
  sent : List ReplicationBatch
  service : Service ω

namespace Sender

/-- One push over a transport that remembers what it was handed. -/
def report (settings : ServiceSettings) (remote : Remote ω) (peer : Peer) (now : Int64) (s : Service ω) :
    PushReport ω :=
  let recording : Service (List ReplicationBatch × ω) := { s with world := ([], s.world) }
  let (answer, t) := (pushOnce settings remote.recorded peer now).result recording
  ⟨answer, t.world.1, { t with world := t.world.2 }⟩

/-- Only a push that is acknowledged changes a table, and it moves its own cursor to the end of the batch it
    sent. -/
inductive Reports (settings : ServiceSettings) (peer : Peer) (now : Int64) (s : Service ω) : PushReport ω → Prop
  | failed (e : ServiceError) (sent : List ReplicationBatch) (world : ω) :
    Reports settings peer now s ⟨.error e, sent, { s with world }⟩
  | caughtUp : Reports settings peer now s ⟨.ok .caughtUp, [], s⟩
  | acknowledged (batch : ReplicationBatch) (last : Int64) (world : ω) (sends : Sends settings peer s.database batch last) :
    Reports settings peer now s ⟨.ok (.pushed batch.records.length last), [batch],
      { s with world, database := s.database.advanced peer.name last now }⟩

theorem report_reports (settings : ServiceSettings) (remote : Remote ω) (peer : Peer) (now : Int64) (s : Service ω) :
    Reports settings peer now s (report settings remote peer now s) := by
  have pushes := pushOnce_pushes settings remote.recorded peer now { s with world := ([], s.world) }
  unfold report
  simp only
  generalize (pushOnce settings remote.recorded peer now).result { s with world := ([], s.world) } = result at pushes
  obtain ⟨answer, t⟩ := result
  cases pushes with
  | unsent e cause => exact .failed e [] s.world
  | caughtUp done => exact .caughtUp
  | unacknowledged batch last e answer world sends sent other => exact .failed e world.1 world.2
  | unrecorded batch last e world sends sent failed => exact .failed e world.1 world.2
  | acknowledged batch last world sends sent =>
    have hrecord : world.1 = [batch] := by
      rw [← congrArg (fun r => r.2.1) sent]
      rfl
    rw [hrecord]
    exact .acknowledged batch last world.2 sends

end Sender

/-! ### Runs -/

/-- A service and, with the names of the peers, the batches of its pushes that were acknowledged. -/
structure Shipment (ω : Type) where
  service : Service ω
  delivered : List (String × ReplicationBatch)

namespace Shipment

/-- What happens to a service that ships its log. -/
inductive Event (ω : Type) where
  | call (call : StoreCall)
  | push (remote : Remote ω) (peer : Peer) (now : Int64)

/-- A service that has just been set up: its log is empty and no peer has a cursor. -/
def start (service : Service ω) : Shipment ω where
  service := { service with database := { service.database with associations := {}, cursors := {} } }
  delivered := []

/-- The shipment after an event. A batch counts as delivered if its push answers that it was. -/
def step (settings : ServiceSettings) (s : Shipment ω) : Event ω → Shipment ω
  | .call call => { s with service := { s.service with database := s.service.database.after call } }
  | .push remote peer now =>
    let report := Sender.report settings remote peer now s.service
    { service := report.service
      delivered := match report.answer with
        | .ok (.pushed _ _) => s.delivered ++ report.sent.map fun batch => (peer.name, batch)
        | _ => s.delivered }

/-- The shipment after events, one after the other. -/
def run (settings : ServiceSettings) (s : Shipment ω) (events : List (Event ω)) : Shipment ω :=
  events.foldl (step settings) s

/-- The log of the service. -/
def log (s : Shipment ω) : AssociationLog :=
  s.service.database.associations

/-- The cursor of a peer. -/
def cursor (s : Shipment ω) (name : String) : Int64 :=
  s.service.database.cursors.get name

/-- The records that a peer acknowledged. -/
def recordsOf (s : Shipment ω) (name : String) : List ReplicatedRecord :=
  (s.delivered.filter fun d => d.1 = name).flatMap fun d => d.2.records

/-- What a peer acknowledged is the log up to its cursor, which is a place of the log. -/
structure Exact (s : Shipment ω) : Prop where
  sound : s.log.Sound
  cursor_le : ∀ name, s.cursor name ≤ s.log.last
  delivered : ∀ name,
    List.Forall₂ (fun c r => ReplicatedRecord.ofChange c = .ok r) (s.log.through (s.cursor name)) (s.recordsOf name)

theorem exact_start (service : Service ω) : Exact (start service) where
  sound := AssociationLog.sound_empty
  cursor_le _ := Int64.le_refl 0
  delivered _ := .nil

variable {settings : ServiceSettings} {s : Shipment ω}

theorem Exact.call (h : s.Exact) (call : StoreCall) : (s.step settings (.call call)).Exact := by
  obtain ⟨next, writes, hafter⟩ := s.service.database.after_frame call
  have hlog : (s.step settings (.call call)).log = next := congrArg Database.associations hafter
  have hcursor : (s.step settings (.call call)).cursor = s.cursor := by
    funext name
    exact congrArg (fun db => db.cursors.get name) hafter
  have extends_ := AssociationLog.Extends.of_writes writes
  refine ⟨hlog ▸ h.sound.writes writes, fun name => ?_, fun name => ?_⟩
  · rw [hlog, hcursor]
    exact Int64.le_trans (h.cursor_le name) extends_.last_le
  · rw [hlog, hcursor, extends_.through_eq (h.cursor_le name)]
    exact h.delivered name

theorem recordsOf_append (service : Service ω) (delivered : List (String × ReplicationBatch)) (peer name : String)
    (batch : ReplicationBatch) :
    (Shipment.mk service (delivered ++ [(peer, batch)])).recordsOf name =
      (Shipment.mk service delivered).recordsOf name ++ if peer = name then batch.records else [] := by
  unfold recordsOf
  by_cases h : peer = name <;> simp [h]

theorem Exact.acknowledged (h : s.Exact) {peer : Peer} {batch : ReplicationBatch} {last : Int64} (world : ω) (now : Int64)
    (sends : Sender.Sends settings peer s.service.database batch last) :
    (Shipment.mk { s.service with world, database := s.service.database.advanced peer.name last now }
      (s.delivered ++ [(peer.name, batch)])).Exact := by
  have moved : (s.service.database.cursors.advance peer.name last now).get peer.name = last :=
    CursorTable.get_advance_self now sends.cursor_lt
  have kept : ∀ name, name ≠ peer.name →
      (s.service.database.cursors.advance peer.name last now).get name = s.cursor name :=
    fun name hname => CursorTable.get_advance_other last now hname
  refine ⟨h.sound, fun name => ?_, fun name => ?_⟩
  · show (s.service.database.cursors.advance peer.name last now).get name ≤ s.log.last
    by_cases hname : name = peer.name
    · rw [hname, moved]
      exact sends.last_le h.sound
    · rw [kept name hname]
      exact h.cursor_le name
  · rw [recordsOf_append]
    show List.Forall₂ _ (s.log.through ((s.service.database.cursors.advance peer.name last now).get name))
      (s.recordsOf name ++ _)
    by_cases hname : name = peer.name
    · subst hname
      rw [if_pos rfl, moved, log, sends.through_last h.sound]
      exact List.rel_append (h.delivered peer.name) sends.records
    · rw [if_neg (Ne.symm hname), List.append_nil, kept name hname]
      exact h.delivered name

theorem Exact.push (h : s.Exact) (remote : Remote ω) (peer : Peer) (now : Int64) :
    (s.step settings (.push remote peer now)).Exact := by
  have reports := Sender.report_reports settings remote peer now s.service
  unfold step
  simp only
  generalize Sender.report settings remote peer now s.service = report at reports
  cases reports with
  | failed e sent world => exact ⟨h.sound, h.cursor_le, h.delivered⟩
  | caughtUp => exact h
  | acknowledged batch last world sends => exact h.acknowledged world now sends

theorem Exact.run (h : s.Exact) (events : List (Event ω)) : (s.run settings events).Exact := by
  induction events generalizing s with
  | nil => exact h
  | cons event rest ih =>
    have next : (s.step settings event).Exact := by
      cases event with
      | call call => exact h.call call
      | push remote peer now => exact h.push remote peer now
    exact ih next

theorem cursor_le_step (s : Shipment ω) (event : Event ω) (name : String) :
    s.cursor name ≤ (s.step settings event).cursor name := by
  cases event with
  | call call =>
    obtain ⟨_, -, hafter⟩ := s.service.database.after_frame call
    exact Int64.le_of_eq (congrArg (fun db => db.cursors.get name) hafter).symm
  | push remote peer now =>
    have reports := Sender.report_reports settings remote peer now s.service
    unfold step
    simp only
    generalize Sender.report settings remote peer now s.service = report at reports
    cases reports with
    | failed e sent world => exact Int64.le_refl _
    | caughtUp => exact Int64.le_refl _
    | acknowledged batch last world sends =>
      show s.cursor name ≤ (s.service.database.cursors.advance peer.name last now).get name
      by_cases hname : name = peer.name
      · rw [hname, CursorTable.get_advance_self now sends.cursor_lt]
        exact Int64.le_of_lt sends.cursor_lt
      · rw [CursorTable.get_advance_other last now hname]
        exact Int64.le_refl _

/-- In every run of calls and pushes, over whatever transports: the records that a peer acknowledged are the
    entries of the log up to its cursor; no cursor moves back; a push that is acknowledged sent one batch of
    at least one record and at most the limit, which ends where it puts the cursor of this peer and no
    other; and a push with any other answer leaves all tables as they are. -/
theorem delivered_prefix (settings : ServiceSettings) (service : Service ω) (events : List (Event ω)) :
    let s := (start service).run settings events
    (∀ name, (s.log.through (s.cursor name)).mapM ReplicatedRecord.ofChange = .ok (s.recordsOf name)) ∧
    (∀ event name, s.cursor name ≤ (s.step settings event).cursor name) ∧
    ∀ remote peer now,
      let report := Sender.report settings remote peer now s.service
      let t := s.step settings (.push remote peer now)
      match report.answer with
      | .ok (.pushed count place) =>
        t.log = s.log ∧ t.cursor peer.name = place ∧ (∀ name, name ≠ peer.name → t.cursor name = s.cursor name) ∧
        ∃ batch, report.sent = [batch] ∧ t.delivered = s.delivered ++ [(peer.name, batch)] ∧
          batch.records.length = count ∧ 1 ≤ count ∧ count ≤ settings.batchLimit ∧ batch.lastSequence? = some place
      | _ => t.service.database = s.service.database ∧ t.delivered = s.delivered := by
  intro s
  have exact_ : s.Exact := (exact_start service).run events
  refine ⟨fun name => mapM_eq_ok.mpr (exact_.delivered name), cursor_le_step s, fun remote peer now => ?_⟩
  have reports := Sender.report_reports settings remote peer now s.service
  unfold step
  simp only
  generalize Sender.report settings remote peer now s.service = report at reports
  cases reports with
  | failed e sent world => exact ⟨rfl, rfl⟩
  | caughtUp => exact ⟨rfl, rfl⟩
  | acknowledged batch last world sends =>
    refine ⟨rfl, CursorTable.get_advance_self now sends.cursor_lt, fun name hname => ?_, batch, rfl, rfl, rfl,
      sends.length_pos, sends.length_le, sends.last_eq⟩
    exact CursorTable.get_advance_other last now hname

end Shipment

end IdentityServer
