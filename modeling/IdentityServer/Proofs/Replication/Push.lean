import IdentityServer.Proofs.Outcome
import IdentityServer.Replication.Sender

/-! # One push

A push sends nothing, or sends the page of the log after the cursor and then moves the cursor to the last
place of that page, if the answer names exactly this place and the cursor can be moved. In every other case all tables
stay as they are. -/

namespace IdentityServer

/-- The database after the cursor of a peer was moved. -/
def Database.advanced (db : Database) (peer : String) (position now : Int64) : Database :=
  { db with cursors := db.cursors.advance peer position now }

namespace Sender
open Operation
variable {ω : Type}

/-- The entries that a push sends: the page of the log after the cursor of the peer. -/
def page (settings : ServiceSettings) (peer : Peer) (db : Database) : List Change :=
  db.associations.changesSince (db.cursors.get peer.name) settings.batchLimit

/-- A push that reaches the peer sends this batch, which is the page after the cursor, and it ends at `last`. -/
structure Sends (settings : ServiceSettings) (peer : Peer) (db : Database) (batch : ReplicationBatch) (last : Int64) :
    Prop where
  batch_eq : ReplicationBatch.ofChanges settings.serverName (page settings peer db) = .ok batch
  last_eq : batch.lastSequence? = some last

/-- The tables that a push needs can be used. -/
structure Ready (db : Database) : Prop where
  cursor : db.available .cursor = .ok ()
  changesSince : db.available .changesSince = .ok ()
  advance : db.available .advance = .ok ()

/-- What one push answers and does. -/
inductive Pushes (settings : ServiceSettings) (remote : Remote ω) (peer : Peer) (now : Int64) (s : Service ω) :
    Except ServiceError PushOutcome → Service ω → Prop
  | unsent (e : ServiceError)
    (cause : (s.database.cursor peer.name = .error e ∨
        s.database.changesSince (s.database.cursors.get peer.name) settings.batchLimit = .error e) ∨
      ∃ fault, ReplicationBatch.ofChanges settings.serverName (page settings peer s.database) = .error fault) :
    Pushes settings remote peer now s (.error e) s
  | caughtUp (done : page settings peer s.database = []) : Pushes settings remote peer now s (.ok .caughtUp) s
  | unacknowledged (batch : ReplicationBatch) (last : Int64) (e : ServiceError)
    (answer : Except FederationError ReplicationAck) (world : ω) (sends : Sends settings peer s.database batch last)
    (sent : (remote.push s.ring.current peer batch).run s.world = (answer, world)) (other : answer ≠ .ok ⟨last⟩) :
    Pushes settings remote peer now s (.error e) { s with world }
  | unrecorded (batch : ReplicationBatch) (last : Int64) (e : ServiceError) (world : ω)
    (sends : Sends settings peer s.database batch last)
    (sent : (remote.push s.ring.current peer batch).run s.world = (.ok ⟨last⟩, world))
    (failed : s.database.advance peer.name last now = .error e) :
    Pushes settings remote peer now s (.error e) { s with world }
  | acknowledged (batch : ReplicationBatch) (last : Int64) (world : ω) (sends : Sends settings peer s.database batch last)
    (sent : (remote.push s.ring.current peer batch).run s.world = (.ok ⟨last⟩, world)) :
    Pushes settings remote peer now s (.ok (.pushed batch.records.length last))
      { s with world, database := s.database.advanced peer.name last now }

section Ready
variable {db : Database}

theorem Ready.cursor_eq (ready : Ready db) (name : String) : db.cursor name = .ok (db.cursors.get name) := by
  rw [Database.cursor, ready.cursor, bind_ok]
  rfl

theorem Ready.changesSince_eq (ready : Ready db) (cursor : Int64) (limit : Nat) :
    db.changesSince cursor limit = .ok (db.associations.changesSince cursor limit) := by
  rw [Database.changesSince, ready.changesSince, bind_ok]
  rfl

theorem Ready.advance_eq (ready : Ready db) (name : String) (position now : Int64) :
    db.advance name position now = .ok (db.advanced name position now) := by
  rw [Database.advance, ready.advance, bind_ok]
  rfl

end Ready

theorem ofChanges_eq_ok {origin : String} {changes : List Change} {batch : ReplicationBatch} :
    ReplicationBatch.ofChanges origin changes = .ok batch ↔
      batch.origin = origin ∧ List.Forall₂ (fun c r => ReplicatedRecord.ofChange c = .ok r) changes batch.records := by
  rw [ReplicationBatch.ofChanges, bind_eq_ok]
  constructor
  · rintro ⟨records, hrecords, h⟩
    cases h
    exact ⟨rfl, mapM_eq_ok.mp hrecords⟩
  · rintro ⟨rfl, hrecords⟩
    exact ⟨batch.records, mapM_eq_ok.mpr hrecords, rfl⟩

/-- Entries whose signed texts are JSON make a batch. -/
theorem exists_ofChanges (origin : String) {changes : List Change}
    (readable : ∀ c ∈ changes, ∃ record, ReplicatedRecord.ofChange c = .ok record) :
    ∃ batch, ReplicationBatch.ofChanges origin changes = .ok batch := by
  obtain ⟨records, hrecords⟩ := exists_mapM_eq_ok.mpr readable
  exact ⟨⟨origin, records⟩, ofChanges_eq_ok.mpr ⟨rfl, mapM_eq_ok.mp hrecords⟩⟩

/-- A batch of a page that is not empty has a last place. -/
theorem lastSequence?_ne_none {origin : String} {changes : List Change} {batch : ReplicationBatch}
    (hne : changes ≠ []) (h : ReplicationBatch.ofChanges origin changes = .ok batch) :
    batch.lastSequence? ≠ none := by
  have hrecords := (ofChanges_eq_ok.mp h).2
  intro hnone
  rw [ReplicationBatch.lastSequence?, Option.map_eq_none_iff, List.getLast?_eq_none_iff] at hnone
  rw [hnone, List.forall₂_nil_right_iff] at hrecords
  exact hne hrecords

theorem cursor_eq_ok {db : Database} {name : String} {cursor : Int64} (h : db.cursor name = .ok cursor) :
    db.cursors.get name = cursor := by
  obtain ⟨-, -, h⟩ := bind_eq_ok.mp h
  exact Except.ok.inj h

theorem changesSince_eq_ok {db : Database} {cursor : Int64} {limit : Nat} {changes : List Change}
    (h : db.changesSince cursor limit = .ok changes) : db.associations.changesSince cursor limit = changes := by
  obtain ⟨-, -, h⟩ := bind_eq_ok.mp h
  exact Except.ok.inj h

theorem advance_eq_ok {db moved : Database} {name : String} {position now : Int64}
    (h : db.advance name position now = .ok moved) : db.advanced name position now = moved := by
  obtain ⟨-, -, h⟩ := bind_eq_ok.mp h
  exact Except.ok.inj h

/-- A page that was read and makes a batch is sent, and what the peer answers decides whether the cursor is moved. -/
theorem pushes_of_sends {settings : ServiceSettings} {peer : Peer} {s : Service ω} {batch : ReplicationBatch} {last : Int64}
    (sends : Sends settings peer s.database batch last)
    (hcursor : s.database.cursor peer.name = .ok (s.database.cursors.get peer.name))
    (hread : s.database.changesSince (s.database.cursors.get peer.name) settings.batchLimit =
      .ok (page settings peer s.database))
    (hne : page settings peer s.database ≠ []) (remote : Remote ω) (now : Int64) :
    Pushes settings remote peer now s ((pushOnce settings remote peer now).result s).1
      ((pushOnce settings remote peer now).result s).2 := by
  have hnonempty : ¬(page settings peer s.database).isEmpty = true := fun h => hne (List.isEmpty_iff.mp h)
  rw [pushOnce, result_bind_ok (result_query_ok hcursor), result_bind_ok (result_query_ok hread), if_neg hnonempty,
    sends.batch_eq, result_bind_ok (result_federating_ok batch)]
  simp only [sends.last_eq]
  obtain ⟨answer, world, hsent⟩ :
      ∃ answer world, (remote.push s.ring.current peer batch).run s.world = (answer, world) := ⟨_, _, rfl⟩
  simp only [result_bind_ok result_get, result_bind_ok (result_ask _), hsent]
  cases answer with
  | error e =>
    rw [result_bind_error (result_federating_error e)]
    exact .unacknowledged batch last _ _ world sends hsent nofun
  | ok ack =>
    rw [result_bind_ok (result_federating_ok ack)]
    by_cases hack : ack.lastApplied = last
    · obtain rfl : ack = ⟨last⟩ := congrArg ReplicationAck.mk hack
      rw [if_neg (not_not_intro rfl)]
      cases hmoved : s.database.advance peer.name last now with
      | error e =>
        rw [result_bind_error (t := { s with world }) (e := e) (result_change_error (by rw [hmoved]; rfl))]
        exact .unrecorded batch last e world sends hsent hmoved
      | ok moved =>
        obtain rfl := advance_eq_ok hmoved
        rw [result_bind_ok (t := { s with world, database := s.database.advanced peer.name last now }) (a := ())
          (result_change_ok (by rw [hmoved]; rfl))]
        exact .acknowledged batch last world sends hsent
    · rw [if_pos hack, result_bind_error (result_federating_error _)]
      exact .unacknowledged batch last _ _ world sends hsent fun h =>
        hack (congrArg ReplicationAck.lastApplied (Except.ok.inj h))

theorem pushOnce_pushes (settings : ServiceSettings) (remote : Remote ω) (peer : Peer) (now : Int64) (s : Service ω) :
    Pushes settings remote peer now s ((pushOnce settings remote peer now).result s).1
      ((pushOnce settings remote peer now).result s).2 := by
  cases hcursor : s.database.cursor peer.name with
  | error e =>
    rw [pushOnce, result_bind_error (result_query_error hcursor)]
    exact .unsent e (.inl (.inl hcursor))
  | ok cursor =>
    obtain rfl := cursor_eq_ok hcursor
    cases hread : s.database.changesSince (s.database.cursors.get peer.name) settings.batchLimit with
    | error e =>
      rw [pushOnce, result_bind_ok (result_query_ok hcursor), result_bind_error (result_query_error hread)]
      exact .unsent e (.inl (.inr hread))
    | ok changes =>
      obtain rfl : page settings peer s.database = changes := changesSince_eq_ok hread
      by_cases hempty : page settings peer s.database = []
      · rw [pushOnce, result_bind_ok (result_query_ok hcursor), result_bind_ok (result_query_ok hread), hempty]
        exact .caughtUp hempty
      cases hbatch : ReplicationBatch.ofChanges settings.serverName (page settings peer s.database) with
      | error fault =>
        have hnonempty : ¬(page settings peer s.database).isEmpty = true := fun h => hempty (List.isEmpty_iff.mp h)
        rw [pushOnce, result_bind_ok (result_query_ok hcursor), result_bind_ok (result_query_ok hread), if_neg hnonempty,
          hbatch, result_bind_error (result_federating_error fault)]
        exact .unsent _ (.inr ⟨fault, hbatch⟩)
      | ok batch =>
        obtain ⟨last, hlast⟩ := Option.ne_none_iff_exists'.mp (lastSequence?_ne_none hempty hbatch)
        exact pushes_of_sends ⟨hbatch, hlast⟩ hcursor hread hempty remote now

end Sender
end IdentityServer
