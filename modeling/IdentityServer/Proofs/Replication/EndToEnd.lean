import IdentityServer.Proofs.Replication.Reception

/-! # Following a log

A service binds, unbinds and sends its log to one receiver, and every transmission may be lost on the way
there or on the way back. What the receiver keeps of the service is always the state of the log at some
place, and the cursor of the sender is never beyond that place. -/

namespace IdentityServer
variable {ω : Type}

/-- What a service that sends its log to one receiver acts on: the records that the receiver keeps, the
    batches that reached it with what it answered, and all else. -/
structure Link (ω : Type) where
  table : ReplicatedTable
  arrivals : List (ReplicationBatch × Except ServiceError ReplicationAck)
  outside : ω

/-- What becomes of a transmission. -/
inductive Fate where
  /-- The batch does not reach the receiver. -/
  | lost (e : FederationError)
  /-- The batch reaches the receiver, and its answer is lost. -/
  | unanswered (e : FederationError)
  | answered

namespace Link

/-- Something done beside a link. -/
def beside {α : Type} (action : StateM ω α) : StateM (Link ω) α := fun link =>
  let (answer, outside) := action.run link.outside
  (answer, { link with outside })

variable [SignatureScheme]

/-- The receiver is handed a batch of the server `origin`. One that it refuses changes no record. -/
def receive (peers : List Peer) (origin : String) (batch : ReplicationBatch) :
    StateM (Link ω) (Except ServiceError ReplicationAck) := fun link =>
  match Receiver.applyBatch peers origin batch link.table with
  | .ok (ack, table) => (.ok ack, { link with table, arrivals := link.arrivals ++ [(batch, .ok ack)] })
  | .error e => (.error e, { link with arrivals := link.arrivals ++ [(batch, .error e)] })

/-- A batch is sent to the receiver. A refusal comes back as a request that failed. -/
def transmit (peers : List Peer) (origin : String) (receiver : Peer) (batch : ReplicationBatch) :
    Fate → StateM (Link ω) (Except FederationError ReplicationAck)
  | .lost e => pure (.error e)
  | .unanswered e => do
    let _ ← receive peers origin batch
    return .error e
  | .answered => do
    match ← receive peers origin batch with
    | .ok ack => return .ok ack
    | .error e => return .error (.request receiver.name (.other e.message))

end Link

/-- Other servers, with the receiver at the end of a link. -/
def Remote.linked [SignatureScheme] (others : Remote ω) (peers : List Peer) (origin : String) (fate : Fate) :
    Remote (Link ω) where
  deliver key notice := Link.beside (others.deliver key notice)
  push _ receiver batch := Link.transmit peers origin receiver batch fate
  owns account claimed payload now := Link.beside (others.owns account claimed payload now)

/-! ### Runs -/

namespace Link

/-- What happens to a service that sends its log over a link. -/
inductive Event where
  | bind (medium : Medium) (raw account : String) (validated : Bool) (now : Int64)
  | unbind (medium : Medium) (raw account : String) (claimed : ClaimedSignature) (readings : UnbindReadings)
  | push (fate : Fate) (now : Int64)

/-- A service that has just been set up: its log is empty, no peer has a cursor and nothing was sent. -/
def start (service : Service (Link ω)) : Service (Link ω) :=
  { service with
    database := { service.database with associations := {}, cursors := {} }
    world := { service.world with arrivals := [] } }

variable [SignatureScheme]

/-- What one push over the link answers, and the service it leaves. -/
def push (settings : ServiceSettings) (others : Remote ω) (peers : List Peer) (receiver : Peer) (fate : Fate)
    (now : Int64) (s : Service (Link ω)) : Except ServiceError PushOutcome × Service (Link ω) :=
  (Sender.pushOnce settings (others.linked peers settings.serverName fate) receiver now).result s

/-- The service after an event. -/
def step (settings : ServiceSettings) (others : Remote ω) (peers : List Peer) (receiver : Peer)
    (s : Service (Link ω)) : Event → Service (Link ω)
  | .bind medium raw account validated now => ((Binder.bind settings now medium raw account validated).result s).2
  | .unbind medium raw account claimed readings =>
    ((Binder.unbind settings (others.linked peers settings.serverName .answered) readings medium raw account
      claimed).result s).2
  | .push fate now => (push settings others peers receiver fate now s).2

/-- The service after events, one after the other. -/
def run (settings : ServiceSettings) (others : Remote ω) (peers : List Peer) (receiver : Peer)
    (s : Service (Link ω)) (events : List Event) : Service (Link ω) :=
  events.foldl (step settings others peers receiver) s

/-! ### The invariant -/

/-- The receiver accepted whatever reached it, and it keeps the state of the log at a place that the cursor
    is not beyond. -/
structure Followed (settings : ServiceSettings) (receiver : Peer) (key : KeyPair) (s : Service (Link ω)) : Prop where
  ring : s.ring.current = key
  sound : s.database.associations.Sound
  genuine : s.database.associations.Genuine key settings.serverName
  accepted : ∀ arrival ∈ s.world.arrivals, ∃ last, arrival.1.lastSequence? = some last ∧ arrival.2 = .ok ⟨last⟩
  copy : ∃ place, s.database.cursors.get receiver.name ≤ place ∧ place ≤ s.database.associations.last ∧
    s.world.table.Keeps settings.serverName (s.database.associations.replicasThrough settings.serverName place)
  /-- A cursor that was moved tells that pages are not empty by their limit. -/
  limit : 0 < s.database.cursors.get receiver.name → 0 < settings.batchLimit

variable {settings : ServiceSettings} {others : Remote ω} {peers : List Peer} {receiver entry : Peer} {key : KeyPair}
  {s t : Service (Link ω)}

theorem followed_start (service : Service (Link ω)) (hkey : service.ring.current = key)
    (fresh : ∀ r ∈ service.world.table.rows, r.origin ≠ settings.serverName) :
    Followed settings receiver key (start service) where
  ring := hkey
  sound := AssociationLog.sound_empty
  genuine := fun _ h => nomatch h
  accepted := fun _ h => nomatch h
  copy := by
    refine ⟨0, Int64.le_refl _, Int64.le_refl _, ⟨?_, nofun, .nil⟩⟩
    exact List.filter_eq_nil_iff.mpr fun r hr => by simpa using fresh r hr
  limit := fun h => absurd h Int64.lt_irrefl

theorem Followed.recorded (h : Followed settings receiver key s) (recorded : Binder.Recorded settings s t) :
    Followed settings receiver key t := by
  have extends_ := AssociationLog.Extends.of_writes recorded.writes
  have hcursor : t.database.cursors.get receiver.name = s.database.cursors.get receiver.name := by
    rw [recorded.cursors]
  refine ⟨by rw [recorded.ring, h.ring], h.sound.writes recorded.writes, ?_, ?_, ?_, ?_⟩
  · have genuine := recorded.genuine
    rw [h.ring] at genuine
    exact genuine h.genuine
  · rw [recorded.world]
    exact h.accepted
  · obtain ⟨place, hle, hlast, keeps⟩ := h.copy
    refine ⟨place, hcursor ▸ hle, Int64.le_trans hlast extends_.last_le, ?_⟩
    rw [recorded.world, extends_.replicasThrough_eq hlast]
    exact keeps
  · rw [hcursor]
    exact h.limit

/-- What is done beside the link does not matter. -/
theorem Followed.beside (h : Followed settings receiver key s) (outside : ω) :
    Followed settings receiver key { s with world := { s.world with outside } } :=
  ⟨h.ring, h.sound, h.genuine, h.accepted, h.copy, h.limit⟩

/-! ### Transmissions -/

/-- The link after a batch of entries reached the receiver, which accepted it. -/
def received (batch : ReplicationBatch) (last : Int64) (records : List ReplicatedAssociation) (link : Link ω) : Link ω :=
  { link with
    table := link.table.applyAll records
    arrivals := link.arrivals ++ [(batch, .ok ⟨last⟩)] }

/-- The records that a push sends, as the receiver keeps them. -/
def sentRecords (settings : ServiceSettings) (receiver : Peer) (db : Database) : List ReplicatedAssociation :=
  (db.associations.rowsSince (db.cursors.get receiver.name) settings.batchLimit).map
    (LogRow.replica settings.serverName)

/-- A batch moves the copy of the receiver to its last place at least. -/
theorem Followed.copy_received (h : Followed settings receiver key s) {batch : ReplicationBatch} {last : Int64}
    (sends : Sender.Sends settings receiver s.database batch last) :
    ∃ place, last ≤ place ∧ place ≤ s.database.associations.last ∧
      (received batch last (sentRecords settings receiver s.database) s.world).table.Keeps settings.serverName
        (s.database.associations.replicasThrough settings.serverName place) := by
  obtain ⟨place, hle, hlast, keeps⟩ := h.copy
  obtain ⟨c, hc, hsequence⟩ := sends.last_entry
  rw [Sender.page, AssociationLog.changesSince_eq_rows, List.getLast?_map] at hc
  obtain ⟨r, hr, rfl⟩ := Option.map_eq_some_iff.mp hc
  rw [LogRow.toChange_sequence] at hsequence
  subst hsequence
  obtain ⟨next, hnext, -, hnextlast, keeps⟩ := keeps.applyAll_rowsSince h.sound hle hr
  refine ⟨next, hnextlast, ?_, keeps⟩
  rcases hnext with rfl | rfl
  · exact hlast
  · exact sends.last_le h.sound

theorem Followed.accepted_received (h : Followed settings receiver key s) {batch : ReplicationBatch} {last : Int64}
    (sends : Sender.Sends settings receiver s.database batch last) (records : List ReplicatedAssociation) :
    ∀ arrival ∈ (received batch last records s.world).arrivals,
      ∃ last, arrival.1.lastSequence? = some last ∧ arrival.2 = .ok ⟨last⟩ := by
  intro arrival harrival
  rcases List.mem_append.mp harrival with harrival | harrival
  · exact h.accepted arrival harrival
  · rw [List.mem_singleton.mp harrival]
    exact ⟨last, sends.last_eq, rfl⟩

/-- A batch that reaches the receiver and is not acknowledged leaves the cursor behind. -/
theorem Followed.reached (h : Followed settings receiver key s) {batch : ReplicationBatch} {last : Int64}
    (sends : Sender.Sends settings receiver s.database batch last) :
    Followed settings receiver key
      { s with world := received batch last (sentRecords settings receiver s.database) s.world } := by
  obtain ⟨place, hplace, hlast, keeps⟩ := h.copy_received sends
  exact ⟨h.ring, h.sound, h.genuine, h.accepted_received sends _,
    ⟨place, Int64.le_trans (Int64.le_of_lt sends.cursor_lt) hplace, hlast, keeps⟩, h.limit⟩

/-- A batch that is acknowledged takes the cursor along. -/
theorem Followed.acknowledged (h : Followed settings receiver key s) {batch : ReplicationBatch} {last : Int64}
    (sends : Sender.Sends settings receiver s.database batch last) (now : Int64) :
    Followed settings receiver key
      { s with
        world := received batch last (sentRecords settings receiver s.database) s.world
        database := s.database.advanced receiver.name last now } := by
  have moved : (s.database.advanced receiver.name last now).cursors.get receiver.name = last :=
    CursorTable.get_advance_self now sends.cursor_lt
  obtain ⟨place, hplace, hlast, keeps⟩ := h.copy_received sends
  refine ⟨h.ring, h.sound, h.genuine, h.accepted_received sends _, ⟨place, ?_, hlast, keeps⟩, fun _ => ?_⟩
  · rw [moved]
    exact hplace
  · exact Nat.lt_of_lt_of_le sends.length_pos sends.length_le

section Trusted
variable (lawful : SignatureScheme.Lawful) (known : Receiver.peerOf? peers settings.serverName = some entry)
  (trusted : entry.verifyKey = key.publicKey)
include lawful known trusted

/-- A transmission that reaches the receiver is accepted. -/
theorem Followed.run_transmit (h : Followed settings receiver key s) {batch : ReplicationBatch} {last : Int64}
    (sends : Sender.Sends settings receiver s.database batch last) (fate : Fate) :
    (transmit peers settings.serverName receiver batch fate).run s.world =
      match fate with
      | .lost e => (.error e, s.world)
      | .unanswered e => (.error e, received batch last (sentRecords settings receiver s.database) s.world)
      | .answered => (.ok ⟨last⟩, received batch last (sentRecords settings receiver s.database) s.world) := by
  have accepted : (receive peers settings.serverName batch).run s.world =
      (.ok ⟨last⟩, received batch last (sentRecords settings receiver s.database) s.world) := by
    simp only [receive, StateT.run, sends.applyBatch_eq h.sound h.genuine lawful known trusted]
    rfl
  cases fate with
  | lost e => rfl
  | unanswered e => rw [transmit, StateT.run_bind, accepted]; rfl
  | answered => rw [transmit, StateT.run_bind, accepted]; rfl

theorem Followed.push (h : Followed settings receiver key s) (fate : Fate) (now : Int64) :
    Followed settings receiver key (push settings others peers receiver fate now s).2 := by
  have pushes := Sender.pushOnce_pushes settings (others.linked peers settings.serverName fate) receiver now s
  unfold Link.push
  generalize (Sender.pushOnce settings (others.linked peers settings.serverName fate) receiver now).result s = result
    at pushes
  obtain ⟨answer, t⟩ := result
  cases pushes with
  | unsent e cause => exact h
  | caughtUp done => exact h
  | unacknowledged batch last e answer world sends sent other =>
    -- An answer that arrives is an acknowledgement, so the batch was lost on one of the two ways.
    have hrun := (h.run_transmit lawful known trusted sends fate).symm.trans sent
    cases fate with
    | lost e =>
      cases hrun
      exact h
    | unanswered e =>
      cases hrun
      exact h.reached sends
    | answered => exact absurd (congrArg Prod.fst hrun).symm other
  | unrecorded batch last e world sends sent failed =>
    have hrun := (h.run_transmit lawful known trusted sends fate).symm.trans sent
    cases fate with
    | lost e => cases hrun
    | unanswered e => cases hrun
    | answered =>
      cases hrun
      exact h.reached sends
  | acknowledged batch last world sends sent =>
    have hrun := (h.run_transmit lawful known trusted sends fate).symm.trans sent
    cases fate with
    | lost e => cases hrun
    | unanswered e => cases hrun
    | answered =>
      cases hrun
      exact h.acknowledged sends now

/-- A push whose transmission is answered succeeds, if the tables that it needs can be used. -/
theorem Followed.push_answered (h : Followed settings receiver key s) (ready : Sender.Ready s.database) (now : Int64) :
    ∃ outcome, (Link.push settings others peers receiver .answered now s).1 = .ok outcome := by
  have pushes := Sender.pushOnce_pushes settings (others.linked peers settings.serverName .answered) receiver now s
  unfold Link.push
  generalize (Sender.pushOnce settings (others.linked peers settings.serverName .answered) receiver now).result s = result
    at pushes
  obtain ⟨answer, t⟩ := result
  cases pushes with
  | unsent e cause =>
    obtain (hcursor | hread) | ⟨fault, hbatch⟩ := cause
    · cases (ready.cursor_eq receiver.name).symm.trans hcursor
    · cases (ready.changesSince_eq _ _).symm.trans hread
    · rw [Sender.ofChanges_page settings receiver h.genuine] at hbatch
      cases hbatch
  | caughtUp done => exact ⟨_, rfl⟩
  | unacknowledged batch last e answer world sends sent other =>
    have hrun := (h.run_transmit lawful known trusted sends .answered).symm.trans sent
    exact absurd (congrArg Prod.fst hrun).symm other
  | unrecorded batch last e world sends sent failed =>
    cases (ready.advance_eq receiver.name last now).symm.trans failed
  | acknowledged batch last world sends sent => exact ⟨_, rfl⟩

theorem Followed.step (h : Followed settings receiver key s) (event : Event) :
    Followed settings receiver key (step settings others peers receiver s event) := by
  cases event with
  | bind medium raw account validated now => exact h.recorded (Binder.bind_recorded validated)
  | unbind medium raw account claimed readings =>
    obtain ⟨world, hworld, recorded⟩ :=
      Binder.unbind_recorded (others.linked peers settings.serverName .answered) readings claimed
    rcases hworld with rfl | ⟨payload, proven, hasked⟩
    · exact h.recorded recorded
    · obtain rfl : _ = world := congrArg Prod.snd hasked
      exact (h.beside ((others.owns account claimed payload readings.proved).run s.world.outside).2).recorded recorded
  | push fate now => exact h.push lawful known trusted fate now

theorem Followed.run (h : Followed settings receiver key s) (events : List Event) :
    Followed settings receiver key (run settings others peers receiver s events) := by
  induction events generalizing s with
  | nil => exact h
  | cons event rest ih => exact ih (h.step lawful known trusted event)

end Trusted

/-- With nothing left to send, the receiver keeps the state of the whole log. -/
theorem Followed.caughtUp (h : Followed settings receiver key s) {fate : Fate} {now : Int64}
    (done : (Link.push settings others peers receiver fate now s).1 = .ok .caughtUp)
    (moved : 0 < s.database.cursors.get receiver.name ∨ 0 < settings.batchLimit) :
    s.world.table.ofOrigin settings.serverName = latest (s.database.associations.replicas settings.serverName) := by
  have pushes := Sender.pushOnce_pushes settings (others.linked peers settings.serverName fate) receiver now s
  unfold Link.push at done
  generalize (Sender.pushOnce settings (others.linked peers settings.serverName fate) receiver now).result s = result
    at done pushes
  obtain ⟨answer, t⟩ := result
  subst done
  cases pushes with
  | caughtUp nothing_left =>
    rw [Sender.page, AssociationLog.changesSince_eq_rows, List.map_eq_nil_iff] at nothing_left
    obtain ⟨place, hle, -, keeps⟩ := h.copy
    have hlimit : 0 < settings.batchLimit := moved.elim h.limit id
    rw [keeps.rows, AssociationLog.replicasThrough_eq_of_rowsSince hlimit nothing_left hle]

/-- For a receiver that knows the service by its name and by the public key that it signs with, in every run
    of bindings, unbindings and pushes of which any may be lost: every batch that reached the receiver was
    accepted and acknowledged with its last place; what the receiver keeps of the service are, of every
    identifier, the latest entry among those up to a place that the cursor is not beyond; a service that is
    caught up, once its cursor was moved, has the latest entry of every identifier kept there, field by field
    and with the text that was signed; and a push that is answered fails only if the log or the cursor cannot be used. -/
theorem receiver_keeps_latest (settings : ServiceSettings) (others : Remote ω) (peers : List Peer)
    (receiver entry : Peer) (service : Service (Link ω)) (lawful : SignatureScheme.Lawful)
    (known : Receiver.peerOf? peers settings.serverName = some entry)
    (trusted : entry.verifyKey = service.ring.current.publicKey)
    (fresh : ∀ r ∈ service.world.table.rows, r.origin ≠ settings.serverName) (events : List Event) :
    let s := run settings others peers receiver (start service) events
    let log := s.database.associations
    let cursor := s.database.cursors.get receiver.name
    let kept := s.world.table.ofOrigin settings.serverName
    (∀ arrival ∈ s.world.arrivals, ∃ last, arrival.1.lastSequence? = some last ∧ arrival.2 = .ok ⟨last⟩) ∧
    (∃ place, cursor ≤ place ∧ kept = latest (log.replicasThrough settings.serverName place)) ∧
    (∀ fate now, (push settings others peers receiver fate now s).1 = .ok .caughtUp →
      0 < cursor ∨ 0 < settings.batchLimit → kept = latest (log.replicas settings.serverName)) ∧
    ∀ now, Sender.Ready s.database →
      ∃ outcome, (push settings others peers receiver .answered now s).1 = .ok outcome := by
  intro s log cursor kept
  have followed : Followed settings receiver service.ring.current s :=
    (followed_start service rfl fresh).run lawful known trusted events
  refine ⟨followed.accepted, ?_, fun fate now done moved => followed.caughtUp done moved, fun now ready => ?_⟩
  · obtain ⟨place, hle, -, keeps⟩ := followed.copy
    exact ⟨place, hle, keeps.rows⟩
  · exact followed.push_answered lawful known trusted ready now

/-- A service with a key of 32 zeros, over a link on which nothing was sent yet. -/
def unused : Service (Link Unit) where
  database := {}
  ring := ⟨.zeros, .empty, .empty⟩
  deliveries := []
  wake := {}
  world := ⟨{}, [], ()⟩

/-- A binding that is sent three times: to no avail, without an answer, and with an answer. -/
def retries : List Event := [
  .bind .email "John@Example.com" "@john:a.org" true 5,
  .push (.lost (.discovery "b.org" "")) 6,
  .push (.unanswered (.discovery "b.org" "")) 7,
  .push .answered 8]

omit [SignatureScheme] in
/-- A batch that reached the receiver is accepted again when it is sent again, and the binding is kept. -/
theorem receiver_keeps_latest_retries :
    let _ : SignatureScheme := .transparent
    let settings : ServiceSettings := ⟨"a.org", none, true, none, 500⟩
    let others : Remote Unit :=
      ⟨fun _ _ => pure (.ok ()), fun _ _ _ => pure (.ok ⟨0⟩), fun _ _ _ _ => pure false⟩
    let receiver : Peer := ⟨"b.org", "https://b.org", ""⟩
    let entry : Peer := ⟨"a.org", "https://a.org", unused.ring.current.publicKey⟩
    let s := run settings others [entry] receiver (start unused) retries
    s.database.cursors.get receiver.name = 1 ∧ s.world.arrivals.length = 2 ∧
    s.world.table.ofOrigin settings.serverName = latest (s.database.associations.replicas settings.serverName) := by
  intro scheme settings others receiver entry s
  have lawful : SignatureScheme.Lawful := SignatureScheme.transparent_lawful
  obtain ⟨-, -, converged, -⟩ := receiver_keeps_latest settings others [entry] receiver entry unused lawful rfl rfl nofun
    retries
  have ended : (push settings others [entry] receiver .answered 9 s).1 = .ok .caughtUp ∧
      s.database.cursors.get receiver.name = 1 ∧ s.world.arrivals.length = 2 := by
    decide +kernel +zetaReduce
  subst s
  exact ⟨ended.2.1, ended.2.2, converged .answered 9 ended.1 (.inr (by decide))⟩

end Link

end IdentityServer
