import IdentityServer.Proofs.Replication.Draining
import IdentityServer.Service.Remote
import Mathlib.Data.List.Flatten

/-! # What each peer is sent

Senders take turns over one log. Their progress is kept under the names of their peers, so what is sent under a name
is the log up to its cursor, whichever of the peers of that name it is sent to. A peer that shares its name with no
other one is sent all of it. -/

namespace IdentityServer
variable {ω : Type}

/-- A remote that also remembers which peer it handed which batch. -/
def Remote.addressed (remote : Remote ω) : Remote (List (Peer × ReplicationBatch) × ω) where
  deliver key notice := onSecond (remote.deliver key notice)
  push key peer batch := do
    modify fun world => (world.1 ++ [(peer, batch)], world.2)
    onSecond (remote.push key peer batch)
  owns account claimed payload now := onSecond (remote.owns account claimed payload now)

theorem Remote.run_addressed_push (remote : Remote ω) (key : KeyPair) (peer : Peer) (batch : ReplicationBatch)
    (world : List (Peer × ReplicationBatch) × ω) :
    (remote.addressed.push key peer batch).run world =
      (((remote.push key peer batch).run world.2).1, world.1 ++ [(peer, batch)],
        ((remote.push key peer batch).run world.2).2) :=
  rfl

theorem Remote.Acknowledges.addressed {remote : Remote ω} (h : remote.Acknowledges) : remote.addressed.Acknowledges := by
  intro key peer batch last world hlast
  rw [run_addressed_push]
  exact h key peer batch last world.2 hlast

/-! ### Batches by their peers -/

/-- The records of the batches that were handed to the peers that satisfy `p`. -/
def recordsTo (p : Peer → Bool) (sent : List (Peer × ReplicationBatch)) : List ReplicatedRecord :=
  (sent.filter fun handed => p handed.1).flatMap (·.2.records)

section Records
variable {p q : Peer → Bool} {sent : List (Peer × ReplicationBatch)}

theorem recordsTo_concat (p : Peer → Bool) (sent : List (Peer × ReplicationBatch)) (peer : Peer) (batch : ReplicationBatch) :
    recordsTo p (sent ++ [(peer, batch)]) = recordsTo p sent ++ if p peer then batch.records else [] := by
  rw [recordsTo, List.filter_append, List.flatMap_append, List.filter_singleton]
  cases p peer with
  | true => exact congrArg (recordsTo p sent ++ ·) (List.append_nil _)
  | false => rfl

theorem recordsTo_congr (h : ∀ handed ∈ sent, p handed.1 = q handed.1) : recordsTo p sent = recordsTo q sent := by
  rw [recordsTo, recordsTo, List.filter_congr h]

theorem length_recordsTo_le (sent : List (Peer × ReplicationBatch)) (narrower : ∀ peer, p peer = true → q peer = true) :
    (recordsTo p sent).length ≤ (recordsTo q sent).length := by
  have fewer : (sent.filter fun handed => p handed.1).Sublist (sent.filter fun handed => q handed.1) :=
    List.monotone_filter_right sent fun handed => narrower handed.1
  exact (fewer.flatMap _).length_le

/-- Fewer peers are sent as much if no batch went to the others. -/
theorem recordsTo_eq_iff (narrower : ∀ peer, p peer = true → q peer = true)
    (filled : ∀ handed ∈ sent, handed.2.records ≠ []) :
    recordsTo p sent = recordsTo q sent ↔ ∀ handed ∈ sent, q handed.1 = true → p handed.1 = true := by
  constructor
  · intro same
    induction sent using List.reverseRecOn with
    | nil => exact nofun
    | append_singleton sent last ih =>
      obtain ⟨peer, batch⟩ := last
      obtain ⟨filled, full⟩ := List.forall_mem_append.mp filled
      rw [recordsTo_concat, recordsTo_concat] at same
      have rest : recordsTo p sent = recordsTo q sent ∧ (q peer = true → p peer = true) := by
        by_cases narrow : p peer = true
        · rw [if_pos narrow, if_pos (narrower peer narrow)] at same
          exact ⟨List.append_cancel_right same, fun _ => narrow⟩
        rw [if_neg narrow, List.append_nil] at same
        by_cases wide : q peer = true
        · have fewer := length_recordsTo_le sent narrower
          have more : 0 < batch.records.length := List.length_pos_of_ne_nil (full _ (List.mem_singleton_self _))
          rw [same, if_pos wide, List.length_append] at fewer
          omega
        · rw [if_neg wide, List.append_nil] at same
          exact ⟨same, fun wider => absurd wider wide⟩
      exact List.forall_mem_append.mpr ⟨ih filled rest.1, List.forall_mem_singleton.mpr rest.2⟩
  · intro h
    refine recordsTo_congr fun handed hmem => ?_
    rw [Bool.eq_iff_iff]
    exact ⟨narrower _, h handed hmem⟩

end Records

/-! ### Turns -/

namespace Sender

/-- A service whose senders have handed out what lies up to their cursors. -/
structure Dispatched (peers : List Peer) (log : AssociationLog) (s : Service (List (Peer × ReplicationBatch) × ω)) :
    Prop where
  log_eq : s.database.associations = log
  sendable : s.database.Sendable
  configured : ∀ handed ∈ s.world.1, handed.1 ∈ peers
  filled : ∀ handed ∈ s.world.1, handed.2.records ≠ []
  sent : ∀ name, List.Forall₂ (fun c r => ReplicatedRecord.ofChange c = .ok r)
    (log.through (s.database.cursors.get name)) (recordsTo (·.name = name) s.world.1)

/-- The service before the first turn, with a list for what will be handed to whom. -/
def unserved (s : Service ω) : Service (List (Peer × ReplicationBatch) × ω) :=
  { s with world := ([], s.world) }

theorem dispatched_unserved {s : Service ω} (peers : List Peer) (sendable : s.database.Sendable)
    (numbered : ∀ r ∈ s.database.associations.rows, 0 < r.sequence) (unsent : s.database.cursors = {}) :
    Dispatched peers s.database.associations (unserved s) where
  log_eq := rfl
  sendable := sendable
  configured := nofun
  filled := nofun
  sent name := by
    have start : (unserved s).database.cursors.get name = 0 := by
      rw [unserved, unsent]
      rfl
    have nothing : s.database.associations.through 0 = [] := by
      refine List.filter_eq_nil_iff.mpr (List.forall_mem_map.mpr fun r hr => ?_)
      simpa using Int64.not_le.mpr (numbered r hr)
    rw [start, nothing]
    exact .nil

section Turn
variable {peers : List Peer} {log : AssociationLog} {remote : Remote ω} {s : Service (List (Peer × ReplicationBatch) × ω)}

/-- A turn keeps this. Once nothing lies beyond a cursor nothing ever will, and an answer that there is nothing to send
    says so of the sender's own cursor. -/
theorem Dispatched.turn (h : Dispatched peers log s) (settings : ServiceSettings) (acknowledges : remote.Acknowledges)
    {peer : Peer} (mem : peer ∈ peers) (now : Int64) :
    let turn := (pushOnce settings remote.addressed peer now).result s
    Dispatched peers log turn.2 ∧
    (∀ name, log.beyond (s.database.cursors.get name) = [] → log.beyond (turn.2.database.cursors.get name) = []) ∧
    (0 < settings.batchLimit → turn.1 = .ok .caughtUp → log.beyond (turn.2.database.cursors.get peer.name) = []) := by
  obtain ⟨done, push⟩ | ⟨batch, last, world, sends, sent, push⟩ :=
    pushOnce_acknowledged settings h.sendable acknowledges.addressed peer now
  · rw [push]
    refine ⟨h, fun _ => id, fun positive _ => ?_⟩
    rw [page, h.log_eq, AssociationLog.changesSince_eq, List.take_eq_nil_iff] at done
    exact done.resolve_left (Nat.ne_of_gt positive)
  · obtain ⟨c, hc, rfl⟩ := sends.last_entry
    have handed : world.1 = s.world.1 ++ [(peer, batch)] := (congrArg (·.2.1) sent).symm
    have moved : (s.database.advanced peer.name c.sequence now).cursors.get peer.name = c.sequence :=
      CursorTable.get_advance_self now sends.cursor_lt
    have stays {name : String} (other : name ≠ peer.name) :
        (s.database.advanced peer.name c.sequence now).cursors.get name = s.database.cursors.get name :=
      CursorTable.get_advance_other _ _ other
    rw [page, h.log_eq] at hc
    have ascending := h.log_eq ▸ h.sendable.changes_ascending
    rw [push]
    refine ⟨⟨h.log_eq, h.sendable.advanced peer.name c.sequence now, ?_, ?_, fun name => ?_⟩, ?_, ?_⟩
    · rw [handed]
      exact List.forall_mem_append.mpr ⟨h.configured, List.forall_mem_singleton.mpr mem⟩
    · rw [handed]
      exact List.forall_mem_append.mpr ⟨h.filled, List.forall_mem_singleton.mpr (List.ne_nil_of_length_pos sends.length_pos)⟩
    · rw [handed, recordsTo_concat]
      by_cases own : peer.name = name
      · subst own
        rw [moved, AssociationLog.through_page ascending hc, if_pos (decide_eq_true rfl)]
        have records := sends.records
        rw [page, h.log_eq] at records
        exact List.rel_append (h.sent peer.name) records
      · rw [stays (Ne.symm own), if_neg (by simpa using own), List.append_nil]
        exact h.sent name
    · intro name nothing
      by_cases own : name = peer.name
      · rw [own] at nothing
        rw [AssociationLog.changesSince_eq, nothing, List.take_nil] at hc
        cases hc
      · rwa [stays own]
    · intro _ answered
      cases answered

theorem Dispatched.takeTurns (h : Dispatched peers log s) (settings : ServiceSettings) (acknowledges : remote.Acknowledges)
    (positive : 0 < settings.batchLimit) {turns : List (Peer × Int64)} (configured : ∀ turn ∈ turns, turn.1 ∈ peers) :
    let run := takeTurns settings remote.addressed turns s
    Dispatched peers log run.2 ∧
    (∀ name, log.beyond (s.database.cursors.get name) = [] → log.beyond (run.2.database.cursors.get name) = []) ∧
    ∀ peer, (peer, .ok .caughtUp) ∈ run.1 → log.beyond (run.2.database.cursors.get peer.name) = [] := by
  induction turns generalizing s with
  | nil => exact ⟨h, fun _ => id, nofun⟩
  | cons turn turns ih =>
    obtain ⟨peer, now⟩ := turn
    obtain ⟨mem, configured⟩ := List.forall_mem_cons.mp configured
    obtain ⟨h, kept, done⟩ := h.turn settings acknowledges mem now
    rw [Sender.takeTurns]
    generalize (pushOnce settings remote.addressed peer now).result s = result at h kept done ⊢
    obtain ⟨answer, t⟩ := result
    obtain ⟨h, kept', done'⟩ := ih h configured
    refine ⟨h, fun name nothing => kept' name (kept name nothing), fun other hmem => ?_⟩
    rcases List.mem_cons.mp hmem with same | later
    · cases same
      exact kept' _ (done positive rfl)
    · exact done' other later

end Turn

/-- Once there is nothing more to send to a peer, the whole log was sent under its name. All of it was sent to this peer
    exactly if no batch went to another peer of that name, and so if no other peer has that name. -/
theorem every_peer_served (settings : Settings) (accepted : settings.check = .ok ()) {remote : Remote ω}
    (acknowledges : remote.Acknowledges) {s : Service ω} (sendable : s.database.Sendable)
    (numbered : ∀ r ∈ s.database.associations.rows, 0 < r.sequence) (unsent : s.database.cursors = {})
    {turns : List (Peer × Int64)} (configured : ∀ turn ∈ turns, turn.1 ∈ settings.peers) :
    let records := s.database.associations.changes.mapM ReplicatedRecord.ofChange
    let run := takeTurns settings.service remote.addressed turns (unserved s)
    let sent := run.2.world.1
    ∀ peer, (peer, .ok .caughtUp) ∈ run.1 →
      records = .ok (recordsTo (·.name = peer.name) sent) ∧
      (records = .ok (recordsTo (· = peer) sent) ↔ ∀ handed ∈ sent, handed.1.name = peer.name → handed.1 = peer) ∧
      ((∀ other ∈ settings.peers, other.name = peer.name → other = peer) → records = .ok (recordsTo (· = peer) sent)) := by
  intro records
  have start := dispatched_unserved settings.peers sendable numbered unsent
  obtain ⟨dispatched, -, done⟩ := start.takeTurns settings.service acknowledges (batchLimit_pos accepted) configured
  intro run sent peer answered
  have filled : ∀ handed ∈ sent, handed.2.records ≠ [] := dispatched.filled
  have all : records = .ok (recordsTo (·.name = peer.name) sent) := by
    have whole := AssociationLog.through_append_beyond sendable.changes_ascending (run.2.database.cursors.get peer.name)
    rw [done peer answered, List.append_nil] at whole
    exact mapM_eq_ok.mpr (whole ▸ dispatched.sent peer.name)
  have own : records = .ok (recordsTo (· = peer) sent) ↔ ∀ handed ∈ sent, handed.1.name = peer.name → handed.1 = peer := by
    have narrower : ∀ other : Peer, decide (other = peer) = true → decide (other.name = peer.name) = true := by
      intro other same
      rw [of_decide_eq_true same, decide_eq_true rfl]
    rw [all, Except.ok.injEq, eq_comm, recordsTo_eq_iff narrower filled]
    simp only [decide_eq_true_eq]
  exact ⟨all, own, fun unshared => own.mpr fun handed mem same => unshared _ (dispatched.configured handed mem) same⟩

/-- Two peers with names of their own, served in turns, are each sent the whole log. -/
theorem every_peer_served_apart :
    let one : Peer := ⟨"b.org", "https://b.org", ""⟩
    let two : Peer := ⟨"c.org", "https://c.org", ""⟩
    let settings := usual 1 [one, two]
    let s := logged [1, 4] .empty
    let turns := [(one, 5), (two, 6), (two, 7), (one, 8), (one, 9), (two, 10)]
    let run := takeTurns settings.service agreeable.addressed turns (unserved s)
    settings.check = .ok () ∧ (∀ turn ∈ turns, turn.1 ∈ settings.peers) ∧
    ∀ peer ∈ settings.peers, (peer, .ok .caughtUp) ∈ run.1 ∧
      s.database.associations.changes.mapM ReplicatedRecord.ofChange = .ok (recordsTo (· = peer) run.2.world.1) := by
  intro one two settings s turns
  have accepted : settings.check = .ok () := by decide +kernel
  have configured : ∀ turn ∈ turns, turn.1 ∈ settings.peers := by decide +kernel
  have numbered : ∀ r ∈ s.database.associations.rows, 0 < r.sequence := by decide +kernel
  have unshared : ∀ peer ∈ settings.peers, ∀ other ∈ settings.peers, other.name = peer.name → other = peer := by
    decide +kernel
  have sendable : s.database.Sendable := sendable_logged (by decide) .empty
  have served := every_peer_served settings accepted agreeable_acknowledges sendable numbered rfl configured
  have answered : ∀ peer ∈ settings.peers, (peer, .ok .caughtUp) ∈
      (takeTurns settings.service agreeable.addressed turns (unserved s)).1 := by
    decide +kernel
  generalize takeTurns settings.service agreeable.addressed turns (unserved s) = run at served answered ⊢
  refine ⟨accepted, configured, fun peer mem => ⟨answered peer mem, ?_⟩⟩
  obtain ⟨-, -, all⟩ := served peer (answered peer mem)
  exact all (unshared peer mem)

/-- Of two peers that share a name the second one is sent nothing, and its sender sees nothing left to send. -/
theorem namesake_passed_over :
    let one : Peer := ⟨"b.org", "https://one.b.org", ""⟩
    let two : Peer := ⟨"b.org", "https://two.b.org", ""⟩
    let settings := usual 500 [one, two]
    let s := logged [1] .empty
    let run := takeTurns settings.service agreeable.addressed [(one, 5), (one, 6), (two, 7)] (unserved s)
    settings.check = .ok () ∧ agreeable.Acknowledges ∧ s.database.Sendable ∧
    (∀ peer ∈ settings.peers, (peer, .ok .caughtUp) ∈ run.1) ∧
    (recordsTo (· = one) run.2.world.1).length = 1 ∧ (recordsTo (· = two) run.2.world.1).length = 0 ∧
    s.database.associations.changes.mapM ReplicatedRecord.ofChange ≠ .ok (recordsTo (· = two) run.2.world.1) := by
  intro one two settings s run
  have nothing : (recordsTo (· = two) run.2.world.1).length = 0 := by decide +kernel
  refine ⟨by decide +kernel, agreeable_acknowledges, sendable_logged (by decide) _, by decide +kernel, by decide +kernel,
    nothing, fun all => ?_⟩
  have count := (mapM_eq_ok.mp all).length_eq
  rw [nothing] at count
  exact absurd count (by decide)

end Sender
end IdentityServer
