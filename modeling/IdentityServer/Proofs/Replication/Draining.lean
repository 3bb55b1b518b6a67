import IdentityServer.Proofs.Replication.Pages
import IdentityServer.Proofs.Signing.SignedFields
import IdentityServer.Proofs.Text.Integer
import IdentityServer.Service.Settings
import Mathlib.Algebra.Order.Floor.Div

/-! # Draining the log

Each push to a peer that acknowledges what it gets takes the next page off the entries beyond its cursor. So after as many
pushes as there are pages, the last one perhaps not full, the peer has the whole log, and from then on there is nothing
to push. -/

namespace IdentityServer
variable {ω : Type}

/-- A remote whose peers acknowledge each batch with the place of its last record. -/
def Remote.Acknowledges (remote : Remote ω) : Prop :=
  ∀ key peer (batch : ReplicationBatch) last world, batch.lastSequence? = some last →
    ((remote.push key peer batch).run world).1 = .ok ⟨last⟩

/-- The log can be read, and what is read can be sent. -/
structure Database.Sendable (db : Database) : Prop where
  ready : Sender.Ready db
  ascending : db.associations.rows.Pairwise fun a b => a.sequence < b.sequence
  texts : ∀ r ∈ db.associations.rows, ∃ signed, Json.parse r.signedPayload = some signed

theorem Database.Sendable.advanced {db : Database} (h : db.Sendable) (peer : String) (place now : Int64) :
    (db.advanced peer place now).Sendable :=
  ⟨⟨h.ready.cursor, h.ready.changesSince, h.ready.advance⟩, h.ascending, h.texts⟩

theorem Database.Sendable.changes_ascending {db : Database} (h : db.Sendable) :
    db.associations.changes.Pairwise fun a b => a.sequence < b.sequence :=
  AssociationLog.changes_ascending h.ascending

theorem AssociationLog.length_beyond (log : AssociationLog) (place : Int64) :
    (log.beyond place).length = (log.rows.filter (place < ·.sequence)).length := by
  rw [beyond, changes, List.filter_map, List.length_map]
  simp only [Function.comp_def, LogRow.toChange_sequence]

/-! ### Pushes -/

namespace Sender
variable {settings : ServiceSettings} {remote : Remote ω} {s : Service ω}

theorem readable_page (sendable : s.database.Sendable) (peer : Peer) :
    ∀ c ∈ page settings peer s.database, ∃ record, ReplicatedRecord.ofChange c = .ok record := by
  intro c hc
  obtain ⟨r, hr, rfl⟩ := List.mem_map.mp hc
  obtain ⟨signed, hsigned⟩ := sendable.texts r (List.mem_of_mem_filter (List.mem_of_mem_take hr))
  rw [← r.toChange_signedPayload] at hsigned
  exact ⟨_, by rw [ReplicatedRecord.ofChange, hsigned]⟩

/-- With a peer that acknowledges, a push finds nothing to send, or it sends the next page and moves the cursor to its
    end. -/
theorem pushOnce_acknowledged (settings : ServiceSettings) (sendable : s.database.Sendable)
    (acknowledges : remote.Acknowledges) (peer : Peer) (now : Int64) :
    (page settings peer s.database = [] ∧ (pushOnce settings remote peer now).result s = (.ok .caughtUp, s)) ∨
    ∃ batch last world, Sends settings peer s.database batch last ∧
      (remote.push s.ring.current peer batch).run s.world = (.ok ⟨last⟩, world) ∧
      (pushOnce settings remote peer now).result s = (.ok (.pushed batch.records.length last),
        { s with world, database := s.database.advanced peer.name last now }) := by
  have pushes := pushOnce_pushes settings remote peer now s
  generalize (pushOnce settings remote peer now).result s = result at pushes
  obtain ⟨answer, t⟩ := result
  cases pushes with
  | unsent e cause =>
    obtain (hcursor | hread) | ⟨fault, failed⟩ := cause
    · cases (sendable.ready.cursor_eq peer.name).symm.trans hcursor
    · cases (sendable.ready.changesSince_eq _ _).symm.trans hread
    · obtain ⟨batch, hbatch⟩ := exists_ofChanges settings.serverName (readable_page sendable peer)
      cases hbatch.symm.trans failed
  | caughtUp done => exact .inl ⟨done, rfl⟩
  | unacknowledged batch last e answer world sends sent other =>
    have acknowledged := acknowledges s.ring.current peer batch last s.world sends.last_eq
    rw [sent] at acknowledged
    exact absurd acknowledged other
  | unrecorded batch last e world sends sent failed =>
    cases (sendable.ready.advance_eq peer.name last now).symm.trans failed
  | acknowledged batch last world sends sent => exact .inr ⟨batch, last, world, sends, sent, rfl⟩

/-- What the pushes answer of senders that take turns, each with its peer, and the service that they leave. -/
def takeTurns (settings : ServiceSettings) (remote : Remote ω) :
    List (Peer × Int64) → Service ω → List (Peer × Except ServiceError PushOutcome) × Service ω
  | [], s => ([], s)
  | (peer, now) :: rest, s =>
    let (answer, t) := (pushOnce settings remote peer now).result s
    let (answers, u) := takeTurns settings remote rest t
    ((peer, answer) :: answers, u)

/-- What pushes that are all acknowledged answer, from one place of the log to another. -/
inductive Drains (log : AssociationLog) (limit : Nat) : Int64 → List PushOutcome → Int64 → Prop
  | done (cursor : Int64) : Drains log limit cursor [] cursor
  | pushed {cursor final : Int64} {answers : List PushOutcome} {c : Change}
    (page : (log.changesSince cursor limit).getLast? = some c) (rest : Drains log limit c.sequence answers final) :
    Drains log limit cursor (.pushed (log.changesSince cursor limit).length c.sequence :: answers) final
  | caughtUp {cursor final : Int64} {answers : List PushOutcome}
    (page : log.changesSince cursor limit = []) (rest : Drains log limit cursor answers final) :
    Drains log limit cursor (.caughtUp :: answers) final

theorem takeTurns_drains (settings : ServiceSettings) (sendable : s.database.Sendable) (acknowledges : remote.Acknowledges)
    (peer : Peer) (times : List Int64) :
    let (answers, t) := takeTurns settings remote (times.map fun now => (peer, now)) s
    t.database.associations = s.database.associations ∧
    ∃ outcomes, answers = outcomes.map (fun outcome => (peer, .ok outcome)) ∧ outcomes.length = times.length ∧
      Drains s.database.associations settings.batchLimit (s.database.cursors.get peer.name) outcomes
        (t.database.cursors.get peer.name) := by
  induction times generalizing s with
  | nil => exact ⟨rfl, [], rfl, rfl, .done _⟩
  | cons now times ih =>
    obtain ⟨done, hpush⟩ | ⟨batch, last, world, sends, -, hpush⟩ :=
      pushOnce_acknowledged settings sendable acknowledges peer now
    · obtain ⟨log, outcomes, answers, length, drains⟩ := ih sendable
      rw [List.map_cons, takeTurns, hpush]
      exact ⟨log, .caughtUp :: outcomes, by rw [answers]; rfl, congrArg (· + 1) length, .caughtUp done drains⟩
    · obtain ⟨c, hc, rfl⟩ := sends.last_entry
      let t : Service ω := { s with world, database := s.database.advanced peer.name c.sequence now }
      have sendable' : t.database.Sendable := sendable.advanced peer.name c.sequence now
      obtain ⟨log, outcomes, answers, length, drains⟩ := ih sendable'
      have moved : t.database.cursors.get peer.name = c.sequence := CursorTable.get_advance_self now sends.cursor_lt
      rw [moved] at drains
      rw [List.map_cons, takeTurns, hpush]
      refine ⟨log, .pushed batch.records.length c.sequence :: outcomes, by rw [answers]; rfl, congrArg (· + 1) length, ?_⟩
      rw [sends.length_eq]
      exact .pushed hc drains

/-! ### Places -/

theorem pages_succ {n limit : Nat} (some_left : 0 < n) (positive : 0 < limit) :
    n ⌈/⌉ limit = (n - limit) ⌈/⌉ limit + 1 := by
  rw [Nat.ceilDiv_eq_add_pred_div, Nat.ceilDiv_eq_add_pred_div]
  rcases Nat.le_total n limit with last | more
  · have whole : n + limit - 1 = (n - 1) + limit := by omega
    have rest : (n - limit + limit - 1) / limit = 0 := Nat.div_eq_of_lt (by omega)
    rw [whole, Nat.add_div_right _ positive, Nat.div_eq_of_lt (by omega), rest]
  · have whole : n + limit - 1 = (n - limit + limit - 1) + limit := by omega
    rw [whole, Nat.add_div_right _ positive]

/-- The pages that `n` entries beyond a cursor make, and the places at which those end that were pushed. -/
structure Paged (log : AssociationLog) (limit n : Nat) (cursor : Int64) (answers : List PushOutcome) (final : Int64)
    (places : List Int64) : Prop where
  count : places.length = min answers.length (n ⌈/⌉ limit)
  ascending : (cursor :: places).Pairwise (· < ·)
  stored : ∀ place ∈ places, ∃ c ∈ log.changes, c.sequence = place
  answers_eq : answers = (places.mapIdx fun i place => .pushed (min limit (n - i * limit)) place) ++
    List.replicate (answers.length - n ⌈/⌉ limit) .caughtUp
  final_eq : (cursor :: places).getLast? = some final
  finished : n ⌈/⌉ limit ≤ answers.length → log.beyond final = []

section Places
variable {log : AssociationLog} {limit : Nat} {cursor final : Int64} {answers : List PushOutcome} {places : List Int64}

theorem paged_done (positive : 0 < limit) : Paged log limit (log.beyond cursor).length cursor [] cursor [] where
  count := (Nat.zero_min _).symm
  ascending := List.pairwise_singleton ..
  stored := nofun
  answers_eq := by rw [List.length_nil, Nat.zero_sub]; rfl
  final_eq := rfl
  finished enough := by
    refine List.eq_nil_of_length_eq_zero (Nat.eq_zero_of_not_pos fun some_left => ?_)
    rw [pages_succ some_left positive] at enough
    exact absurd enough (Nat.not_succ_le_zero _)

theorem Paged.pushed {n : Nat} {place : Int64} (h : Paged log limit (n - limit) place answers final places)
    (some_left : 0 < n) (positive : 0 < limit) (ahead : cursor < place) (stored : ∃ c ∈ log.changes, c.sequence = place) :
    Paged log limit n cursor (.pushed (min limit n) place :: answers) final (place :: places) where
  count := by
    rw [List.length_cons, List.length_cons, h.count, pages_succ some_left positive]
    omega
  ascending := by
    refine List.pairwise_cons.mpr ⟨fun later hlater => ?_, h.ascending⟩
    rcases List.mem_cons.mp hlater with rfl | hlater
    · exact ahead
    · exact Int64.lt_trans ahead ((List.pairwise_cons.mp h.ascending).1 later hlater)
  stored := List.forall_mem_cons.mpr ⟨stored, h.stored⟩
  answers_eq := by
    have left (i : Nat) : n - (i + 1) * limit = n - limit - i * limit := by
      rw [Nat.succ_mul, Nat.add_comm, Nat.sub_sub]
    rw [List.mapIdx_cons, pages_succ some_left positive, List.length_cons, Nat.add_sub_add_right, Nat.zero_mul,
      Nat.sub_zero, List.cons_append]
    simp only [left]
    rw [← h.answers_eq]
  final_eq := by
    rw [List.getLast?_cons_cons]
    exact h.final_eq
  finished enough := by
    rw [pages_succ some_left positive, List.length_cons] at enough
    exact h.finished (Nat.le_of_succ_le_succ enough)

/-- With nothing beyond the cursor there are no pages, and one more push finds nothing as well. -/
theorem Paged.caughtUp (h : Paged log limit 0 cursor answers final places) :
    Paged log limit 0 cursor (.caughtUp :: answers) final places := by
  obtain ⟨count, ascending, stored, answers_eq, final_eq, finished⟩ := h
  rw [zero_ceilDiv] at count answers_eq finished
  obtain rfl := List.eq_nil_of_length_eq_zero (count.trans (Nat.min_zero _))
  refine ⟨?_, ascending, nofun, ?_, final_eq, fun _ => finished (Nat.zero_le _)⟩
  · rw [zero_ceilDiv, Nat.min_zero, List.length_nil]
  · rw [List.mapIdx_nil, List.nil_append, Nat.sub_zero] at answers_eq
    rw [zero_ceilDiv, List.mapIdx_nil, List.nil_append, Nat.sub_zero, List.length_cons, List.replicate_succ, ← answers_eq]

/-- Pushes that are all acknowledged take the pages one after the other. -/
theorem Drains.paged (h : Drains log limit cursor answers final)
    (ascending : log.changes.Pairwise fun a b => a.sequence < b.sequence) (positive : 0 < limit) :
    ∃ places, Paged log limit (log.beyond cursor).length cursor answers final places := by
  induction h with
  | done cursor => exact ⟨[], paged_done positive⟩
  | @pushed cursor final answers c page rest ih =>
    obtain ⟨places, paged⟩ := ih
    have mem : c ∈ log.beyond cursor :=
      List.mem_of_mem_take (AssociationLog.changesSince_eq .. ▸ List.mem_of_getLast? page)
    obtain ⟨written, ahead⟩ := List.mem_filter.mp mem
    rw [AssociationLog.beyond_page ascending page, List.length_drop] at paged
    rw [AssociationLog.changesSince_eq, List.length_take]
    exact ⟨c.sequence :: places,
      paged.pushed (List.length_pos_of_mem mem) positive (of_decide_eq_true ahead) ⟨c, written, rfl⟩⟩
  | @caughtUp cursor final answers page rest ih =>
    obtain ⟨places, paged⟩ := ih
    have none_left : (log.beyond cursor).length = 0 := by
      have taken := congrArg List.length page
      rw [AssociationLog.changesSince_eq, List.length_take, List.length_nil] at taken
      omega
    rw [none_left] at paged ⊢
    exact ⟨places, paged.caughtUp⟩

end Places

/-! ### Settings -/

/-- Settings are refused if a batch could hold no record. -/
theorem batchLimit_pos {settings : Settings} (accepted : settings.check = .ok ()) : 0 < settings.batchLimit.toNat := by
  refine Nat.pos_of_ne_zero fun none => ?_
  have zero : settings.batchLimit = 0 := UInt32.toNat_inj.mp none
  simp only [Settings.check, bind_eq_ok, if_pos zero] at accepted
  obtain ⟨-, -, -, -, -, -, -, -, refused⟩ := accepted
  split at refused
  · obtain ⟨-, refused, -⟩ := bind_eq_ok.mp refused
    exact throw_ne_ok refused
  · exact throw_ne_ok refused

/-- Whatever the log holds beyond the cursor of a peer that acknowledges what it gets, in as many pushes as there are
    pages each sends the next one, at higher and higher places, and every later push finds nothing to send. The cursor is
    then at the highest number of the log, or where it was if that is beyond the log. -/
theorem drains_in_pages (settings : Settings) (accepted : settings.check = .ok ()) {remote : Remote ω}
    (acknowledges : remote.Acknowledges) (peer : Peer) {s : Service ω} (sendable : s.database.Sendable) (times : List Int64) :
    let log := s.database.associations
    let cursor := s.database.cursors.get peer.name
    let limit := settings.batchLimit.toNat
    let n := (log.rows.filter (cursor < ·.sequence)).length
    let (answers, t) := takeTurns settings.service remote (times.map fun now => (peer, now)) s
    1 ≤ limit ∧ t.database.associations = log ∧
    (∃ places : List Int64, places.length = min times.length (n ⌈/⌉ limit) ∧ (cursor :: places).Pairwise (· < ·) ∧
      answers.map (·.2) = ((places.mapIdx fun i place => PushOutcome.pushed (min limit (n - i * limit)) place) ++
        List.replicate (times.length - n ⌈/⌉ limit) PushOutcome.caughtUp).map .ok) ∧
    (n ⌈/⌉ limit ≤ times.length →
      (0 < n → (log.rows.map (·.sequence)).max? = some (t.database.cursors.get peer.name)) ∧
      (n = 0 → t.database.cursors.get peer.name = cursor)) := by
  intro log cursor limit n
  have ascending := sendable.changes_ascending
  have positive : 0 < limit := batchLimit_pos accepted
  rcases hturns : takeTurns settings.service remote (times.map fun now => (peer, now)) s with ⟨answers, t⟩
  obtain ⟨kept, outcomes, answers, length, drains⟩ := hturns ▸
    takeTurns_drains settings.service sendable acknowledges peer times
  have drains : Drains log limit cursor outcomes (t.database.cursors.get peer.name) := drains
  obtain ⟨places, paged⟩ := drains.paged ascending positive
  rw [show (log.beyond cursor).length = n from log.length_beyond cursor] at paged
  obtain ⟨count, sorted, stored, shape, last, finished⟩ := paged
  rw [length] at count shape finished
  refine ⟨positive, kept, ⟨places, count, sorted, ?_⟩, fun enough => ⟨fun some_left => ?_, fun none_left => ?_⟩⟩
  · rw [answers, List.map_map, shape]
    rfl
  · have all : ∀ r ∈ log.rows, r.sequence ≤ t.database.cursors.get peer.name := by
      intro r hr
      have reached := List.filter_eq_nil_iff.mp (finished enough) r.toChange (List.mem_map_of_mem hr)
      simpa [Int64.not_lt] using reached
    have pushed : places ≠ [] := by
      rintro rfl
      rw [pages_succ some_left positive] at count enough
      rw [Nat.min_eq_right enough] at count
      cases count
    have final : t.database.cursors.get peer.name ∈ places := by
      rw [List.getLast?_cons_of_ne_nil pushed] at last
      exact List.mem_of_getLast? last
    obtain ⟨c, hc, place⟩ := stored _ final
    obtain ⟨r, hr, rfl⟩ := List.mem_map.mp hc
    refine List.max?_eq_some_iff.mpr ⟨List.mem_map.mpr ⟨r, hr, r.toChange_sequence.symm.trans place⟩, ?_⟩
    exact List.forall_mem_map.mpr all
  · rw [none_left, zero_ceilDiv, Nat.min_zero] at count
    rw [List.eq_nil_of_length_eq_zero count] at last
    exact (Option.some.inj last).symm

/-- The usual settings of a server with these peers. -/
def usual (batchLimit : UInt32) (peers : List Peer) : Settings where
  serverName := "id.example.org"
  databaseUrl := "sqlite://sigil.db"
  maxConnections := 8
  signingKey := none
  lifetime := ""
  deleteOnDelivery := true
  validity := ""
  retryIntervalSeconds := 300
  keyResolution := .direct
  notaryServer := none
  requestTimeoutSeconds := 30
  batchLimit
  pollIntervalSeconds := 30
  backoffBaseMillis := 1000
  backoffLongestMillis := 300000
  peers
  redaction := {}
  logFilter := "sigil=info"
  logFormat := .pretty

/-- A service whose log has entries at these places, and of which a peer acknowledged the log up to a place. -/
def logged (places : List Int64) (cursors : Dictionary Cursor) : Service Unit where
  database :=
    { associations :=
        { rows := places.map fun sequence =>
            { medium := .email, address := "john@example.com", account := "@john:a.org", notBefore := 0, notAfter := none,
              createdAt := 0, signedPayload := "null", sequence, tombstone := false, active := false }
          last := 9 }
      cursors := ⟨cursors⟩ }
  ring := ⟨.zeros, .empty, .empty⟩
  deliveries := []
  wake := {}
  world := ()

def agreeable : Remote Unit where
  deliver _ _ := pure (.ok ())
  push _ _ batch := pure (.ok ⟨batch.lastSequence?.getD 0⟩)
  owns _ _ _ _ := pure true

theorem agreeable_acknowledges : agreeable.Acknowledges := by
  intro key peer batch last world hlast
  show Except.ok (ReplicationAck.mk (batch.lastSequence?.getD 0)) = _
  rw [hlast, Option.getD_some]

theorem sendable_logged {places : List Int64} (ascending : places.Pairwise (· < ·)) (cursors : Dictionary Cursor) :
    (logged places cursors).database.Sendable where
  ready := ⟨rfl, rfl, rfl⟩
  ascending := List.pairwise_map.mpr ascending
  texts := by
    have parsed : (Json.parse "null").isSome = true := by decide +kernel
    exact List.forall_mem_map.mpr fun _ _ => Option.isSome_iff_exists.mp parsed

/-- Four entries, with gaps between their places, make a full page and one that is not full. -/
theorem drains_in_pages_gaps :
    let settings := usual 3 [⟨"b.org", "https://b.org", ""⟩]
    let peer : Peer := ⟨"b.org", "https://b.org", ""⟩
    let s := logged [1, 2, 4, 7, 9] (.single "b.org" ⟨1, 0⟩)
    let (answers, t) := takeTurns settings.service agreeable ([5, 6, 7, 8].map fun now => (peer, now)) s
    settings.check = .ok () ∧ agreeable.Acknowledges ∧ s.database.Sendable ∧
    (∃ a b, 1 < a ∧ a < b ∧
      answers.map (·.2) = [.ok (.pushed 3 a), .ok (.pushed 1 b), .ok .caughtUp, .ok .caughtUp]) ∧
    t.database.cursors.get "b.org" = 9 := by
  intro settings peer s
  have accepted : settings.check = .ok () := by decide +kernel
  have sendable : s.database.Sendable := sendable_logged (by decide) _
  have pages := drains_in_pages settings accepted agreeable_acknowledges peer sendable [5, 6, 7, 8]
  generalize takeTurns settings.service agreeable ([5, 6, 7, 8].map fun now => (peer, now)) s = turns at pages ⊢
  obtain ⟨answers, t⟩ := turns
  obtain ⟨-, -, ⟨places, count, sorted, answered⟩, reaches⟩ := pages
  have left : (s.database.associations.rows.filter fun r => s.database.cursors.get peer.name < r.sequence).length = 4 := by
    decide +kernel
  rw [left] at count answered reaches
  have two : 4 ⌈/⌉ settings.batchLimit.toNat = 2 := by decide +kernel
  rw [two] at count answered reaches
  obtain ⟨a, b, rfl⟩ := List.length_eq_two.mp count
  have highest : (s.database.associations.rows.map (·.sequence)).max? = some 9 := by decide +kernel
  have start : s.database.cursors.get peer.name = 1 := by decide +kernel
  rw [start] at sorted
  obtain ⟨first, sorted⟩ := List.pairwise_cons.mp sorted
  obtain ⟨second, -⟩ := List.pairwise_cons.mp sorted
  obtain ⟨reached, -⟩ := reaches (by decide)
  refine ⟨accepted, agreeable_acknowledges, sendable, ⟨a, b, ?_, ?_, answered⟩, ?_⟩
  · exact first a List.mem_cons_self
  · exact second b (List.mem_singleton_self b)
  · exact Option.some.inj ((reached (by decide)).symm.trans highest)

/-- A cursor beyond the log stays where it is. -/
theorem cursor_beyond_log_stays :
    let settings := usual 500 [⟨"b.org", "https://b.org", ""⟩]
    let peer : Peer := ⟨"b.org", "https://b.org", ""⟩
    let s := logged [1] (.single "b.org" ⟨5, 0⟩)
    let (answers, t) := takeTurns settings.service agreeable [(peer, 6)] s
    settings.check = .ok () ∧ agreeable.Acknowledges ∧ s.database.Sendable ∧ answers = [(peer, .ok .caughtUp)] ∧
    (t.database.associations.rows.map (·.sequence)).max? = some 1 ∧ t.database.cursors.get "b.org" = 5 := by
  intro settings peer s
  exact ⟨by decide +kernel, agreeable_acknowledges, sendable_logged (by decide) _, by decide +kernel, by decide +kernel,
    by decide +kernel⟩

end Sender
end IdentityServer
