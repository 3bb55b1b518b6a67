import IdentityServer.Proofs.Dictionary
import IdentityServer.Proofs.Replication.Trust
import IdentityServer.Proofs.Signing.Mirror

/-! # A backlog of several keys

A service signs with one key after the other and keeps them all, so the entries of one key stand together in its log.
A receiver is set up with one public key. Every page of the log whose ends were signed with the same key is accepted by
a receiver with this key; a page across a rotation is accepted only if one public key is good for both signatures. -/

namespace IdentityServer
open SignedJson

/-! ### Runs of equal elements -/

section Runs
variable {α : Type} {l : List α} {a b x : α}

/-- Equal elements stand together. -/
def Together (l : List α) : Prop :=
  ∀ a b, [a, b, a].Sublist l → b = a

theorem sublist_concat {front : List α} (h : (front ++ [a]).Sublist (l ++ [x])) :
    (front ++ [a]).Sublist l ∨ (a = x ∧ front.Sublist l) := by
  obtain ⟨first, rest, hsplit, hfirst, hrest⟩ := List.sublist_append_iff.mp h
  rcases List.sublist_singleton.mp hrest with rfl | rfl
  · rw [List.append_nil] at hsplit
    exact .inl (hsplit ▸ hfirst)
  · obtain ⟨rfl, ha⟩ := List.append_inj' hsplit (by rfl)
    exact .inr ⟨List.singleton_inj.mp ha, hfirst⟩

theorem eq_of_pair_concat (last : ∀ b, [x, b].Sublist l → b = x) : ∀ b, [x, b].Sublist (l ++ [x]) → b = x := by
  intro b hb
  have hpair : ([x] ++ [b]).Sublist (l ++ [x]) := hb
  rcases sublist_concat hpair with within | ⟨same, -⟩
  · exact last b within
  · exact same

theorem Together.concat (h : Together l) (last : ∀ b, [x, b].Sublist l → b = x) : Together (l ++ [x]) := by
  intro a b hab
  have hends : ([a, b] ++ [a]).Sublist (l ++ [x]) := hab
  rcases sublist_concat hends with within | ⟨rfl, hpair⟩
  · exact h a b within
  · exact last b hpair

theorem Together.sublist {part : List α} (h : Together l) (sub : part.Sublist l) : Together part :=
  fun a b hab => h a b (hab.trans sub)

theorem Together.eq_of_ends (h : Together l) (first : l.head? = some a) (final : l.getLast? = some a) : ∀ b ∈ l, b = a := by
  intro b hb
  obtain ⟨rest, rfl⟩ := List.head?_eq_some_iff.mp first
  rcases List.mem_cons.mp hb with rfl | hb
  · rfl
  · have final : rest.getLast? = some a := by
      rwa [List.getLast?_cons_of_ne_nil (List.ne_nil_of_mem hb)] at final
    obtain ⟨middle, rfl⟩ := List.getLast?_eq_some_iff.mp final
    rcases List.mem_append.mp hb with hb | hb
    · exact h a b ((List.Sublist.append (List.singleton_sublist.mpr hb) (.refl [a])).cons_cons a)
    · exact List.mem_singleton.mp hb

end Runs

/-! ### Who has signed -/

/-- The key ids under which a server has signed a record. -/
def ReplicatedRecord.signers (server : String) (sent : ReplicatedRecord) : List String :=
  (signaturesOf server sent.signed).map (·.1)

/-- The key ids under which a server has signed an entry. -/
def LogRow.signers (server : String) (r : LogRow) : List String :=
  match ReplicatedRecord.ofChange r.toChange with
  | .ok sent => sent.signers server
  | .error _ => []

def AssociationLog.signers (server : String) (log : AssociationLog) : List (List String) :=
  log.rows.map (LogRow.signers server)

namespace LogRow
variable {r : LogRow} {server : String} {sent : ReplicatedRecord}

theorem signers_eq (h : ReplicatedRecord.ofChange r.toChange = .ok sent) : sent.signers server = r.signers server := by
  rw [signers, h]

theorem signers_cleared (p : LogRow → Bool) : (r.cleared p).signers server = r.signers server := by
  rw [signers, ← written_toChange, cleared_written, written_toChange, signers]

variable [SignatureScheme] {key : KeyPair} {entry : Peer}

theorem Genuine.signers (h : r.Genuine key server) : r.signers server = [key.id] := by
  rw [← signers_eq h.ofChange, ReplicatedRecord.signers, record, signedFields, signaturesOf_withSignature]
  rfl

/-- A receiver checks the one signature of an entry, whatever the key id says. -/
theorem verify_record {publicKey : String} :
    verify (r.record key server).signed server (fun _ => some publicKey) = .ok () ↔
      verifySignature publicKey (key.sign (utf8 (signedText r.statement))) (utf8 (signedText r.statement)) = true := by
  have fields : (r.record key server).signed.fields? = some (signedFields key server r.statement) := rfl
  have signatures : signaturesOf server (r.record key server).signed =
      [(key.id, .str (key.sign (utf8 (signedText r.statement))))] := signaturesOf_withSignature
  rw [verify_eq_ok, fields, signatures]
  simp [entryValid, Json.text?, signedFields, signedText_withSignature]

/-- Of what a genuine entry carries, the receiver has to believe nothing but the signature. -/
theorem Genuine.trusted_iff (h : r.Genuine key server) (name : entry.name = server) :
    (r.record key server).Trusted entry ↔
      verify (r.record key server).signed server (fun _ => some entry.verifyKey) = .ok () := by
  subst name
  refine ⟨fun trusted => ReplicatedRecord.verify_peer.mpr trusted.signed, fun accepted => ?_⟩
  exact ⟨ReplicatedRecord.verify_peer.mp accepted, _, h.statedBy, h.address, h.account⟩

end LogRow

theorem AssociationLog.Grows.signers [SignatureScheme] {key : KeyPair} {server : String} {log next : AssociationLog}
    (h : log.Grows key server next) :
    next.signers server = log.signers server ∨ next.signers server = log.signers server ++ [[key.id]] := by
  cases h with
  | nothing => exact .inl rfl
  | entry p new tombstone room genuine =>
    refine .inr ?_
    have cleared : LogRow.signers server ∘ LogRow.cleared p = LogRow.signers server :=
      funext fun r => r.signers_cleared p
    rw [AssociationLog.signers, put, List.map_append, List.map_map, cleared, List.map_singleton, genuine.signers]
    rfl

/-! ### Keys that stay -/

namespace KeyRing
variable [SignatureScheme] {ring next : KeyRing} {table rest : KeyTable} {fresh : Bytes} {made retired : Int64}

/-- The ring knows its current key, and the versions of the keys that it knows are taken. -/
structure Backed (ring : KeyRing) (table : KeyTable) : Prop where
  current : ring.all.get? ring.current.id = some ring.current
  taken : ∀ id key, ring.all.get? id = some key → key.id = id ∧ ∃ r ∈ table.rows, r.version = key.version

theorem Mirrors.backed {older : List StoredKey} {latest : StoredKey} (h : ring.Mirrors table older latest) :
    ring.Backed table where
  current := (h.all _ _).mpr ⟨rfl, latest, h.succession.latest_mem, h.current⟩
  taken id key known := by
    obtain ⟨hid, r, hr, hholds⟩ := (h.all id key).mp known
    exact ⟨hid, r, hr, hholds.version⟩

/-- What a rotation that does not fail puts in, and the ring that it leaves. -/
theorem rotate_ok (rotates : ring.rotate fresh made retired table = .ok (next, rest)) :
    ∃ key : KeyPair, (KeyTable.insertCurrent (rowOf key made)).execute table = .ok ((), rest) ∧
      next = ⟨key, ring.all.insert key.id key, ring.retiredAt.insert ring.current.id retired⟩ := by
  unfold rotate at rotates
  split at rotates
  · cases rotates
  · obtain ⟨key, -, rotates⟩ := bind_eq_ok.mp rotates
    obtain ⟨stored, hstored, rotates⟩ := bind_eq_ok.mp rotates
    cases rotates
    refine ⟨key, ?_, rfl⟩
    unfold persist at hstored
    split at hstored
    · rename_i hexecute
      cases hstored
      exact hexecute
    · cases hstored

/-- A rotation brings a key with a key id that was not known, and no known key goes. -/
theorem Backed.rotate (h : ring.Backed table) (rotates : ring.rotate fresh made retired table = .ok (next, rest)) :
    next.Backed rest ∧ ring.all.get? next.current.id = none ∧
      next.all = ring.all.insert next.current.id next.current := by
  obtain ⟨key, hinsert, rfl⟩ := rotate_ok rotates
  obtain ⟨free, added, kept⟩ := KeyTable.insertCurrent_ok hinsert
  refine ⟨⟨?_, fun id other known => ?_⟩, ?_, rfl⟩
  · rw [Dictionary.get?_insert, if_pos rfl]
  · rw [Dictionary.get?_insert] at known
    split at known
    · rename_i hid
      cases known
      exact ⟨hid, added⟩
    · obtain ⟨hid, r, hr, hversion⟩ := h.taken id other known
      obtain ⟨q, hq, same⟩ := kept r hr
      exact ⟨hid, q, hq, same.trans hversion⟩
  · refine Option.eq_none_iff_forall_ne_some.mpr fun other known => ?_
    obtain ⟨hid, r, hr, hversion⟩ := h.taken _ other known
    exact free r hr (hversion.trans (KeyPair.idOf_inj hid))

end KeyRing

/-! ### Runs -/

/-- The service with other cursors. -/
def Service.withCursors {ω : Type} (s : Service ω) (cursors : CursorTable) : Service ω :=
  { s with database := { s.database with cursors } }

namespace Ledger
variable [SignatureScheme] {ω : Type} {settings : ServiceSettings} {s : Service ω}

/-- What puts entries into the log, and what changes the key that they are signed with. -/
def Act.Signs : Act ω → Prop
  | .event (.bind ..) | .event (.unbind ..) | .rotate .. => True
  | _ => False

theorem Act.Signs.keeps {act : Act ω} (h : act.Signs) :
    ((act.after settings s).ring = s.ring ∧ (act.after settings s).database.keys = s.database.keys) ∨
    ∃ fresh made retired, act = .rotate fresh made retired := by
  cases act with
  | rotate fresh made retired => exact .inr ⟨fresh, made, retired, rfl⟩
  | event e =>
    refine .inl ?_
    cases e with
    | bind now medium raw account validated =>
      obtain ⟨e, hresult⟩ | ⟨address, sequence, database, -, -, hupsert, hresult⟩ :=
        Binder.bind_cases settings now medium raw account validated s
      · simp only [after, Event.after, hresult, and_self]
      · obtain ⟨-, -, rfl⟩ := Database.upsert_ok hupsert
        simp only [after, Event.after, hresult, and_self]
    | unbind remote readings medium raw account claimed =>
      obtain ⟨world, -, recorded⟩ : ∃ world, _ ∧ Binder.Recorded settings { s with world }
          ((Binder.unbind settings remote readings medium raw account claimed).result s).2 :=
        Binder.unbind_recorded remote readings claimed
      refine ⟨recorded.ring, ?_⟩
      obtain ⟨-, hdatabase⟩ | ⟨_, -, -, -, -, hdatabase⟩ :=
        Binder.unbind_writes settings remote readings medium raw account claimed s
      · exact congrArg Database.keys hdatabase
      · exact (congrArg Database.keys hdatabase).trans rfl
    | _ => exact h.elim

/-- The service knows every key that it has signed with, entries of one key stand together, and those of the current
    key are the last. -/
structure Kept (server : String) (s : Service ω) : Prop where
  backed : s.ring.Backed s.database.keys
  sound : s.database.associations.Sound
  signed : ∀ r ∈ s.database.associations.rows, ∃ key, s.ring.all.get? key.id = some key ∧ r.Genuine key server
  together : Together (s.database.associations.signers server)
  latest : ∀ ids, [[s.ring.current.id], ids].Sublist (s.database.associations.signers server) → ids = [s.ring.current.id]

theorem kept_start (service : Service ω) (server : String) (backed : service.ring.Backed service.database.keys) :
    Kept server (start service).service where
  backed := backed
  sound := AssociationLog.sound_empty
  signed := nofun
  together _ _ h := nomatch h
  latest _ h := nomatch h

theorem Kept.written (h : Kept settings.serverName s) {t : Service ω} (ring : t.ring = s.ring)
    (keys : t.database.keys = s.database.keys) (writes : AssociationLog.Writes s.database.associations t.database.associations)
    (grows : s.database.associations.Grows s.ring.current settings.serverName t.database.associations) :
    Kept settings.serverName t := by
  refine ⟨ring ▸ keys ▸ h.backed, h.sound.writes writes, fun r hr => ?_, ?_, ?_⟩
  · rw [ring]
    obtain ⟨q, hq, p, rfl⟩ | ⟨genuine, -⟩ := grows.mem hr
    · obtain ⟨key, known, genuine⟩ := h.signed q hq
      exact ⟨key, known, genuine.cleared p⟩
    · exact ⟨_, h.backed.current, genuine⟩
  · rcases grows.signers with same | more
    · rw [same]
      exact h.together
    · rw [more]
      exact h.together.concat h.latest
  · rw [ring]
    rcases grows.signers with same | more
    · rw [same]
      exact h.latest
    · rw [more]
      exact eq_of_pair_concat h.latest

theorem Kept.rotated (h : Kept settings.serverName s) (fresh : Bytes) (made retired : Int64) :
    Kept settings.serverName (rotated fresh made retired s) := by
  unfold Ledger.rotated
  split
  · rename_i ring keys rotates
    obtain ⟨backed, unknown, all⟩ := h.backed.rotate rotates
    have apart : ∀ key : KeyPair, s.ring.all.get? key.id = some key → ring.current.id ≠ key.id := by
      intro key known same
      rw [same, known] at unknown
      cases unknown
    -- No entry is signed with the new key, so there is nothing to come after such an entry.
    have unused : [ring.current.id] ∉ s.database.associations.signers settings.serverName := by
      intro hids
      obtain ⟨r, hr, hsigners⟩ := List.mem_map.mp hids
      obtain ⟨key, known, genuine⟩ := h.signed r hr
      exact apart key known (List.singleton_inj.mp (hsigners.symm.trans genuine.signers))
    refine ⟨backed, h.sound, fun r hr => ?_, h.together, fun ids hids => absurd (hids.subset List.mem_cons_self) unused⟩
    obtain ⟨key, known, genuine⟩ := h.signed r hr
    refine ⟨key, ?_, genuine⟩
    show ring.all.get? key.id = some key
    rw [all, Dictionary.get?_insert, if_neg (apart key known), known]
  · exact h

theorem Kept.serve (h : Kept settings.serverName s) {acts : List (Act ω)} (signs : ∀ act ∈ acts, act.Signs) :
    Kept settings.serverName (serve settings s acts) := by
  induction acts generalizing s with
  | nil => exact h
  | cons act rest ih =>
    obtain ⟨hact, hrest⟩ := List.forall_mem_cons.mp signs
    refine ih ?_ hrest
    obtain ⟨ring, keys⟩ | ⟨fresh, made, retired, rfl⟩ := hact.keeps
    · obtain ⟨writes, grows⟩ := act.grows settings s
      exact h.written ring keys writes grows
    · exact h.rotated fresh made retired

theorem Kept.withCursors {server : String} (h : Kept server s) (cursors : CursorTable) :
    Kept server (s.withCursors cursors) :=
  ⟨h.backed, h.sound, h.signed, h.together, h.latest⟩

end Ledger

/-! ### Pages -/

namespace Sender
variable {ω : Type} {settings : ServiceSettings} {receiver : Peer}

theorem Sends.unique {db : Database} {batch other : ReplicationBatch} {last final : Int64}
    (h : Sends settings receiver db batch last) (h' : Sends settings receiver db other final) :
    batch = other ∧ last = final := by
  obtain rfl : batch = other := Except.ok.inj (h.batch_eq.symm.trans h'.batch_eq)
  exact ⟨rfl, Option.some.inj (h.last_eq.symm.trans h'.last_eq)⟩

theorem Sends.record_mem [SignatureScheme] {db : Database} {batch : ReplicationBatch} {last : Int64}
    (h : Sends settings receiver db batch last) {r : LogRow} {key : KeyPair}
    (hr : r ∈ db.associations.rowsSince (db.cursors.get receiver.name) settings.batchLimit)
    (genuine : r.Genuine key settings.serverName) : r.record key settings.serverName ∈ batch.records := by
  obtain ⟨sent, hsent, hrecord⟩ := exists_right_of_mem h.records (List.mem_map_of_mem hr)
  rwa [Except.ok.inj (genuine.ofChange.symm.trans hrecord)]

/-- A push whose batch is acknowledged with its last place moves the cursor there. -/
theorem pushOnce_of_acknowledged {remote : Remote ω} {now : Int64} {s : Service ω} {world : ω} {batch : ReplicationBatch}
    {last : Int64} (sends : Sends settings receiver s.database batch last)
    (ready : Ready s.database)
    (answered : (remote.push s.ring.current receiver batch).run s.world = (.ok ⟨last⟩, world)) :
    (pushOnce settings remote receiver now).result s = (.ok (.pushed batch.records.length last),
      { s with world, database := s.database.advanced receiver.name last now }) := by
  have pushes := pushOnce_pushes settings remote receiver now s
  generalize (pushOnce settings remote receiver now).result s = result at pushes
  obtain ⟨answer, t⟩ := result
  cases pushes with
  | unsent e cause =>
    obtain (hcursor | hread) | ⟨fault, hbatch⟩ := cause
    · cases (ready.cursor_eq _).symm.trans hcursor
    · cases (ready.changesSince_eq ..).symm.trans hread
    · cases sends.batch_eq.symm.trans hbatch
  | caughtUp done =>
    have filled := sends.length_pos
    rw [sends.length_eq, done] at filled
    cases filled
  | unacknowledged other final e answer outside sends' sent refused =>
    obtain ⟨rfl, rfl⟩ := sends.unique sends'
    exact absurd (congrArg Prod.fst (sent.symm.trans answered)) refused
  | unrecorded _ _ e outside sends' sent failed => cases (ready.advance_eq ..).symm.trans failed
  | acknowledged other final outside sends' sent =>
    obtain ⟨rfl, rfl⟩ := sends.unique sends'
    cases sent.symm.trans answered
    rfl

end Sender

namespace Ledger.Kept
open Receiver
variable [SignatureScheme] {ω : Type} {settings : ServiceSettings} {s : Service ω} {receiver entry : Peer}
  {batch : ReplicationBatch} {last : Int64} {peers : List Peer} {table : ReplicatedTable}

/-- The next page is empty, or it can be sent. -/
theorem exists_sends (h : Kept settings.serverName s) (receiver : Peer) :
    Sender.page settings receiver s.database = [] ∨ ∃ batch last, Sender.Sends settings receiver s.database batch last := by
  refine or_iff_not_imp_left.mpr fun filled => ?_
  have readable : ∀ c ∈ Sender.page settings receiver s.database, ∃ sent, ReplicatedRecord.ofChange c = .ok sent := by
    intro c hc
    obtain ⟨r, hr, rfl⟩ := List.mem_map.mp hc
    obtain ⟨key, -, genuine⟩ := h.signed r (AssociationLog.mem_of_mem_rowsSince hr)
    exact ⟨_, genuine.ofChange⟩
  obtain ⟨batch, hbatch⟩ := Sender.exists_ofChanges settings.serverName readable
  obtain ⟨last, hlast⟩ := Option.ne_none_iff_exists'.mp (Sender.lastSequence?_ne_none filled hbatch)
  exact ⟨_, last, hbatch, hlast⟩

/-- What is sent are entries, each with the signature of a known key. -/
theorem records (h : Kept settings.serverName s) (sends : Sender.Sends settings receiver s.database batch last) :
    ∀ sent ∈ batch.records, ∃ (r : LogRow) (key : KeyPair),
      s.ring.all.get? key.id = some key ∧ r.Genuine key settings.serverName ∧ sent = r.record key settings.serverName := by
  intro sent hsent
  obtain ⟨c, hc, hrecord⟩ := exists_left_of_mem sends.records hsent
  obtain ⟨r, hr, rfl⟩ := List.mem_map.mp hc
  obtain ⟨key, known, genuine⟩ := h.signed r (AssociationLog.mem_of_mem_rowsSince hr)
  exact ⟨r, key, known, genuine, Except.ok.inj (hrecord.symm.trans genuine.ofChange)⟩

theorem records_together (h : Kept settings.serverName s) (sends : Sender.Sends settings receiver s.database batch last) :
    Together (batch.records.map (ReplicatedRecord.signers settings.serverName)) := by
  have signers : (s.database.associations.rowsSince (s.database.cursors.get receiver.name) settings.batchLimit).map
      (LogRow.signers settings.serverName) = batch.records.map (ReplicatedRecord.signers settings.serverName) := by
    have records := sends.records
    rw [Sender.page, AssociationLog.changesSince_eq_rows, List.forall₂_map_left_iff] at records
    rw [← List.forall₂_eq_eq_eq, List.forall₂_map_left_iff, List.forall₂_map_right_iff]
    exact records.imp fun r sent hsent => (LogRow.signers_eq hsent).symm
  rw [← signers]
  exact h.together.sublist (((List.take_sublist ..).trans List.filter_sublist).map _)

/-- A batch is accepted if all its signatures are valid under the key of the peer, and for no other reason. -/
theorem accepted_iff (h : Kept settings.serverName s) (sends : Sender.Sends settings receiver s.database batch last)
    (named : peerOf? peers settings.serverName = some entry) :
    (∃ ack next, applyBatch peers settings.serverName batch table = .ok (ack, next)) ↔
      ∀ sent ∈ batch.records, verify sent.signed settings.serverName (fun _ => some entry.verifyKey) = .ok () := by
  have origin : batch.origin = settings.serverName := (Sender.ofChanges_eq_ok.mp sends.batch_eq).1
  have trusted_iff : ∀ sent ∈ batch.records, sent.Trusted entry ↔
      verify sent.signed settings.serverName (fun _ => some entry.verifyKey) = .ok () := by
    intro sent hsent
    obtain ⟨r, key, -, genuine, rfl⟩ := h.records sends sent hsent
    exact genuine.trusted_iff (name_of_peerOf? named)
  rw [exists_applyBatch_iff]
  constructor
  · rintro ⟨peer, hpeer, -, trusted⟩ sent hsent
    obtain rfl : peer = entry := Option.some.inj (hpeer.symm.trans named)
    exact (trusted_iff sent hsent).mp (trusted sent hsent)
  · exact fun accepted => ⟨entry, named, origin, fun sent hsent => (trusted_iff sent hsent).mpr (accepted sent hsent)⟩

theorem acknowledged (h : Kept settings.serverName s) (sends : Sender.Sends settings receiver s.database batch last)
    {ack : ReplicationAck} {next : ReplicatedTable}
    (accepted : applyBatch peers settings.serverName batch table = .ok (ack, next)) : ack = ⟨last⟩ := by
  obtain ⟨_, -, hack, -⟩ := applyBatch_eq_ok.mp accepted
  rw [hack, greatestSequence_eq (sends.records_ascending h.sound) sends.last_eq]

/-- If the ends of a batch were signed with one key, so was all that is between them. -/
theorem exists_key (h : Kept settings.serverName s) (sends : Sender.Sends settings receiver s.database batch last)
    {first final : ReplicatedRecord} (hfirst : first ∈ batch.records.head?) (hfinal : final ∈ batch.records.getLast?)
    (same : first.signers settings.serverName = final.signers settings.serverName) :
    ∃ key, s.ring.all.get? key.id = some key ∧ ∀ sent ∈ batch.records, ∃ r : LogRow,
      r.Genuine key settings.serverName ∧ sent = r.record key settings.serverName := by
  obtain ⟨r, key, known, genuine, rfl⟩ := h.records sends first (List.mem_of_head? hfirst)
  refine ⟨key, known, fun sent hsent => ?_⟩
  have between := (h.records_together sends).eq_of_ends (by rw [List.head?_map, hfirst]; rfl)
    (by rw [List.getLast?_map, hfinal, Option.map_some, same]) _ (List.mem_map_of_mem hsent)
  obtain ⟨q, other, hother, genuineOther, rfl⟩ := h.records sends sent hsent
  rw [LogRow.signers_eq genuineOther.ofChange, LogRow.signers_eq genuine.ofChange, genuineOther.signers, genuine.signers,
    List.singleton_inj] at between
  obtain rfl : other = key := by
    rw [between, known] at hother
    exact (Option.some.inj hother).symm
  exact ⟨q, genuineOther, rfl⟩

end Ledger.Kept

namespace Ledger
open Receiver
variable [SignatureScheme] {ω : Type}

/-- A service was loaded with its keys, and has bound, unbound and rotated its key ever since. Of every page of its log
    that is not empty, from every place on and of every size: it can be sent, and each record is signed with one key that
    the service still knows. If its ends are signed with the same key, every receiver that knows the service by its name
    and by the public key of this key accepts it and acknowledges its last place. In any case a receiver accepts it exactly
    if all signatures are valid under the one key it is set up with, and its answer takes the cursor to the last place. -/
theorem backlog_accepted (lawful : SignatureScheme.Lawful) (settings : ServiceSettings) (service : Service ω)
    {older : List StoredKey} {latest : StoredKey} (mirrors : service.ring.Mirrors service.database.keys older latest)
    (acts : List (Act ω)) (signs : ∀ act ∈ acts, act.Signs) (cursors : CursorTable) (receiver : Peer) :
    let s := (serve settings (start service).service acts).withCursors cursors
    let server := settings.serverName
    Sender.page settings receiver s.database = [] ∨ ∃ batch last, Sender.Sends settings receiver s.database batch last ∧
      (∀ sent ∈ batch.records, ∃ key, s.ring.all.get? key.id = some key ∧ sent.signers server = [key.id]) ∧
      (∀ first ∈ batch.records.head?, ∀ final ∈ batch.records.getLast?, first.signers server = final.signers server →
        ∃ key, s.ring.all.get? key.id = some key ∧ ∀ peers entry table, peerOf? peers server = some entry →
          entry.verifyKey = key.publicKey → ∃ next, applyBatch peers server batch table = .ok (⟨last⟩, next)) ∧
      ∀ peers entry table, peerOf? peers server = some entry →
        ((∃ ack next, applyBatch peers server batch table = .ok (ack, next)) ↔
          ∀ sent ∈ batch.records, verify sent.signed server (fun _ => some entry.verifyKey) = .ok ()) ∧
        ∀ ack next, applyBatch peers server batch table = .ok (ack, next) → ∀ remote now world,
          Sender.Ready s.database →
          (remote.push s.ring.current receiver batch).run s.world = (.ok ack, world) →
            ∃ t, (Sender.pushOnce settings remote receiver now).result s = (.ok (.pushed batch.records.length last), t) ∧
              s.database.cursors.get receiver.name < last ∧ t.database.cursors.get receiver.name = last := by
  intro s server
  have kept : Kept settings.serverName s :=
    ((kept_start service settings.serverName mirrors.backed).serve signs).withCursors cursors
  refine (kept.exists_sends receiver).imp_right ?_
  rintro ⟨batch, last, sends⟩
  have accepted_iff : ∀ peers entry table, peerOf? peers server = some entry →
      ((∃ ack next, applyBatch peers server batch table = .ok (ack, next)) ↔
        ∀ sent ∈ batch.records, verify sent.signed server (fun _ => some entry.verifyKey) = .ok ()) :=
    fun peers entry table named => kept.accepted_iff sends named
  refine ⟨batch, last, sends, fun sent hsent => ?_, fun first hfirst final hfinal same => ?_,
    fun peers entry table named => ⟨accepted_iff peers entry table named, fun ack next accepted remote now world => ?_⟩⟩
  · obtain ⟨r, key, known, genuine, rfl⟩ := kept.records sends sent hsent
    exact ⟨key, known, (LogRow.signers_eq genuine.ofChange).trans genuine.signers⟩
  · obtain ⟨key, known, signed⟩ := kept.exists_key sends hfirst hfinal same
    refine ⟨key, known, fun peers entry table named trusted => ?_⟩
    obtain ⟨ack, next, accepted⟩ := (accepted_iff peers entry table named).mpr fun sent hsent => by
      obtain ⟨r, genuine, rfl⟩ := signed sent hsent
      exact verify_signedFields lawful (congrArg some trusted)
    exact ⟨next, kept.acknowledged sends accepted ▸ accepted⟩
  · intro ready answered
    obtain rfl := kept.acknowledged sends accepted
    exact ⟨_, Sender.pushOnce_of_acknowledged sends ready answered, sends.cursor_lt,
      CursorTable.get_advance_self now sends.cursor_lt⟩

/-- A service with a single key. -/
def keyed : Service Unit :=
  { fresh [] with
    database := { keys := ⟨[KeyRing.rowOf .zeros 0]⟩ }
    ring := ⟨.zeros, Dictionary.empty.insert KeyPair.zeros.id .zeros, .empty⟩ }

theorem keyed_mirrors : keyed.ring.Mirrors keyed.database.keys [] (KeyRing.rowOf .zeros 0) where
  succession := KeyTable.succession_single rfl
  held := List.forall_mem_singleton.mpr ⟨_, StoredKey.holds_rowOf ..⟩
  current := StoredKey.holds_rowOf ..
  all := KeyRing.reads_nil.all.insert (StoredKey.holds_rowOf ..) nofun

/-- The key that comes next. -/
def nextKey : KeyPair :=
  ⟨1, List.replicate 32 1, rfl⟩

def johnBound : Act Unit :=
  .event (.bind 0 .email "john@example.com" "@john:a.org" true)

def janeBound : Act Unit :=
  .event (.bind 5 .email "jane@example.com" "@jane:a.org" true)

/-- Two bindings with a rotation between them. -/
def acrossRotation : List (Act Unit) :=
  [johnBound, .rotate nextKey.seed 3 4, janeBound]

omit [SignatureScheme] in
theorem signs_acrossRotation : ∀ act ∈ acrossRotation, act.Signs := by
  simp [acrossRotation, johnBound, janeBound, Act.Signs]

omit [SignatureScheme] in
/-- Entry by entry, the one after the rotation is accepted under a key of the service, and the cursor moves past it. -/
theorem backlog_accepted_singly :
    let _ : SignatureScheme := .transparent
    let settings : ServiceSettings := ⟨"id.example.org", some 1000, true, none, 1⟩
    let receiver : Peer := ⟨"b.org", "https://b.org", ""⟩
    let remote : Remote Unit := { trusting with push := fun _ _ _ => pure (.ok ⟨2⟩) }
    let s := (serve settings (start keyed).service acrossRotation).withCursors ⟨.single "b.org" ⟨1, 4⟩⟩
    ∃ batch key next t, s.ring.all.get? key.id = some key ∧
      applyBatch [⟨"id.example.org", "", key.publicKey⟩] "id.example.org" batch {} = .ok (⟨2⟩, next) ∧
      (Sender.pushOnce settings remote receiver 6).result s = (.ok (.pushed 1 2), t) ∧
      t.database.cursors.get "b.org" = 2 := by
  intro scheme settings receiver remote s
  have lawful : SignatureScheme.Lawful := SignatureScheme.transparent_lawful
  have accepted := backlog_accepted lawful settings keyed keyed_mirrors acrossRotation signs_acrossRotation
    ⟨.single "b.org" ⟨1, 4⟩⟩ receiver
  have filled : Sender.page settings receiver s.database ≠ [] := by decide +kernel +zetaReduce
  have outages : s.database.outages = [] := by decide +kernel +zetaReduce
  have available : ∀ operation, s.database.available operation = .ok () := fun _ => by
    rw [Database.available, outages]
    rfl
  have ready : Sender.Ready s.database := ⟨available _, available _, available _⟩
  have ending : ∀ c ∈ (Sender.page settings receiver s.database).getLast?, c.sequence = 2 := by decide +kernel +zetaReduce
  obtain ⟨batch, last, sends, -, ends, accepts⟩ := accepted.resolve_left filled
  obtain rfl : last = 2 := by
    obtain ⟨c, hc, rfl⟩ := sends.last_entry
    exact ending c hc
  obtain ⟨sent, hsent⟩ := List.length_eq_one_iff.mp (Nat.le_antisymm sends.length_le sends.length_pos)
  obtain ⟨key, known, accepted⟩ := ends sent (by rw [hsent]; rfl) sent (by rw [hsent]; rfl) rfl
  obtain ⟨next, hnext⟩ := accepted [⟨"id.example.org", "", key.publicKey⟩] _ {} rfl rfl
  obtain ⟨-, moves⟩ := accepts [⟨"id.example.org", "", key.publicKey⟩] _ {} rfl
  obtain ⟨t, hpush, -, moved⟩ := moves _ _ hnext remote 6 () ready rfl
  rw [hsent] at hpush
  exact ⟨batch, key, next, t, known, hnext, hpush, moved⟩

omit [SignatureScheme] in
theorem verifySignature_transparent (key other : KeyPair) (message : Bytes) :
    let _ : SignatureScheme := .transparent
    verifySignature key.publicKey (other.sign message) message = decide (other.seed = key.seed) := by
  intro scheme
  rw [verifySignature, KeyPair.publicKey, KeyPair.sign, Base64.decode_encode, Base64.decode_encode]
  rfl

omit [SignatureScheme] in
/-- The entry before the rotation is signed with the first key, the one after it with the next key. -/
theorem acrossRotation_signed :
    let _ : SignatureScheme := .transparent
    ∀ r ∈ (serve (lasting 1000) (start keyed).service acrossRotation).database.associations.rows,
      (r.sequence = 1 ∧ r.Genuine .zeros "id.example.org") ∨ (r.sequence = 2 ∧ r.Genuine nextKey "id.example.org") := by
  intro scheme r hr
  have written : serve (lasting 1000) (start keyed).service acrossRotation =
      janeBound.after (lasting 1000) (rotated nextKey.seed 3 4 (johnBound.after (lasting 1000) (start keyed).service)) := rfl
  have first : ∀ r ∈ (johnBound.after (lasting 1000) (start keyed).service).database.associations.rows, r.sequence = 1 := by
    decide +kernel +zetaReduce
  have john := (johnBound.grows (lasting 1000) (start keyed).service).2.genuine nofun
  have next : (rotated nextKey.seed 3 4 (johnBound.after (lasting 1000) (start keyed).service)).ring.current = nextKey ∧
      (rotated nextKey.seed 3 4 (johnBound.after (lasting 1000) (start keyed).service)).database.associations.last = 1 := by
    decide +kernel +zetaReduce
  generalize johnBound.after (lasting 1000) (start keyed).service = before at *
  rw [written] at hr
  obtain ⟨q, hq, p, rfl⟩ | ⟨genuine, -, place⟩ := (janeBound.grows (lasting 1000) (rotated nextKey.seed 3 4 before)).2.mem hr
  · rw [rotated_keepsLog] at hq
    exact .inl ⟨LogRow.cleared_sequence.trans (first q hq), (john q hq).cleared p⟩
  · rw [next.1] at genuine
    rw [next.2] at place
    exact .inr ⟨place, genuine⟩

omit [SignatureScheme] in
/-- No public key is good for both entries at once, though the service knows the keys of both. -/
theorem backlog_refused_across :
    let _ : SignatureScheme := .transparent
    let receiver : Peer := ⟨"b.org", "https://b.org", ""⟩
    let s := serve (lasting 1000) (start keyed).service acrossRotation
    s.ring.all.entries.map (·.2) = [.zeros, nextKey] ∧
    ∃ batch last, Sender.Sends (lasting 1000) receiver s.database batch last ∧
      ∀ (key : KeyPair) peers entry table, peerOf? peers "id.example.org" = some entry → entry.verifyKey = key.publicKey →
        ∀ ack next, applyBatch peers "id.example.org" batch table ≠ .ok (ack, next) := by
  intro scheme receiver s
  have kept : Kept "id.example.org" s :=
    (kept_start keyed (lasting 1000).serverName keyed_mirrors.backed).serve signs_acrossRotation
  have page : (∃ r ∈ s.database.associations.rowsSince 0 500, r.sequence = 1) ∧
      ∃ r ∈ s.database.associations.rowsSince 0 500, r.sequence = 2 := by
    decide +kernel +zetaReduce
  have filled : Sender.page (lasting 1000) receiver s.database ≠ [] := by decide +kernel +zetaReduce
  obtain ⟨batch, last, sends⟩ := (kept.exists_sends receiver).resolve_left filled
  refine ⟨by decide +kernel +zetaReduce, batch, last, sends, fun key peers entry table named trusted ack next accepted => ?_⟩
  have valid := (kept.accepted_iff sends named).mp ⟨ack, next, accepted⟩
  rw [trusted] at valid
  have same_seed : ∀ r ∈ s.database.associations.rowsSince 0 500, ∀ signer : KeyPair,
      r.Genuine signer "id.example.org" → signer.seed = key.seed := by
    intro r hr signer genuine
    have accepted := LogRow.verify_record.mp (valid _ (sends.record_mem hr genuine))
    rw [verifySignature_transparent] at accepted
    exact of_decide_eq_true accepted
  obtain ⟨⟨john, hjohn, first⟩, jane, hjane, second⟩ := page
  rcases acrossRotation_signed john (AssociationLog.mem_of_mem_rowsSince hjohn) with ⟨-, zeros⟩ | ⟨other, -⟩
  · rcases acrossRotation_signed jane (AssociationLog.mem_of_mem_rowsSince hjane) with ⟨other, -⟩ | ⟨-, next⟩
    · exact absurd (second.symm.trans other) (by decide)
    · exact absurd ((same_seed john hjohn _ zeros).trans (same_seed jane hjane _ next).symm) (by decide)
  · exact absurd (first.symm.trans other) (by decide)

end Ledger

end IdentityServer
