import IdentityServer.Proofs.Binding.GenuineLog
import IdentityServer.Proofs.Binding.Semantics

/-! # Columns and signed texts

Every entry of the log says in its columns what its signed text states, and the text is accepted by whoever knows
the key that was current when the entry was written, however often the keys have been rotated since. -/

namespace IdentityServer
open SignedJson

namespace LogRow
variable [SignatureScheme] {key : KeyPair} {server : String} {r : LogRow}

/-- The signed text is the canonical text of an object that states what the columns say, as the statement of its kind
    and of no other, and that whoever knows the key accepts from the server. -/
def Attested (key : KeyPair) (server : String) (r : LogRow) : Prop :=
  ∃ value, Json.parse r.signedPayload = some value ∧ value.canonical = r.signedPayload ∧
    r.toNewAssociation.StatedBy r.tombstone value ∧ value.states (!r.tombstone) = false ∧
    ∀ keyFor, keyFor key.id = some key.publicKey → verify value server keyFor = .ok ()

theorem Genuine.statedBy (h : r.Genuine key server) :
    r.toNewAssociation.StatedBy r.tombstone (.obj (signedFields key server r.statement)) := by
  unfold NewAssociation.StatedBy statement signedFields
  cases ht : r.tombstone with
  | true => exact ⟨UnbindingAttestation.ofJson?_withSignature .., h.tombstone ht⟩
  | false => exact BindingAttestation.ofJson?_withSignature ..

theorem states_other (key : KeyPair) (server : String) (r : LogRow) :
    (Json.obj (signedFields key server r.statement)).states (!r.tombstone) = false := by
  unfold Json.states statement signedFields
  cases r.tombstone with
  | true => simp [BindingAttestation.ofJson?_unbinding]
  | false => simp [UnbindingAttestation.ofJson?_binding]

theorem Genuine.attested (h : r.Genuine key server) (lawful : SignatureScheme.Lawful) : r.Attested key server := by
  refine ⟨_, ?_, h.signed.symm, h.statedBy, r.states_other key server, fun keyFor known => verify_signedFields lawful known⟩
  rw [h.signed]
  exact parse_signed r.ordered_statement r.plain_statement key server

end LogRow

namespace Ledger
open AssociationLog
variable [SignatureScheme] {ω : Type} {settings : ServiceSettings} {s : Service ω}

/-- What happens to a service that may be given a new key between the requests. -/
inductive Act (ω : Type) where
  | event (event : Event ω)
  | rotate (fresh : Bytes) (made retired : Int64)

/-- The service after a rotation of its key. One that fails changes nothing. -/
def rotated (fresh : Bytes) (made retired : Int64) (s : Service ω) : Service ω :=
  match s.ring.rotate fresh made retired s.database.keys with
  | .ok (ring, keys) => { s with ring, database := { s.database with keys } }
  | .error _ => s

theorem rotated_keepsLog (fresh : Bytes) (made retired : Int64) (s : Service ω) :
    (rotated fresh made retired s).database.associations = s.database.associations := by
  unfold rotated
  split <;> rfl

namespace Act

/-- The service after an act. -/
def after (settings : ServiceSettings) (s : Service ω) : Act ω → Service ω
  | .event e => e.after settings s
  | .rotate fresh made retired => rotated fresh made retired s

/-- At most one entry more, signed with the key that is current. -/
theorem grows (settings : ServiceSettings) (s : Service ω) (act : Act ω) :
    Writes s.database.associations (act.after settings s).database.associations ∧
      Grows s.ring.current settings.serverName s.database.associations (act.after settings s).database.associations := by
  cases act with
  | rotate fresh made retired =>
    rw [after, rotated_keepsLog]
    exact ⟨.nothing, .nothing⟩
  | event e =>
    cases e with
    | bind now medium raw account validated =>
      have recorded : Binder.Recorded settings s
          ((Binder.bind settings now medium raw account validated).result s).2 := Binder.bind_recorded validated
      exact ⟨recorded.writes, recorded.grows⟩
    | unbind remote readings medium raw account claimed =>
      obtain ⟨world, -, recorded⟩ : ∃ world, _ ∧ Binder.Recorded settings { s with world }
          ((Binder.unbind settings remote readings medium raw account claimed).result s).2 :=
        Binder.unbind_recorded remote readings claimed
      exact ⟨recorded.writes, recorded.grows⟩
    | retry remote readings =>
      have same := Delivery.retry_keepsLog settings remote readings s
      simp only [after, Event.after, same]
      exact ⟨.nothing, .nothing⟩
    | drain remote readings =>
      have same := Delivery.drain_keepsLog settings remote readings s
      simp only [after, Event.after, same]
      exact ⟨.nothing, .nothing⟩
    | elsewhere t => exact ⟨.nothing, .nothing⟩

end Act

/-- The service after acts. -/
def serve (settings : ServiceSettings) (s : Service ω) (acts : List (Act ω)) : Service ω :=
  acts.foldl (Act.after settings) s

theorem serve_append (acts later : List (Act ω)) :
    serve settings s (acts ++ later) = serve settings (serve settings s acts) later :=
  List.foldl_append ..

theorem serve_sound (h : s.database.associations.Sound) (acts : List (Act ω)) :
    (serve settings s acts).database.associations.Sound := by
  induction acts generalizing s with
  | nil => exact h
  | cons act rest ih => exact ih (h.writes (act.grows settings s).1)

/-- Every entry was written by one of the acts, with the key that was current then. -/
theorem entries_written (settings : ServiceSettings) (service : Service ω) (acts : List (Act ω)) :
    ∀ r ∈ (serve settings (start service).service acts).database.associations.rows,
      ∃ earlier act later, acts = earlier ++ act :: later ∧
        let before := serve settings (start service).service earlier
        (∀ q ∈ before.database.associations.rows, q.sequence < r.sequence) ∧
        r.written ∈ (act.after settings before).database.associations.written ∧
        r.Genuine before.ring.current settings.serverName := by
  -- From the end: the last act wrote the entry, or it was in the log before it.
  induction acts using List.reverseRecOn with
  | nil =>
    intro r hr
    cases hr
  | append_singleton acts act ih =>
    intro r hr
    rw [serve_append] at hr
    obtain ⟨writes, grows⟩ := act.grows settings (serve settings (start service).service acts)
    obtain ⟨q, hq, p, rfl⟩ | ⟨genuine, room, hplace⟩ := grows.mem hr
    · obtain ⟨earlier, act', later, hacts, above, there, genuine⟩ := ih q hq
      refine ⟨earlier, act', later ++ [act], ?_, ?_, ?_, genuine.cleared p⟩
      · rw [hacts, List.append_assoc, List.cons_append]
      · rwa [LogRow.cleared_sequence]
      · rwa [LogRow.cleared_written]
    · refine ⟨acts, act, [], rfl, fun q hq => ?_, List.mem_map_of_mem hr, genuine⟩
      have hle := ((serve_sound sound_empty acts).bounded q hq).2
      rw [hplace]
      exact Int64.lt_of_le_of_lt hle (last_lt_succ room)

/-- Whatever acts a service with an empty log has seen, every entry of its log was written by one of them: it has a
    greater number than all entries before this act, it is in the log after it, the mark apart, and it is attested
    under the key that was current then. -/
theorem entries_attested (lawful : SignatureScheme.Lawful) (settings : ServiceSettings) (service : Service ω)
    (acts : List (Act ω)) :
    ∀ r ∈ (serve settings (start service).service acts).database.associations.rows,
      ∃ earlier act later, acts = earlier ++ act :: later ∧
        let before := serve settings (start service).service earlier
        (∀ q ∈ before.database.associations.rows, q.sequence < r.sequence) ∧
        r.written ∈ (act.after settings before).database.associations.written ∧
        r.Attested before.ring.current settings.serverName := by
  intro r hr
  obtain ⟨earlier, act, later, hacts, above, there, genuine⟩ := entries_written settings service acts r hr
  exact ⟨earlier, act, later, hacts, above, there, genuine.attested lawful⟩

omit [SignatureScheme] in
/-- A binding, one that supersedes it after the key was rotated, and its removal. -/
theorem entries_attested_rotated :
    let _ : SignatureScheme := .transparent
    let service := { fresh [] with database := { keys := ⟨[KeyRing.rowOf .zeros 0]⟩ } }
    let acts : List (Act Unit) := [.event (.bind 0 .email "john@example.com" "@john:a.org" true),
      .rotate (List.replicate 32 1) 3 4, .event (.bind 5 .email "John@example.com" "@jane:a.org" true),
      .event (.unbind trusting (.fixed 9) .email "john@example.com" "@jane:a.org" ⟨"a.org", "ed25519:0", "AAAA"⟩)]
    let s := serve (lasting 1000) (start service).service acts
    s.ring.current.version = 1 ∧ s.database.associations.rows.map (·.tombstone) = [false, false, true] ∧
    ∀ r ∈ (serve (lasting 1000) (start service).service acts).database.associations.rows,
      ∃ earlier act later, acts = earlier ++ act :: later ∧
        r.Attested (serve (lasting 1000) (start service).service earlier).ring.current "id.example.org" := by
  intro scheme service acts s
  have lawful : SignatureScheme.Lawful := SignatureScheme.transparent_lawful
  have attested := entries_attested lawful (lasting 1000) service acts
  refine ⟨by decide +kernel +zetaReduce, by decide +kernel +zetaReduce, fun r hr => ?_⟩
  obtain ⟨earlier, act, later, hacts, -, -, h⟩ := attested r hr
  exact ⟨earlier, act, later, hacts, h⟩

end Ledger

end IdentityServer
