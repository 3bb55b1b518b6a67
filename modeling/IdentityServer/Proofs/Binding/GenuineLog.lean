import IdentityServer.Proofs.Binding.Results
import IdentityServer.Proofs.Identifier.Address
import IdentityServer.Proofs.Store.AssociationLog

/-! # Genuine entries

Every entry that binding and unbinding put into the log is about a canonical address and a well-formed
account, and carries the statement of its kind, signed by the current key. -/

namespace IdentityServer
open SignedJson

/-- The fields of the statement that an entry carries. -/
def LogRow.statement (r : LogRow) : Fields Json :=
  if r.tombstone then (UnbindingAttestation.mk r.medium r.address r.account r.createdAt).fields
  else r.attestation.fields

namespace LogRow

theorem ordered_statement (r : LogRow) : r.statement.Ordered := by
  unfold statement
  split
  · exact Fields.ordered_ofList _
  · exact Fields.ordered_ofList _

theorem plain_statement (r : LogRow) : ∀ field ∈ r.statement, field.2.IsPlain := by
  unfold statement
  split
  · exact UnbindingAttestation.plain _
  · exact BindingAttestation.plain _

end LogRow

variable [SignatureScheme] {ω : Type}

/-- An entry that a server made of a well-formed identifier, signed by a key. -/
structure LogRow.Genuine (key : KeyPair) (server : String) (r : LogRow) : Prop where
  address : Address.canonicalize r.medium r.address = .ok r.address
  account : Account.validate r.account = .ok ()
  signed : r.signedPayload = signedPayload key server r.statement
  tombstone : r.tombstone = true → r.notBefore = r.createdAt ∧ r.notAfter = none

theorem LogRow.Genuine.cleared {key : KeyPair} {server : String} {r : LogRow} (h : r.Genuine key server)
    (p : LogRow → Bool) : (r.cleared p).Genuine key server := by
  unfold LogRow.cleared
  split
  · exact ⟨h.address, h.account, h.signed, h.tombstone⟩
  · exact h

namespace AssociationLog
variable {log : AssociationLog} {key : KeyPair} {server : String}

/-- A log of genuine entries. -/
def Genuine (key : KeyPair) (server : String) (log : AssociationLog) : Prop :=
  ∀ r ∈ log.rows, r.Genuine key server

/-- A log after a request: at most one entry more, a genuine one. -/
inductive Grows (key : KeyPair) (server : String) (log : AssociationLog) : AssociationLog → Prop
  | nothing : Grows key server log log
  | entry (p : LogRow → Bool) (new : NewAssociation) (tombstone : Bool) (room : log.last ≠ Int64.maxValue)
    (genuine : LogRow.Genuine key server { new with sequence := log.last + 1, tombstone, active := !tombstone }) :
    Grows key server log (log.put p new tombstone)

/-- An entry of the log after a request was there before, the mark apart, or it is the genuine one. -/
theorem Grows.mem {next : AssociationLog} (h : Grows key server log next) {r : LogRow} (hr : r ∈ next.rows) :
    (∃ q ∈ log.rows, ∃ p, r = q.cleared p) ∨
      (r.Genuine key server ∧ log.last ≠ Int64.maxValue ∧ r.sequence = log.last + 1) := by
  cases h with
  | nothing => exact .inl ⟨r, hr, fun _ => false, by simp [LogRow.cleared]⟩
  | entry p new tombstone room genuine =>
    rcases List.mem_append.mp hr with hr | hr
    · obtain ⟨q, hq, rfl⟩ := List.mem_map.mp hr
      exact .inl ⟨q, hq, p, rfl⟩
    · rw [List.mem_singleton.mp hr]
      exact .inr ⟨genuine, room, rfl⟩

theorem Grows.genuine {next : AssociationLog} (h : Grows key server log next) (old : log.Genuine key server) :
    next.Genuine key server := by
  intro r hr
  obtain ⟨q, hq, p, rfl⟩ | ⟨genuine, -⟩ := h.mem hr
  · exact (old q hq).cleared p
  · exact genuine

end AssociationLog

namespace Binder
open AssociationLog
variable {settings : ServiceSettings} {now : Int64} {medium : Medium} {raw account : String} {s t : Service ω}

/-- What a request to bind or unbind does to a service: it writes to the log at most, and what it writes is
    genuine. -/
structure Recorded (settings : ServiceSettings) (s t : Service ω) : Prop where
  ring : t.ring = s.ring
  world : t.world = s.world
  cursors : t.database.cursors = s.database.cursors
  writes : Writes s.database.associations t.database.associations
  grows : Grows s.ring.current settings.serverName s.database.associations t.database.associations

theorem Recorded.genuine (h : Recorded settings s t)
    (old : s.database.associations.Genuine s.ring.current settings.serverName) :
    t.database.associations.Genuine s.ring.current settings.serverName :=
  h.grows.genuine old

theorem recorded_nothing : Recorded settings s s where
  ring := rfl
  world := rfl
  cursors := rfl
  writes := .nothing
  grows := .nothing

theorem bind_recorded (validated : Bool) :
    Recorded settings s ((bind settings now medium raw account validated).result s).2 := by
  obtain ⟨e, hresult⟩ | ⟨address, sequence, database, haccount, haddress, hupsert, hresult⟩ :=
    bind_cases settings now medium raw account validated s
  · rw [hresult]
    exact recorded_nothing
  · rw [hresult]
    obtain ⟨room, -, rfl⟩ := Database.upsert_ok hupsert
    refine ⟨rfl, rfl, rfl, Database.writes_of_upsert hupsert, ?_⟩
    exact .entry _ _ false room ⟨Address.canonicalize_canonical haddress, haccount, rfl, nofun⟩

theorem removal_recorded {readings : UnbindReadings} {address : String} (haccount : Account.validate account = .ok ())
    (haddress : Address.canonicalize medium raw = .ok address) :
    Recorded settings s (removal settings medium address account readings s).2 := by
  rw [removal]
  split
  · rename_i database hdelete
    have writes := Database.writes_of_delete hdelete
    obtain ⟨hfound, -⟩ | ⟨-, room, -, rfl⟩ := Database.delete_ok hdelete
    · cases hfound
    · refine ⟨rfl, rfl, rfl, writes, ?_⟩
      exact .entry _ _ true room ⟨Address.canonicalize_canonical haddress, haccount, rfl, fun _ => ⟨rfl, rfl⟩⟩
  · rename_i database hdelete
    obtain ⟨-, rfl⟩ | ⟨hfound, -⟩ := Database.delete_ok hdelete
    · exact recorded_nothing
    · cases hfound
  · exact recorded_nothing

/-- An unbinding may ask for proof of ownership before it writes. -/
theorem unbind_recorded (remote : Remote ω) (readings : UnbindReadings) (claimed : ClaimedSignature) :
    ∃ world,
      (world = s.world ∨
        ∃ payload proven, (remote.owns account claimed payload readings.proved).run s.world = (proven, world)) ∧
      Recorded settings { s with world } ((unbind settings remote readings medium raw account claimed).result s).2 := by
  obtain ⟨fault, -, hresult⟩ | ⟨address, proven, world, haccount, haddress, hasked, hresult⟩ :=
    unbind_cases settings remote readings medium raw account claimed s
  · rw [hresult]
    exact ⟨s.world, .inl rfl, recorded_nothing⟩
  · refine ⟨world, .inr ⟨_, _, hasked⟩, ?_⟩
    rw [hresult]
    cases proven with
    | false => exact recorded_nothing
    | true => exact removal_recorded haccount haddress

end Binder

end IdentityServer
