import IdentityServer.Proofs.Binding.Semantics
import IdentityServer.Proofs.Federation.Header
import IdentityServer.Proofs.Federation.KeyCache
import IdentityServer.Proofs.Signing.SignedFields

/-! # Unbinding is open to the server of an account

What the server of an account signs to have a binding removed is the text that is checked, its header brings the claim
over unchanged, and the key it signs with is the one that its key document lists. So the request is never refused for
want of proof. -/

namespace IdentityServer
open Ownership

/-! ### The request -/

namespace SignedRequest

/-- The request to unbind as the server of the account puts it together: with the content as it sends it. -/
def unbindBy (server destination account : String) (medium : Medium) (address : String) : SignedRequest where
  origin := server
  destination := destination
  method := "POST"
  uri := unbindPath
  content := some (.ofFields [("mxid", .str account),
    ("threepid", .ofFields [("medium", .str medium.name), ("address", .str address)])])

/-- Both sides put together the same request, whatever the account and the address. -/
theorem unbindBy_eq (server destination account : String) (medium : Medium) (address : String) :
    unbindBy server destination account medium address = unbind server destination account medium address := by
  have threepid : Json.ofFields [("medium", .str medium.name), ("address", .str address)] =
      .obj [("address", .str address), ("medium", .str medium.name)] := by
    simp [Json.ofFields, Fields.ofList, Fields.insert, show "address" < "medium" by decide]
  have content (v : Json) : Json.ofFields [("mxid", .str account), ("threepid", v)] =
      .obj [("mxid", .str account), ("threepid", v)] := by
    simp [Json.ofFields, Fields.ofList, Fields.insert, show ¬"threepid" < "mxid" by decide]
  rw [unbindBy, threepid, content]
  rfl

end SignedRequest

/-! ### The key -/

variable {ω : Type} {cache : KeyCache} {hs : String} {now : Int64} {world : ω}

/-- What is known about the current key of a server, if anything is, is right. -/
def Ownership.KnowsCurrent (cache : KeyCache) (hs : String) (now : Int64) (id key : String) : Prop :=
  ∀ entry, cache.get? hs = some entry → now < entry.validUntil → entry.verifyKeys.get? id = some key

theorem Ownership.knowsCurrent_empty {id key : String} : KnowsCurrent .empty hs now id key := nofun

namespace Ownership.KnowsCurrent
variable {id key : String}

theorem lookup (h : KnowsCurrent cache hs now id key) :
    (match Ownership.lookup cache hs id now with
      | .known known => known = key
      | .unlisted => False
      | .stale => True) := by
  unfold Ownership.lookup
  cases hentry : cache.get? hs with
  | none => trivial
  | some entry =>
    dsimp only
    by_cases hvalid : entry.validUntil ≤ now
    · rw [if_pos hvalid]
      trivial
    · rw [if_neg hvalid, h entry hentry (Int64.not_le.mp hvalid)]

variable [SignatureScheme] {ring : KeyRing} {fetch : KeyFetch ω}

/-- The current key of a server is found, in the cache or in the document that the server answers with. -/
theorem publicKey (h : KnowsCurrent cache hs now ring.current.id ring.current.publicKey)
    (lasts : now < now + KeyRing.documentLifetime) (answers : ((fetch hs).run world).1 = .ok (ring.document hs now)) :
    ((Ownership.publicKey fetch hs ring.current.id now).run (cache, world)).1 = some ring.current.publicKey := by
  have known := h.lookup
  rw [run_publicKey]
  cases hlookup : Ownership.lookup cache hs ring.current.id now with
  | known key =>
    rw [hlookup] at known
    exact congrArg some known
  | unlisted =>
    rw [hlookup] at known
    exact known.elim
  | stale =>
    dsimp only
    rcases hfetch : (fetch hs).run world with ⟨answer, next⟩
    rw [hfetch] at answers
    cases answers
    have usable : isUsable hs now (ring.document hs now) = true := isUsable_iff.mpr ⟨rfl, lasts⟩
    dsimp only
    rw [if_pos usable]
    exact (Dictionary.get?_single ..).trans (if_pos rfl)

end Ownership.KnowsCurrent

/-! ### The answer -/

/-- A remote whose proofs of ownership rest on a fetcher. -/
def Remote.resolving [SignatureScheme] (others : Remote (KeyCache × ω)) (fetch : KeyFetch ω) : Remote (KeyCache × ω) :=
  { others with owns := Ownership.verify fetch }

/-- The store has failures of its own, and none of them is a want of proof. -/
theorem Database.delete_ne_notAuthorized {db : Database} {identifier : Identifier} {owner : String}
    {tombstone : NewTombstone} (account : String) :
    db.delete identifier owner tombstone now ≠ .error (.notAuthorized account) := by
  unfold Database.delete Database.available Transaction.execute
  intro h
  split at h
  · cases h
  · rw [bind_ok] at h
    split at h
    · cases h
    · cases h

namespace Binder
variable [SignatureScheme] {fetch : KeyFetch ω} {s : Service (KeyCache × ω)} {ring : KeyRing} {account raw address : String}
  {medium : Medium} {readings : UnbindReadings}

/-- The server of an account, with its current key, asks for the removal of a binding. -/
structure Asks (fetch : KeyFetch ω) (s : Service (KeyCache × ω)) (ring : KeyRing) (hs account : String) (now : Int64) :
    Prop where
  /-- It is the server of the account. -/
  owns : Account.server account = .ok hs
  /-- What is known about its current key is right. -/
  known : KnowsCurrent s.world.1 hs now ring.current.id ring.current.publicKey
  /-- It answers with its key document, which has not expired when it is made. -/
  answers : ((fetch hs).run s.world.2).1 = .ok (ring.document hs now)
  lasts : now < now + KeyRing.documentLifetime

namespace Asks

theorem server? (h : Asks fetch s ring hs account now) : Account.server? account = some hs := by
  have owns := h.owns
  unfold Account.server at owns
  split at owns
  · cases owns
    assumption
  · cases owns

theorem authorized (h : Asks fetch s ring hs account now) (lawful : SignatureScheme.Lawful)
    (settings : ServiceSettings) (others : Remote (KeyCache × ω))
    (canonical : Address.canonicalize medium raw = .ok address) :
    Authorized settings (others.resolving fetch) now medium raw account
      ((SignedRequest.unbindBy hs settings.serverName account medium raw).sign ring.current) s address where
  valid := by rw [Account.validate, h.owns]; rfl
  canonical := canonical
  proven := by
    have found := h.known.publicKey h.lasts h.answers
    show ((Ownership.verify fetch account _ _ now).run (s.world.1, s.world.2)).1 = true
    rw [verify_of_publicKey h.server? found, SignedRequest.unbindBy_eq]
    exact SignedJson.verifySignature_sign lawful ring.current _

end Asks

/-- Whoever the server of an account is, and whatever account, address and medium it names: its claim comes through a
    header unchanged, and the request is answered, or it fails as the store of associations does, but never for want
    of proof. -/
theorem unbind_of_asked (lawful : SignatureScheme.Lawful) (settings : ServiceSettings) (others : Remote (KeyCache × ω))
    (asks : Asks fetch s ring hs account readings.proved) (canonical : Address.canonicalize medium raw = .ok address) :
    let claimed := (SignedRequest.unbindBy hs settings.serverName account medium raw).sign ring.current
    let answer := ((unbind settings (others.resolving fetch) readings medium raw account claimed).result s).1
    ClaimedSignature.ofHeader claimed.toHeader = .ok claimed ∧
    (∀ refused, answer ≠ .error (.notAuthorized refused)) ∧
    (answer = .ok .removed ∨ answer = .ok .notFound ∨ ∃ e, answer = .error e ∧
      s.database.delete ⟨medium, address⟩ account
        (tombstone s.ring.current settings.serverName medium address account readings.made) readings.removed = .error e) ∧
    (s.database.available .delete = .ok () → s.database.associations.last ≠ Int64.maxValue →
      answer = .ok .removed ∨ answer = .ok .notFound) := by
  intro claimed answer
  obtain ⟨world, hresult⟩ := (asks.authorized lawful settings others canonical).result
  have hanswer : answer = (removal settings medium address account readings { s with world }).1 :=
    congrArg Prod.fst hresult
  refine ⟨ClaimedSignature.ofHeader_sign ring.current _ asks.server?, ?_, ?_, ?_⟩
  · intro refused h
    rw [hanswer, removal] at h
    split at h
    · cases h
    · cases h
    · rename_i e hdelete
      cases h
      exact Database.delete_ne_notAuthorized refused hdelete
  · rw [hanswer, removal]
    split
    · exact .inl rfl
    · exact .inr (.inl rfl)
    · rename_i e hdelete
      exact .inr (.inr ⟨e, rfl, hdelete⟩)
  · intro writable room
    rw [hanswer]
    by_cases found : s.database.Removable ⟨medium, address⟩ account readings.removed
    · exact .inl (removal_removed_iff.mpr ⟨found, writable, room⟩)
    · exact .inr (removal_notFound_iff.mpr ⟨found, writable⟩)

/-- A service that knows no keys of other servers yet, over a store that may refuse what it is asked. -/
def newcomer (outages : List (StoreOperation × String)) : Service (KeyCache × Unit) where
  database := { outages }
  ring := ⟨.zeros, .empty, .empty⟩
  deliveries := []
  wake := {}
  world := (.empty, ())

def aloof : Remote (KeyCache × Unit) where
  deliver _ _ := pure (.ok ())
  push _ _ _ := pure (.ok ⟨0⟩)
  owns _ _ _ _ := pure false

omit [SignatureScheme] in
/-- A server whose keys are not known yet, and an address that is not in its canonical spelling. -/
theorem unbind_of_asked_newcomer :
    let _ : SignatureScheme := .transparent
    let settings : ServiceSettings := ⟨"id.example.org", none, true, none, 500⟩
    let ring : KeyRing := ⟨.zeros, .empty, .empty⟩
    let fetch : KeyFetch Unit := fun server => pure (.ok (ring.document server 1))
    let s := newcomer []
    let claimed := (SignedRequest.unbindBy "a.org" "id.example.org" "@john:a.org" .email "John@Example.com").sign ring.current
    let answer :=
      ((unbind settings (aloof.resolving fetch) (.fixed 1) .email "John@Example.com" "@john:a.org" claimed).result s).1
    ClaimedSignature.ofHeader claimed.toHeader = .ok claimed ∧ (answer = .ok .removed ∨ answer = .ok .notFound) := by
  intro scheme settings ring fetch s claimed answer
  have asks : Asks fetch s ring "a.org" "@john:a.org" (UnbindReadings.fixed 1).proved :=
    ⟨rfl, knowsCurrent_empty, rfl, by decide⟩
  have canonical : Address.canonicalize .email "John@Example.com" = .ok "john@example.com" := rfl
  obtain ⟨arrives, -, -, answered⟩ :=
    unbind_of_asked SignatureScheme.transparent_lawful settings aloof asks canonical
  exact ⟨arrives, answered rfl (by decide +kernel)⟩

omit [SignatureScheme] in
/-- The store can refuse the removal that the server of the account asks for. -/
theorem unbind_of_asked_unavailable :
    let _ : SignatureScheme := .transparent
    let settings : ServiceSettings := ⟨"id.example.org", none, true, none, 500⟩
    let ring : KeyRing := ⟨.zeros, .empty, .empty⟩
    let fetch : KeyFetch Unit := fun server => pure (.ok (ring.document server 1))
    let s := newcomer [(.delete, "database is locked")]
    let claimed := (SignedRequest.unbindBy "a.org" "id.example.org" "@john:a.org" .email "john@example.com").sign ring.current
    Asks fetch s ring "a.org" "@john:a.org" 1 ∧ Address.canonicalize .email "john@example.com" = .ok "john@example.com" ∧
      ((unbind settings (aloof.resolving fetch) (.fixed 1) .email "john@example.com" "@john:a.org" claimed).result s).1 =
        .error (.transient "database is locked") := by
  intro _ settings ring fetch s claimed
  have asks : Asks fetch s ring "a.org" "@john:a.org" (UnbindReadings.fixed 1).proved :=
    ⟨rfl, knowsCurrent_empty, rfl, by decide⟩
  have canonical : Address.canonicalize .email "john@example.com" = .ok "john@example.com" := rfl
  obtain ⟨world, hresult⟩ :=
    (asks.authorized SignatureScheme.transparent_lawful settings aloof canonical).result
  exact ⟨asks, canonical, congrArg Prod.fst hresult⟩

end Binder

end IdentityServer
