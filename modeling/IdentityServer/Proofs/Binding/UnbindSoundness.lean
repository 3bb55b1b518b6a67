import IdentityServer.Proofs.Binding.Results
import IdentityServer.Proofs.Federation.KeyCache

/-! # Unbinding needs proof

Whatever documents a fetcher comes up with, and whenever it is asked: an unbinding that is answered is one
that the server of the account has signed, with a key of the document of that server that was accepted last
and is still valid. What carries this through a run is that the cache holds just those documents. -/

namespace IdentityServer
open Ownership
variable [SignatureScheme] {ω : Type}

/-- A remote whose proofs of ownership rest on a fetcher, with the requests that were made of it. -/
def Remote.verifying (others : Remote (KeyCache × List KeyRequest × ω)) (fetch : KeyFetch ω) :
    Remote (KeyCache × List KeyRequest × ω) :=
  { others with owns := fun account claimed payload now =>
      Ownership.verify (fetch.recorded now) account claimed payload now }

/-- What a service is asked that makes it ask for keys. -/
inductive Inquiry where
  | verify (account : String) (claimed : ClaimedSignature) (payload : String) (now : Int64)
  | unbind (medium : Medium) (raw account : String) (claimed : ClaimedSignature) (readings : UnbindReadings)

namespace Inquiry

/-- A service that knows no keys of other servers yet. -/
def start (service : Service ω) : Service (KeyCache × List KeyRequest × ω) :=
  { service with world := (.empty, [], service.world) }

/-- The service after an inquiry. -/
def step (settings : ServiceSettings) (remote : Remote (KeyCache × List KeyRequest × ω))
    (s : Service (KeyCache × List KeyRequest × ω)) : Inquiry → Service (KeyCache × List KeyRequest × ω)
  | .verify account claimed payload now =>
    ((Operation.ask (remote.owns account claimed payload now)).result s).2
  | .unbind medium raw account claimed readings =>
    ((Binder.unbind settings remote readings medium raw account claimed).result s).2

/-- The service after inquiries, one after the other. -/
def run (settings : ServiceSettings) (remote : Remote (KeyCache × List KeyRequest × ω))
    (s : Service (KeyCache × List KeyRequest × ω)) (inquiries : List Inquiry) :
    Service (KeyCache × List KeyRequest × ω) :=
  inquiries.foldl (step settings remote) s

/-- The cache of a service holds what was accepted last, by the requests that were made. -/
def Cached (s : Service (KeyCache × List KeyRequest × ω)) : Prop :=
  Caches s.world.1 s.world.2.1

omit [SignatureScheme] in
theorem cached_start (service : Service ω) : Cached (start service) :=
  caches_empty

variable {settings : ServiceSettings} {others : Remote (KeyCache × List KeyRequest × ω)} {fetch : KeyFetch ω}
  {s : Service (KeyCache × List KeyRequest × ω)}

/-- What an unbinding comes to: its identifiers are refused, or it is not proven, or the store decides. -/
inductive Unbinds (settings : ServiceSettings) (medium : Medium) (raw account : String)
    (claimed : ClaimedSignature) (readings : UnbindReadings) (s : Service (KeyCache × List KeyRequest × ω)) :
    Except ServiceError UnbindOutcome × Service (KeyCache × List KeyRequest × ω) → Prop
  | malformed (fault : IdentifierFault)
    (ill : ∀ address, Account.validate account = .ok () → Address.canonicalize medium raw ≠ .ok address) :
    Unbinds settings medium raw account claimed readings s (.error (.invalidIdentifier fault), s)
  | unproven (world : KeyCache × List KeyRequest × ω) (cached : Caches world.1 world.2.1)
    (unproven : ¬Proves world.2.1 account claimed
      (SignedRequest.unbind claimed.origin settings.serverName account medium raw).signedText readings.proved) :
    Unbinds settings medium raw account claimed readings s (.error (.notAuthorized account), { s with world })
  | answered (outcome : UnbindOutcome) (t : Service (KeyCache × List KeyRequest × ω))
    (cached : Caches t.world.1 t.world.2.1)
    (proves : Proves t.world.2.1 account claimed
      (SignedRequest.unbind claimed.origin settings.serverName account medium raw).signedText readings.proved) :
    Unbinds settings medium raw account claimed readings s (.ok outcome, t)
  | failed (address : String) (e : ServiceError) (world : KeyCache × List KeyRequest × ω)
    (cached : Caches world.1 world.2.1) (canonical : Address.canonicalize medium raw = .ok address)
    (proves : Proves world.2.1 account claimed
      (SignedRequest.unbind claimed.origin settings.serverName account medium raw).signedText readings.proved)
    (delete : s.database.delete ⟨medium, address⟩ account
      (Binder.tombstone s.ring.current settings.serverName medium address account readings.made) readings.removed =
        .error e) :
    Unbinds settings medium raw account claimed readings s (.error e, { s with world })

theorem Cached.unbinds (h : Cached s) (settings : ServiceSettings)
    (others : Remote (KeyCache × List KeyRequest × ω)) (fetch : KeyFetch ω) (medium : Medium)
    (raw account : String) (claimed : ClaimedSignature) (readings : UnbindReadings) :
    Unbinds settings medium raw account claimed readings s
      ((Binder.unbind settings (others.verifying fetch) readings medium raw account claimed).result s) := by
  obtain ⟨fault, ill, hresult⟩ | ⟨address, proven, world, -, haddress, hasked, hresult⟩ :=
    Binder.unbind_cases settings (others.verifying fetch) readings medium raw account claimed s
  · rw [hresult]
    exact .malformed fault ill
  · obtain ⟨proven', cache, requests, rest, hrun, cached, hproven⟩ := h.verify fetch account claimed
      (SignedRequest.unbind claimed.origin settings.serverName account medium raw).signedText readings.proved s.world.2.2
    obtain ⟨rfl, rfl⟩ := Prod.mk.inj (hasked.symm.trans hrun)
    rw [hresult]
    cases proven with
    | false => exact .unproven (cache, requests, rest) cached fun proves => by cases hproven.mpr proves
    | true =>
      rw [if_pos rfl, Binder.removal]
      split
      · exact .answered .removed _ cached (hproven.mp rfl)
      · exact .answered .notFound _ cached (hproven.mp rfl)
      · exact .failed address _ (cache, requests, rest) cached haddress (hproven.mp rfl) ‹_›

theorem Cached.step (h : Cached s) (inquiry : Inquiry) : Cached (step settings (others.verifying fetch) s inquiry) := by
  cases inquiry with
  | verify account claimed payload now =>
    obtain ⟨proven, cache, requests, world, hrun, hcaches, -⟩ := h.verify fetch account claimed payload now s.world.2.2
    show Caches (StateT.run (Ownership.verify (fetch.recorded now) account claimed payload now) s.world).2.1
      (StateT.run (Ownership.verify (fetch.recorded now) account claimed payload now) s.world).2.2.1
    rw [hrun]
    exact hcaches
  | unbind medium raw account claimed readings =>
    have unbinds := h.unbinds settings others fetch medium raw account claimed readings
    show Cached ((Binder.unbind settings (others.verifying fetch) readings medium raw account claimed).result s).2
    generalize (Binder.unbind settings (others.verifying fetch) readings medium raw account claimed).result s = result
      at unbinds
    cases unbinds with
    | malformed fault => exact h
    | unproven world cached => exact cached
    | answered outcome t cached => exact cached
    | failed address e world cached => exact cached

theorem Cached.run (h : Cached s) (inquiries : List Inquiry) :
    Cached (run settings (others.verifying fetch) s inquiries) := by
  induction inquiries generalizing s with
  | nil => exact h
  | cons inquiry rest ih => exact ih (h.step inquiry)

/-- In every run of verifications and unbindings, over any fetcher and at any clock readings: an unbinding
    that is answered is proven, when its signature is looked at, by the documents that were accepted up to its
    answer. One that fails leaves all tables as they were; if its identifiers are well formed, it is refused for
    want of proof, or it is proven and fails as the store of associations does. -/
theorem unbind_proven (settings : ServiceSettings) (others : Remote (KeyCache × List KeyRequest × ω))
    (fetch : KeyFetch ω) (service : Service ω) (inquiries : List Inquiry) (medium : Medium) (raw account : String)
    (claimed : ClaimedSignature) (readings : UnbindReadings) :
    let s := run settings (others.verifying fetch) (start service) inquiries
    let (answer, t) := (Binder.unbind settings (others.verifying fetch) readings medium raw account claimed).result s
    let payload := (SignedRequest.unbind claimed.origin settings.serverName account medium raw).signedText
    let proven := Proves t.world.2.1 account claimed payload readings.proved
    match answer with
    | .ok _ => proven
    | .error e =>
      t.database = s.database ∧
      ∀ address, Account.validate account = .ok () → Address.canonicalize medium raw = .ok address →
        (¬proven ∧ e = .notAuthorized account) ∨
        (proven ∧ s.database.delete ⟨medium, address⟩ account
          (Binder.tombstone s.ring.current settings.serverName medium address account readings.made) readings.removed =
            .error e) := by
  intro s
  have cached : Cached s := (cached_start service).run inquiries
  have unbinds := cached.unbinds settings others fetch medium raw account claimed readings
  generalize (Binder.unbind settings (others.verifying fetch) readings medium raw account claimed).result s = result
    at unbinds
  cases unbinds with
  | malformed fault ill => exact ⟨rfl, fun address account_ok address_ok => absurd address_ok (ill address account_ok)⟩
  | unproven world cached unproven => exact ⟨rfl, fun _ _ _ => .inl ⟨unproven, rfl⟩⟩
  | answered outcome t cached proves => exact proves
  | failed address e world cached canonical proves delete =>
    refine ⟨rfl, fun other _ other_ok => .inr ⟨proves, ?_⟩⟩
    cases canonical.symm.trans other_ok
    exact delete

/-- A service whose store cannot remove associations for a while, with a key of 32 zeros. -/
def unavailable : Service Unit where
  database := { outages := [(.delete, "database is locked")] }
  ring := ⟨.zeros, .empty, .empty⟩
  deliveries := []
  wake := {}
  world := ()

/-- The document of a server with a single key, valid until the time 1. -/
def documentOf (server key : String) : KeyDocument where
  server := server
  verifyKeys := .single "ed25519:0" key
  oldVerifyKeys := .empty
  validUntil := 1
  signatures := .empty

omit [SignatureScheme] in
/-- A proven unbinding of well-formed identifiers can fail otherwise than for want of proof. -/
theorem unbind_store_unavailable :
    let _ : SignatureScheme := .transparent
    let settings : ServiceSettings := ⟨"id.example.org", none, true, none, 500⟩
    let others : Remote (KeyCache × List KeyRequest × Unit) :=
      ⟨fun _ _ => pure (.ok ()), fun _ _ _ => pure (.ok ⟨0⟩), fun _ _ _ _ => pure false⟩
    let remote := others.verifying fun server => pure (.ok (documentOf server "AAAA"))
    let claimed : ClaimedSignature := ⟨"a.org", "ed25519:0", "AAAA"⟩
    Account.validate "@john:a.org" = .ok () ∧
    Address.canonicalize .email "john@example.com" = .ok "john@example.com" ∧
    ((Binder.unbind settings remote (.fixed 0) .email "john@example.com" "@john:a.org" claimed).result (start unavailable)).1 =
      .error (.transient "database is locked") :=
  ⟨rfl, rfl, rfl⟩

end Inquiry

end IdentityServer
