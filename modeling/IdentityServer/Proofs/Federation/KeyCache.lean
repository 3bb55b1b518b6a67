import IdentityServer.Proofs.Outcome
import IdentityServer.Service.Remote

/-! # The cache of keys

What the cache of keys holds, read off from the requests that were made for key documents: for every server
the document that was accepted last. A key is given out only if that document is still valid and lists it,
whatever came of the requests in between. -/

namespace IdentityServer
variable {ω ω' : Type}

/-- A request for the key document of a server, when it was made and what came of it. -/
structure KeyRequest where
  server : String
  madeAt : Int64
  answer : Except FederationError KeyDocument

/-- The fetch at a time, which also remembers the request and what came of it. -/
def KeyFetch.recorded (fetch : KeyFetch ω) (now : Int64) : KeyFetch (List KeyRequest × ω) := fun server => do
  let answer ← onSecond (fetch server)
  modify fun world => (world.1 ++ [⟨server, now, answer⟩], world.2)
  return answer

/-- A fetch does in a part of its world what another one does. -/
def KeyFetch.Extends (fetch' : KeyFetch ω') (part : ω' → ω) (fetch : KeyFetch ω) : Prop :=
  ∀ server world, (fetch server).run (part world) =
    (((fetch' server).run world).1, part ((fetch' server).run world).2)

/-- A document that was accepted, and when. -/
structure AcceptedDocument where
  document : KeyDocument
  acceptedAt : Int64

/-- The keys of an accepted document. -/
def AcceptedDocument.keys (a : AcceptedDocument) : KnownKeys where
  verifyKeys := a.document.verifyKeys
  validUntil := a.document.validUntil
  fetchedAt := a.acceptedAt

/-- The document that a request got accepted for a server: one that was asked for and came from it, that
    names it, and that had not expired. -/
def KeyRequest.accepted? (server : String) (r : KeyRequest) : Option AcceptedDocument :=
  match r.answer with
  | .ok document =>
    if r.server = server ∧ document.server = server ∧ r.madeAt < document.validUntil then
      some ⟨document, r.madeAt⟩
    else none
  | .error _ => none

theorem KeyRequest.accepted?_eq_some {server : String} {r : KeyRequest} {a : AcceptedDocument} :
    r.accepted? server = some a ↔
      r.answer = .ok a.document ∧ r.server = server ∧ a.document.server = server ∧
        r.madeAt < a.document.validUntil ∧ a.acceptedAt = r.madeAt := by
  obtain ⟨document, acceptedAt⟩ := a
  unfold accepted?
  cases r.answer with
  | error e => simp
  | ok fetched =>
    simp only [Option.ite_none_right_eq_some, Option.some.injEq, AcceptedDocument.mk.injEq, Except.ok.injEq]
    constructor
    · rintro ⟨⟨hserver, hnamed, hvalid⟩, rfl, rfl⟩
      exact ⟨rfl, hserver, hnamed, hvalid, rfl⟩
    · rintro ⟨rfl, hserver, hnamed, hvalid, rfl⟩
      exact ⟨⟨hserver, hnamed, hvalid⟩, rfl, rfl⟩

/-- The document that was accepted last for a server. -/
def lastAccepted? (server : String) (requests : List KeyRequest) : Option AcceptedDocument :=
  requests.reverse.findSome? (KeyRequest.accepted? server)

theorem lastAccepted?_append {server : String} {requests : List KeyRequest} {r : KeyRequest} :
    lastAccepted? server (requests ++ [r]) =
      (r.accepted? server).or (lastAccepted? server requests) := by
  rw [lastAccepted?, List.reverse_concat, List.findSome?_cons, ← lastAccepted?]
  cases r.accepted? server <;> rfl

theorem lastAccepted?_eq_some {server : String} {requests : List KeyRequest} {a : AcceptedDocument} :
    lastAccepted? server requests = some a ↔
      ∃ earlier r later, requests = earlier ++ r :: later ∧ r.accepted? server = some a ∧
        ∀ l ∈ later, l.accepted? server = none := by
  rw [lastAccepted?, List.findSome?_eq_some_iff]
  constructor
  · rintro ⟨later, r, earlier, hrequests, haccepted, hlater⟩
    refine ⟨earlier.reverse, r, later.reverse, ?_, haccepted, fun l hl => hlater l (List.mem_reverse.mp hl)⟩
    rw [← List.reverse_reverse requests, hrequests, List.reverse_append, List.reverse_cons, List.append_assoc]
    rfl
  · rintro ⟨earlier, r, later, rfl, haccepted, hlater⟩
    refine ⟨later.reverse, r, earlier.reverse, ?_, haccepted, fun l hl => hlater l (List.mem_reverse.mp hl)⟩
    rw [List.reverse_append, List.reverse_cons, List.append_assoc]
    rfl

/-- The key that the document accepted last lists under a key id, while that document is valid. -/
def listedKey? (server keyId : String) (now : Int64) (requests : List KeyRequest) : Option String :=
  (lastAccepted? server requests).bind fun a =>
    if now < a.document.validUntil then a.document.verifyKeys.get? keyId else none

namespace Ownership

/-- The cache holds the document that was accepted last, for every server. -/
def Caches (cache : KeyCache) (requests : List KeyRequest) : Prop :=
  ∀ server, cache.get? server = (lastAccepted? server requests).map AcceptedDocument.keys

theorem caches_empty : Caches .empty [] := fun _ => rfl

variable {cache : KeyCache} {requests : List KeyRequest} {server keyId : String} {now : Int64}

theorem isUsable_iff {document : KeyDocument} :
    isUsable server now document = true ↔ document.server = server ∧ now < document.validUntil := by
  simp [isUsable]

theorem accepted?_ok {document : KeyDocument} (other : String) :
    KeyRequest.accepted? other ⟨server, now, .ok document⟩ =
      if server = other ∧ document.server = other ∧ now < document.validUntil then some ⟨document, now⟩ else none :=
  rfl

theorem accepted?_unusable {document : KeyDocument} (h : isUsable server now document = false) (other : String) :
    KeyRequest.accepted? other ⟨server, now, .ok document⟩ = none := by
  rw [accepted?_ok, if_neg]
  rintro ⟨rfl, hdocument⟩
  rw [isUsable_iff.mpr hdocument] at h
  cases h

theorem accepted?_usable {document : KeyDocument} (h : isUsable server now document = true) :
    KeyRequest.accepted? server ⟨server, now, .ok document⟩ = some ⟨document, now⟩ := by
  rw [accepted?_ok, if_pos ⟨rfl, isUsable_iff.mp h⟩]

/-- A request that gets nothing accepted leaves the cache as it is. -/
theorem Caches.refused (h : Caches cache requests) {r : KeyRequest} (hr : ∀ server, r.accepted? server = none) :
    Caches cache (requests ++ [r]) := by
  intro server
  rw [lastAccepted?_append, hr server]
  exact h server

theorem Caches.accepted (h : Caches cache requests) {document : KeyDocument}
    (usable : isUsable server now document = true) :
    Caches (cache.insert server ⟨document.verifyKeys, document.validUntil, now⟩)
      (requests ++ [⟨server, now, .ok document⟩]) := by
  intro other
  rw [lastAccepted?_append, Dictionary.get?_insert]
  by_cases hother : server = other
  · subst hother
    rw [if_pos rfl, accepted?_usable usable]
    rfl
  · rw [if_neg hother, accepted?_ok, if_neg fun hall => hother hall.1]
    exact h other

theorem listedKey?_refused {r : KeyRequest} (hr : ∀ server, r.accepted? server = none) :
    listedKey? server keyId now (requests ++ [r]) = listedKey? server keyId now requests := by
  rw [listedKey?, lastAccepted?_append, hr server]
  rfl

theorem listedKey?_accepted {document : KeyDocument} (usable : isUsable server now document = true) :
    listedKey? server keyId now (requests ++ [⟨server, now, .ok document⟩]) = document.verifyKeys.get? keyId := by
  rw [listedKey?, lastAccepted?_append, accepted?_usable usable]
  exact if_pos (isUsable_iff.mp usable).2

/-- What the cache knows about a key, read off from the requests. -/
theorem lookup_eq (h : Caches cache requests) (server keyId : String) (now : Int64) :
    match lookup cache server keyId now with
    | .known key => listedKey? server keyId now requests = some key
    | .unlisted | .stale => listedKey? server keyId now requests = none := by
  have hcache := h server
  unfold lookup listedKey?
  cases hlast : lastAccepted? server requests with
  | none =>
    rw [hcache, hlast]
    rfl
  | some a =>
    rw [hcache, hlast]
    simp only [Option.map_some, Option.bind_some, AcceptedDocument.keys]
    by_cases hvalid : a.document.validUntil ≤ now
    · rw [if_pos hvalid, if_neg (Int64.not_lt.mpr hvalid)]
    · rw [if_neg hvalid, if_pos (Int64.not_le.mp hvalid)]
      cases hkey : a.document.verifyKeys.get? keyId with
      | some key => rfl
      | none =>
        by_cases hrecent : now - a.acceptedAt < refetchInterval
        · rw [if_pos hrecent]
        · rw [if_neg hrecent]

/-! ### Asking for keys -/

theorem run_recorded {fetch : KeyFetch ω} {world : ω} :
    (fetch.recorded now server).run (requests, world) =
      (((fetch server).run world).1, requests ++ [⟨server, now, ((fetch server).run world).1⟩],
        ((fetch server).run world).2) :=
  rfl

section PublicKey
variable {fetch : KeyFetch ω} {world : ω}

/-- The document of a server is fetched only if the cache cannot answer, and kept only if it is usable. -/
theorem run_publicKey :
    (publicKey fetch server keyId now).run (cache, world) =
      match lookup cache server keyId now with
      | .known key => (some key, cache, world)
      | .unlisted => (none, cache, world)
      | .stale =>
        match (fetch server).run world with
        | (.error _, world) => (none, cache, world)
        | (.ok document, world) =>
          if isUsable server now document then
            (document.verifyKeys.get? keyId,
              cache.insert server ⟨document.verifyKeys, document.validUntil, now⟩, world)
          else (none, cache, world) := by
  show StateT.run (match lookup cache server keyId now with
    | .known key => pure (some key)
    | .unlisted => pure none
    | .stale => _) (cache, world) = _
  cases lookup cache server keyId now with
  | known key => rfl
  | unlisted => rfl
  | stale =>
    dsimp only
    rcases (fetch server).run world with ⟨_ | document, next⟩
    · rfl
    · dsimp only
      cases isUsable server now document <;> rfl

end PublicKey

/-- The key that is found is the one that the document accepted last lists, this request included, and the
    cache still holds what was accepted last. -/
theorem Caches.publicKey (h : Caches cache requests) (fetch : KeyFetch ω) (server keyId : String) (now : Int64)
    (world : ω) :
    ∃ cache' requests' world',
      (Ownership.publicKey (fetch.recorded now) server keyId now).run (cache, requests, world) =
        (listedKey? server keyId now requests', cache', requests', world') ∧ Caches cache' requests' := by
  have found := lookup_eq h server keyId now
  cases hlookup : lookup cache server keyId now with
  | known key =>
    rw [hlookup] at found
    exact ⟨cache, requests, world, by rw [run_publicKey, hlookup, found], h⟩
  | unlisted =>
    rw [hlookup] at found
    exact ⟨cache, requests, world, by rw [run_publicKey, hlookup, found], h⟩
  | stale =>
    rw [hlookup] at found
    rw [run_publicKey, hlookup]
    dsimp only
    rw [run_recorded]
    rcases (fetch server).run world with ⟨e | document, next⟩
    · refine ⟨cache, requests ++ [⟨server, now, .error e⟩], next, ?_, h.refused fun _ => rfl⟩
      rw [listedKey?_refused fun _ => rfl, found]
    · dsimp only
      cases husable : isUsable server now document with
      | true =>
        refine ⟨_, requests ++ [⟨server, now, .ok document⟩], next, ?_, h.accepted husable⟩
        rw [listedKey?_accepted husable]
        rfl
      | false =>
        have refused := accepted?_unusable husable
        refine ⟨cache, requests ++ [⟨server, now, .ok document⟩], next, ?_, h.refused refused⟩
        rw [listedKey?_refused refused, found]
        rfl

/-! ### Proving ownership -/

/-- A claimed signature proves ownership of an account: its origin is the server of the account, and the
    document of that server that was accepted last is valid and lists a key under which it verifies. -/
def Proves [SignatureScheme] (requests : List KeyRequest) (account : String) (claimed : ClaimedSignature)
    (payload : String) (now : Int64) : Prop :=
  Account.server? account = some claimed.origin ∧
  ∃ accepted key, lastAccepted? claimed.origin requests = some accepted ∧
    now < accepted.document.validUntil ∧ accepted.document.verifyKeys.get? claimed.keyId = some key ∧
    verifySignature key claimed.signature (utf8 payload) = true

theorem listedKey?_eq_some {key : String} :
    listedKey? server keyId now requests = some key ↔
      ∃ accepted, lastAccepted? server requests = some accepted ∧ now < accepted.document.validUntil ∧
        accepted.document.verifyKeys.get? keyId = some key := by
  unfold listedKey?
  cases lastAccepted? server requests with
  | none => simp
  | some a => by_cases hvalid : now < a.document.validUntil <;> simp [hvalid]

section Verify
variable [SignatureScheme] {fetch : KeyFetch ω} {account payload : String} {claimed : ClaimedSignature} {world : ω}

theorem run_verify_foreign (h : Account.server? account ≠ some claimed.origin) :
    (verify fetch account claimed payload now).run (cache, world) = (false, cache, world) := by
  unfold verify
  cases hserver : Account.server? account with
  | none => rfl
  | some server =>
    have horigin : claimed.origin ≠ server := fun heq => h (heq ▸ hserver)
    simp only [ne_eq, horigin, not_false_eq_true, if_true]
    rfl

theorem run_verify (h : Account.server? account = some claimed.origin) :
    (verify fetch account claimed payload now).run (cache, world) =
      match (publicKey fetch claimed.origin claimed.keyId now).run (cache, world) with
      | (some key, state) => (verifySignature key claimed.signature (utf8 payload), state)
      | (none, state) => (false, state) := by
  unfold verify
  rw [h]
  simp only [ne_eq, not_true_eq_false, if_false]
  show StateT.run (publicKey fetch claimed.origin claimed.keyId now >>= _) (cache, world) = _
  rw [StateT.run_bind]
  rcases (publicKey fetch claimed.origin claimed.keyId now).run (cache, world) with ⟨_ | key, state⟩ <;> rfl

/-- The key that is found decides. -/
theorem verify_of_publicKey (h : Account.server? account = some claimed.origin) {key : String}
    (found : ((publicKey fetch claimed.origin claimed.keyId now).run (cache, world)).1 = some key) :
    ((verify fetch account claimed payload now).run (cache, world)).1 =
      verifySignature key claimed.signature (utf8 payload) := by
  rw [run_verify h]
  generalize (publicKey fetch claimed.origin claimed.keyId now).run (cache, world) = keyed at found
  obtain ⟨_, state⟩ := keyed
  cases found
  rfl

/-- What an answer settles, and the cache from then on. -/
def settled (cache : KeyCache) (claimed : ClaimedSignature) (payload : String) (now : Int64)
    (answer : Except FederationError KeyDocument) : Bool × KeyCache :=
  answer.toOption.elim (false, cache) fun document =>
    if isUsable claimed.origin now document then
      ((document.verifyKeys.get? claimed.keyId).any (verifySignature · claimed.signature (utf8 payload)),
        cache.insert claimed.origin ⟨document.verifyKeys, document.validUntil, now⟩)
    else (false, cache)

theorem run_verify_stale (h : Account.server? account = some claimed.origin)
    (stale : lookup cache claimed.origin claimed.keyId now = .stale) :
    (verify fetch account claimed payload now).run (cache, world) =
      ((settled cache claimed payload now ((fetch claimed.origin).run world).1).1,
        (settled cache claimed payload now ((fetch claimed.origin).run world).1).2,
        ((fetch claimed.origin).run world).2) := by
  rw [run_verify h, run_publicKey, stale]
  dsimp only
  rcases (fetch claimed.origin).run world with ⟨e | document, next⟩
  · rfl
  · dsimp only [settled, Except.toOption, Option.elim]
    cases isUsable claimed.origin now document with
    | false => rfl
    | true =>
      rw [if_pos rfl, if_pos rfl]
      cases document.verifyKeys.get? claimed.keyId <;> rfl

theorem run_verify_held (held : lookup cache claimed.origin claimed.keyId now ≠ .stale) :
    ((verify fetch account claimed payload now).run (cache, world)).2 = (cache, world) := by
  by_cases owner : Account.server? account = some claimed.origin
  · rw [run_verify owner, run_publicKey]
    cases hlookup : lookup cache claimed.origin claimed.keyId now with
    | known key => rfl
    | unlisted => rfl
    | stale => exact absurd hlookup held
  · rw [run_verify_foreign owner]

omit fetch world in
/-- A question is answered from the cache, or by what a single fetch from the claimed origin answers. -/
theorem run_verify_cases (cache : KeyCache) (account : String) (claimed : ClaimedSignature) (payload : String)
    (now : Int64) :
    (∃ approved, ∀ {ω : Type} (fetch : KeyFetch ω) (world : ω),
      (verify fetch account claimed payload now).run (cache, world) = (approved, cache, world)) ∨
    (∃ settle : Except FederationError KeyDocument → Bool × KeyCache, ∀ {ω : Type} (fetch : KeyFetch ω) (world : ω),
      (verify fetch account claimed payload now).run (cache, world) =
        ((settle ((fetch claimed.origin).run world).1).1, (settle ((fetch claimed.origin).run world).1).2,
          ((fetch claimed.origin).run world).2)) := by
  by_cases hserver : Account.server? account = some claimed.origin
  · cases hlookup : lookup cache claimed.origin claimed.keyId now with
    | known key => exact .inl ⟨_, fun fetch world => by rw [run_verify hserver, run_publicKey, hlookup]⟩
    | unlisted => exact .inl ⟨_, fun fetch world => by rw [run_verify hserver, run_publicKey, hlookup]⟩
    | stale => exact .inr ⟨settled cache claimed payload now, fun fetch world => run_verify_stale hserver hlookup⟩
  · exact .inl ⟨_, fun fetch world => run_verify_foreign hserver⟩

/-- What a fetch does in a part of the world is all that matters of the whole world. -/
theorem run_verify_extends {fetch' : KeyFetch ω'} {part : ω' → ω} (h : fetch'.Extends part fetch) {world : ω'} :
    (verify fetch account claimed payload now).run (cache, part world) =
      let (approved, cache', world') := (verify fetch' account claimed payload now).run (cache, world)
      (approved, cache', part world') := by
  obtain ⟨approved, hrun⟩ | ⟨settle, hrun⟩ := run_verify_cases cache account claimed payload now
  · rw [hrun, hrun]
  · rw [hrun, hrun, h claimed.origin world]

theorem run_verify_world :
    ((verify fetch account claimed payload now).run (cache, world)).2.2 = world ∨
      ((verify fetch account claimed payload now).run (cache, world)).2.2 = ((fetch claimed.origin).run world).2 := by
  obtain ⟨approved, hrun⟩ | ⟨settle, hrun⟩ := run_verify_cases cache account claimed payload now
  · exact .inl (by rw [hrun])
  · exact .inr (by rw [hrun])

end Verify

/-- An account is found to be owned if and only if the claimed signature proves it by the documents that were
    accepted, those of this call included, and the cache still holds what was accepted last. -/
theorem Caches.verify [SignatureScheme] (h : Caches cache requests) (fetch : KeyFetch ω) (account : String)
    (claimed : ClaimedSignature) (payload : String) (now : Int64) (world : ω) :
    ∃ proven cache' requests' world',
      (Ownership.verify (fetch.recorded now) account claimed payload now).run (cache, requests, world) =
        (proven, cache', requests', world') ∧
      Caches cache' requests' ∧ (proven = true ↔ Proves requests' account claimed payload now) := by
  by_cases hserver : Account.server? account = some claimed.origin
  · obtain ⟨cache', requests', world', hrun, hcaches⟩ := h.publicKey fetch claimed.origin claimed.keyId now world
    rw [run_verify hserver, hrun]
    cases hkey : listedKey? claimed.origin claimed.keyId now requests' with
    | none =>
      refine ⟨false, cache', requests', world', rfl, hcaches, by simp, ?_⟩
      rintro ⟨-, accepted, key, hlast, hvalid, hlisted, -⟩
      rw [listedKey?_eq_some.mpr ⟨accepted, hlast, hvalid, hlisted⟩] at hkey
      cases hkey
    | some key =>
      refine ⟨_, cache', requests', world', rfl, hcaches, fun hverifies => ?_, ?_⟩
      · obtain ⟨accepted, hlast, hvalid, hlisted⟩ := listedKey?_eq_some.mp hkey
        exact ⟨hserver, accepted, key, hlast, hvalid, hlisted, hverifies⟩
      · rintro ⟨-, accepted, other, hlast, hvalid, hlisted, hverifies⟩
        rw [listedKey?_eq_some.mpr ⟨accepted, hlast, hvalid, hlisted⟩] at hkey
        cases hkey
        exact hverifies
  · rw [run_verify_foreign hserver]
    exact ⟨false, cache, requests, world, rfl, h, by simp, fun proves => absurd proves.1 hserver⟩

end Ownership

end IdentityServer
