import IdentityServer.Proofs.Federation.OutboundRequests
import IdentityServer.Proofs.Federation.Reliance

/-! # Addresses after failures

Where a server is reached is kept for a day. A notice that fails forgets it, so that the next one finds the server again
if it has moved. A request for keys that fails does not: until the day is over, the keys of the server are asked for at
the same place. -/

namespace IdentityServer
open Exchange
variable {ω : Type}

/-! ### Finding out where a server is reached -/

namespace Discovery
variable {net : Network ω} {server base : String} {s t : DiscoveryCache × ω}

/-- Asks again where a server is reached, and keeps the answer. -/
def resolveAfresh (net : Network ω) (server : String) (s : DiscoveryCache × ω) : String × DiscoveryCache × ω :=
  let (base, world) := (lookup net server).run s.2
  (base, s.1.insert server ⟨base, net.uptime world⟩, world)

theorem run_resolve (named : isServerName server = true) :
    StateT.run (resolve net server).run s =
      match cached? s.1 server (net.uptime s.2) with
      | some base => (.ok base, s)
      | none => (.ok (resolveAfresh net server s).1, (resolveAfresh net server s).2) := by
  unfold resolve
  rw [named]
  let state : Exchange ω (DiscoveryCache × ω) := get
  have current : StateT.run state.run s = (.ok s, s) := rfl
  refine (run_bind_ok current).trans ?_
  dsimp only
  cases cached? s.1 server (net.uptime s.2) <;> rfl

theorem isServerName_of_resolve (h : StateT.run (resolve net server).run s = (.ok base, t)) :
    isServerName server = true := by
  by_contra misnamed
  rw [Bool.not_eq_true] at misnamed
  unfold resolve at h
  rw [misnamed] at h
  cases h

/-- A server that is kept is found where it was, for a day, and nobody is asked. -/
theorem run_resolve_kept {r : Resolution} (named : isServerName server = true) (kept : s.1.get? server = some r)
    (recent : net.uptime s.2 - r.resolvedAt < lifetime) :
    StateT.run (resolve net server).run s = (.ok r.baseUrl, s) := by
  have found : cached? s.1 server (net.uptime s.2) = some r.baseUrl := by
    rw [cached?, kept]
    exact if_pos recent
  rw [run_resolve named, found]

theorem run_resolve_forgotten (named : isServerName server = true) (forgotten : s.1.get? server = none) :
    StateT.run (resolve net server).run s =
      (.ok (resolveAfresh net server s).1, (resolveAfresh net server s).2) := by
  have unknown : cached? s.1 server (net.uptime s.2) = none := by
    rw [cached?, forgotten]
  rw [run_resolve named, unknown]

theorem run_lookup_delegated {text other : String} {world world' : ω} (portless : hasPort server = false)
    (sent : (net.send (.get (wellKnownUrl server))).run world = (.answered 200 text, world'))
    (delegates : delegate? text = some other) : (lookup net server).run world = (baseUrlOf other, world') := by
  unfold lookup
  rw [portless]
  show (baseUrlOf ((((net.send (.get (wellKnownUrl server))).run world).1.successBody?.bind delegate?).getD server),
    ((net.send (.get (wellKnownUrl server))).run world).2) = _
  rw [sent]
  show (baseUrlOf ((delegate? text).getD server), world') = _
  rw [delegates, Option.getD_some]

/-- A server that nothing is known about is where it says that it has delegated to. -/
theorem run_resolve_delegated {text other : String} {world : ω} (named : isServerName server = true)
    (portless : hasPort server = false) (forgotten : s.1.get? server = none)
    (sent : (net.send (.get (wellKnownUrl server))).run s.2 = (.answered 200 text, world))
    (delegates : delegate? text = some other) :
    StateT.run (resolve net server).run s =
      (.ok (baseUrlOf other), s.1.insert server ⟨baseUrlOf other, net.uptime world⟩, world) := by
  rw [run_resolve_forgotten named forgotten, resolveAfresh, run_lookup_delegated portless sent delegates]

/-- A server is found where it is kept, or afresh. -/
theorem resolve_cases (h : StateT.run (resolve net server).run s = (.ok base, t)) :
    (t = s ∧ ∃ r, s.1.get? server = some r ∧ r.baseUrl = base) ∨ (base, t) = resolveAfresh net server s := by
  rw [run_resolve (isServerName_of_resolve h)] at h
  cases hcached : cached? s.1 server (net.uptime s.2) with
  | none =>
    rw [hcached] at h
    cases h
    exact .inr rfl
  | some kept =>
    rw [hcached] at h
    cases h
    unfold cached? at hcached
    split at hcached
    · rename_i r hr
      obtain ⟨-, same⟩ := Option.ite_none_right_eq_some.mp hcached
      exact .inl ⟨rfl, r, hr, Option.some.inj same⟩
    · cases hcached

theorem kept_of_resolve (h : StateT.run (resolve net server).run s = (.ok base, t)) :
    ∃ r, t.1.get? server = some r ∧ r.baseUrl = base := by
  obtain ⟨rfl, kept⟩ | fresh := resolve_cases h
  · exact kept
  · cases fresh
    exact ⟨_, (Dictionary.get?_insert ..).trans (if_pos rfl), rfl⟩

theorem get?_of_resolve (h : StateT.run (resolve net server).run s = (.ok base, t)) {other : String}
    (different : other ≠ server) : t.1.get? other = s.1.get? other := by
  obtain ⟨rfl, -⟩ | fresh := resolve_cases h
  · rfl
  · cases fresh
    exact (Dictionary.get?_insert ..).trans (if_neg different.symm)

end Discovery

/-! ### Requests that fail -/

/-- A server is still said to be where a request failed, and will be until a day has passed. -/
def Pinned (net : Network ω) (server base : String) (s : DiscoveryCache × ω) : Prop :=
  ∃ r, s.1.get? server = some r ∧ r.baseUrl = base ∧ ∀ world, net.uptime world - r.resolvedAt < Discovery.lifetime →
    StateT.run (Discovery.resolve net server).run (s.1, world) = (.ok base, s.1, world)

/-- A server is forgotten, and asked again where it is the next time. -/
def Forgotten (net : Network ω) (server : String) (s : DiscoveryCache × ω) : Prop :=
  s.1.get? server = none ∧ ∀ world, StateT.run (Discovery.resolve net server).run (s.1, world) =
    (.ok (Discovery.resolveAfresh net server (s.1, world)).1, (Discovery.resolveAfresh net server (s.1, world)).2)

/-- A server is found at a place, and the request that is sent there fails. -/
def RequestFails (net : Network ω) (server : String) (request : String → HttpRequest) (s : DiscoveryCache × ω)
    (base : String) (e : FederationError) (t : DiscoveryCache × ω) : Prop :=
  ∃ u, StateT.run (Discovery.resolve net server).run s = (.ok base, u) ∧
    StateT.run (Exchange.request net server (request base)).run u = (.error e, t)

section Requests
variable {net : Network ω} {server base : String} {r : String → HttpRequest} {s t u : DiscoveryCache × ω}
  {e : FederationError}

theorem RequestFails.pinned (h : RequestFails net server r s base e t) : Pinned net server base t := by
  obtain ⟨u, resolved, failed⟩ := h
  obtain ⟨kept, hkept, rfl⟩ := Discovery.kept_of_resolve resolved
  -- A request does not change what is known of addresses.
  have same : u.1 = t.1 := congrArg (·.2.1) failed
  rw [same] at hkept
  have named := Discovery.isServerName_of_resolve resolved
  exact ⟨kept, hkept, rfl, fun world => Discovery.run_resolve_kept (s := (t.1, world)) named hkept⟩

theorem RequestFails.forgotten (h : RequestFails net server r s base e t) :
    Forgotten net server (t.1.erase server, t.2) := by
  obtain ⟨u, resolved, -⟩ := h
  have erased : (t.1.erase server).get? server = none := (Dictionary.get?_erase ..).trans (if_pos rfl)
  exact ⟨erased, fun world => Discovery.run_resolve_forgotten (Discovery.isServerName_of_resolve resolved) erased⟩

theorem RequestFails.get? (h : RequestFails net server r s base e t) {other : String} (different : other ≠ server) :
    (t.1.erase server).get? other = s.1.get? other := by
  obtain ⟨u, resolved, failed⟩ := h
  have same : u.1 = t.1 := congrArg (·.2.1) failed
  rw [Dictionary.get?_erase, if_neg different.symm, ← same]
  exact Discovery.get?_of_resolve resolved different

/-- What would be done with the answer is not done. -/
theorem RequestFails.run_then {α : Type} {next : String → Exchange ω α} (h : RequestFails net server r s base e t) :
    StateT.run (Discovery.resolve net server >>= fun base =>
      Exchange.request net server (r base) >>= next).run s = (.error e, t) := by
  obtain ⟨u, resolved, failed⟩ := h
  rw [run_bind_ok resolved, run_bind, failed]

end Requests

namespace Client
variable [SignatureScheme] {net : Network ω} {client : Client} {key : KeyPair} {n : InviteNotice}
  {notary server destination base : String} {s t u : DiscoveryCache × ω} {e : FederationError} {own : KeyDocument}

/-- The request for the key document of a server that is found at a place. -/
def keysRequest (base : String) : HttpRequest :=
  .get (base ++ keysPath)

/-- The request to a notary that is found at a place, for the documents of a server. -/
def queryRequest (server base : String) : HttpRequest :=
  .get (base ++ queryPath server)

/-- A notice that fails forgets where its server was. -/
theorem run_deliver_fails (owner : Account.server n.account = .ok destination)
    (fails : RequestFails net destination (client.noticeTo key destination · n) s base e t) :
    StateT.run (client.deliver net key n).run s = (.error e, t.1.erase destination, t.2) := by
  obtain ⟨u, resolved, failed⟩ := fails
  unfold deliver
  rw [owner, n.sign_noticeClaim key client.serverName]
  dsimp only
  rw [run_bind_ok resolved, run_bind, run_forgettingOnFailure]
  rw [show StateT.run (client.signedPost net key destination base noticePath _).run u = _ from failed]

/-- A request for keys that fails leaves where its server was. -/
theorem run_fetchDirect_fails (fails : RequestFails net server keysRequest s base e t) :
    StateT.run (fetchDirect net server).run s = (.error e, t) :=
  fails.run_then

theorem run_fetchViaNotary_fails (obtained : StateT.run (fetchDirect net notary).run s = (.ok own, t))
    (fails : RequestFails net notary (queryRequest server) t base e u) :
    StateT.run (fetchViaNotary net notary server).run s = (.error e, u) := by
  rw [fetchViaNotary, run_bind_ok obtained]
  exact fails.run_then

theorem run_fetchViaNotary_unobtained (failed : StateT.run (fetchDirect net notary).run s = (.error e, t)) :
    StateT.run (fetchViaNotary net notary server).run s = (.error e, t) := by
  rw [fetchViaNotary, run_bind, failed]

/-- A notice whose request fails forgets where its server is, and nothing else, so the next one finds the server again.
    Keys whose request fails are asked for at the same place for the rest of the day, be it the server itself or a notary
    that was asked. -/
theorem addresses_after_failures (client : Client) (net : Network ω) (key : KeyPair) (s : DiscoveryCache × ω) :
    (∀ n destination base e t, Account.server n.account = .ok destination →
      RequestFails net destination (client.noticeTo key destination · n) s base e t →
        StateT.run (client.deliver net key n).run s = (.error e, t.1.erase destination, t.2) ∧
        Forgotten net destination (t.1.erase destination, t.2) ∧
        ∀ other, other ≠ destination → (t.1.erase destination).get? other = s.1.get? other) ∧
    (∀ server base e t, client.notaryFor? server = none → RequestFails net server keysRequest s base e t →
      StateT.run (client.fetchKeys net server).run s = (.error e, t) ∧ Pinned net server base t) ∧
    ∀ server notary, client.notaryFor? server = some notary →
      (∀ base e t, RequestFails net notary keysRequest s base e t →
        StateT.run (client.fetchKeys net server).run s = (.error e, t) ∧ Pinned net notary base t) ∧
      ∀ own base e t u, StateT.run (fetchDirect net notary).run s = (.ok own, t) →
        RequestFails net notary (queryRequest server) t base e u →
          StateT.run (client.fetchKeys net server).run s = (.error e, u) ∧ Pinned net notary base u := by
  refine ⟨?_, ?_, ?_⟩
  · intro n destination base e t owner fails
    exact ⟨run_deliver_fails owner fails, fails.forgotten, fun other => fails.get?⟩
  · intro server base e t policy fails
    rw [fetchKeys_of_notaryFor?, policy]
    exact ⟨run_fetchDirect_fails fails, fails.pinned⟩
  · intro server notary policy
    rw [fetchKeys_of_notaryFor?, policy]
    refine ⟨fun base e t fails => ⟨?_, fails.pinned⟩, fun own base e t u obtained fails => ⟨?_, fails.pinned⟩⟩
    · exact run_fetchViaNotary_unobtained (run_fetchDirect_fails fails)
    · exact run_fetchViaNotary_fails obtained fails

omit [SignatureScheme] in
/-- A server moves while a notice is on its way, and is found again. -/
theorem addresses_after_failures_moved :
    let _ : SignatureScheme := .transparent
    let client : Client := ⟨"id.example.org", .direct, none⟩
    let delegation (k : Nat) := Json.obj [("m.server", .str (if k = 0 then "old.a.org:1" else "new.a.org:1"))]
    let net : Network Nat :=
      { send r k := (if r.method = "POST" then .unsent else .answered 200 (delegation k).canonical, k + 1)
        uptime _ := 0 }
    let n : InviteNotice := ⟨.email, "john@example.com", "@john:a.org", "!room:a.org", "@jane:a.org", "secret"⟩
    let after := StateT.run (client.deliver net .zeros n).run (.empty, 0)
    (∃ e t, RequestFails net "a.org" (client.noticeTo .zeros "a.org" · n) (.empty, 0) "https://old.a.org:1" e t ∧
      after.1 = .error e) ∧
    (StateT.run (Discovery.resolve net "a.org").run after.2).1 = .ok "https://new.a.org:1" := by
  intro scheme client delegation net n after
  have portless : Discovery.hasPort "a.org" = false := by decide
  have delegates : Discovery.delegate? (delegation 0).canonical = some "old.a.org:1" := by decide +kernel +zetaReduce
  have delegates' : Discovery.delegate? (delegation 2).canonical = some "new.a.org:1" := by decide +kernel +zetaReduce
  have resolved : StateT.run (Discovery.resolve net "a.org").run (.empty, 0) =
      (.ok "https://old.a.org:1", .insert .empty "a.org" ⟨"https://old.a.org:1", 0⟩, 1) :=
    Discovery.run_resolve_delegated (by decide) portless rfl rfl delegates
  have owner : Account.server n.account = .ok "a.org" := by
    have server : Account.server? n.account = some "a.org" := by decide
    rw [Account.server, server]
  have fails : RequestFails net "a.org" (client.noticeTo .zeros "a.org" · n) (.empty, 0) "https://old.a.org:1" _ _ :=
    ⟨_, resolved, rfl⟩
  obtain ⟨notices, -⟩ := addresses_after_failures client net .zeros (.empty, 0)
  obtain ⟨failed, ⟨forgotten, -⟩, -⟩ := notices n "a.org" _ _ _ owner fails
  have moved : StateT.run (Discovery.resolve net "a.org").run after.2 =
      (.ok "https://new.a.org:1", .insert after.2.1 "a.org" ⟨"https://new.a.org:1", 0⟩, 3) := by
    rw [show after = _ from failed]
    exact Discovery.run_resolve_delegated (by decide) portless forgotten rfl delegates'
  exact ⟨⟨_, _, fails, congrArg Prod.fst failed⟩, congrArg Prod.fst moved⟩

omit [SignatureScheme] in
/-- A server has moved, and still its keys are asked for where it was. -/
theorem failed_key_fetch_pinned :
    let _ : SignatureScheme := .transparent
    let client : Client := ⟨"id.example.org", .direct, none⟩
    let delegation (k : Nat) := Json.obj [("m.server", .str (if k = 0 then "old.a.org:1" else "new.a.org:1"))]
    let net : Network Nat :=
      { send r k := (if r.url = Discovery.wellKnownUrl "a.org" then .answered 200 (delegation k).canonical else .unsent,
          k + 1)
        uptime _ := 0 }
    ∃ e t, RequestFails net "a.org" keysRequest (.empty, 0) "https://old.a.org:1" e t ∧
      StateT.run (client.fetchKeys net "a.org").run (.empty, 0) = (.error e, t) ∧
      ((Discovery.lookup net "a.org").run t.2).1 = "https://new.a.org:1" ∧
      ¬Forgotten net "a.org" t ∧ Pinned net "a.org" "https://old.a.org:1" t := by
  intro scheme client delegation net
  have portless : Discovery.hasPort "a.org" = false := by decide
  have delegates : Discovery.delegate? (delegation 0).canonical = some "old.a.org:1" := by decide +kernel +zetaReduce
  have delegates' : Discovery.delegate? (delegation 2).canonical = some "new.a.org:1" := by decide +kernel +zetaReduce
  have resolved : StateT.run (Discovery.resolve net "a.org").run (.empty, 0) =
      (.ok "https://old.a.org:1", .insert .empty "a.org" ⟨"https://old.a.org:1", 0⟩, 1) :=
    Discovery.run_resolve_delegated (by decide) portless rfl rfl delegates
  have fails : RequestFails net "a.org" keysRequest (.empty, 0) "https://old.a.org:1" _ _ :=
    ⟨_, resolved, rfl⟩
  refine ⟨_, _, fails, run_fetchDirect_fails fails, ?_, ?_, fails.pinned⟩
  · exact congrArg Prod.fst (Discovery.run_lookup_delegated portless rfl delegates')
  · rintro ⟨forgotten, -⟩
    obtain ⟨r, kept, -⟩ := fails.pinned
    cases kept.symm.trans forgotten

end Client
end IdentityServer
