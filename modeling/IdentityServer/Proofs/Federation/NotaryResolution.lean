import IdentityServer.Proofs.Federation.NotaryAnswers
import IdentityServer.Proofs.Federation.Reliance
import IdentityServer.Service.Settings

/-! # Asking notaries

A notary is asked twice, for its own document and for the documents of a server. Both answers have to be as they should
be; then the values that name the server decide. -/

namespace IdentityServer
open Exchange
variable [SignatureScheme]

namespace Client
variable {ω : Type}

/-- A server is asked for its key document, and answers one that names it and that a key of its own has signed. -/
def Obtains (net : Network ω) (server : String) (s : DiscoveryCache × ω) (d : KeyDocument) (t : DiscoveryCache × ω) :
    Prop :=
  ∃ base u text raw, StateT.run (Discovery.resolve net server).run s = (.ok base, u) ∧
    StateT.run (request net server (.get (base ++ keysPath))).run u = (.ok text, t) ∧ Json.parse text = some raw ∧
    KeyDocument.ofJson? raw = some d ∧ d.server = server ∧ raw.SignedBy server d.verifyKeys

/-- A notary is asked about a server, and answers values. -/
def Reports (net : Network ω) (notary server : String) (s : DiscoveryCache × ω) (raws : List Json)
    (t : DiscoveryCache × ω) : Prop :=
  ∃ base u text, StateT.run (Discovery.resolve net notary).run s = (.ok base, u) ∧
    StateT.run (request net notary (.get (base ++ queryPath server))).run u = (.ok text, t) ∧
    notaryValues? text = some raws

/-- The notary's own document is obtained, and by its keys the notary's answer gives a document for a server. -/
def Resolves (net : Network ω) (notary server : String) (s : DiscoveryCache × ω) (d : KeyDocument) : Prop :=
  ∃ own t raws u, Obtains net notary s own t ∧ Reports net notary server t raws u ∧
    Answers notary server own.verifyKeys raws d

variable {net : Network ω} {notary server : String} {s t u : DiscoveryCache × ω} {d own : KeyDocument}
  {raws : List Json}

theorem run_fetchDirect_eq_ok : StateT.run (fetchDirect net server).run s = (.ok d, t) ↔ Obtains net server s d t := by
  simp only [fetchDirect, run_bind_eq_ok, run_lift_eq_ok, decode_eq_ok, checkKeyDocument_eq_ok, Obtains]
  constructor
  · rintro ⟨base, v, resolved, text, _, answered, raw, _, ⟨parsed, rfl⟩, checked, rfl⟩
    exact ⟨base, v, text, raw, resolved, answered, parsed, checked⟩
  · rintro ⟨base, v, text, raw, resolved, answered, parsed, checked⟩
    exact ⟨base, v, resolved, text, t, answered, raw, t, ⟨parsed, rfl⟩, checked, rfl⟩

/-- Once both requests are answered, the values for the server alone decide. -/
theorem run_fetchViaNotary (obtained : Obtains net notary s own t) (reported : Reports net notary server t raws u) :
    StateT.run (fetchViaNotary net notary server).run s =
      (notaryDocument notary server own.verifyKeys (valuesFor server raws), u) := by
  obtain ⟨base, v, text, resolved, answered, read⟩ := reported
  have decoded : StateT.run (liftM (decode notary notaryValues? text) : Exchange ω (List Json)).run u = (.ok raws, u) :=
    run_lift_eq_ok.mpr ⟨decode_eq_ok.mpr read, rfl⟩
  rw [fetchViaNotary, run_bind_ok (run_fetchDirect_eq_ok.mpr obtained), run_bind_ok resolved, run_bind_ok answered,
    run_bind_ok decoded, run_lift, notaryDocument_valuesFor]

theorem run_fetchViaNotary_eq_ok : StateT.run (fetchViaNotary net notary server).run s = (.ok d, u) ↔
    ∃ own t raws, Obtains net notary s own t ∧ Reports net notary server t raws u ∧
      Answers notary server own.verifyKeys raws d := by
  constructor
  · simp only [fetchViaNotary, run_bind_eq_ok, run_lift_eq_ok, decode_eq_ok, run_fetchDirect_eq_ok,
      notaryDocument_eq_ok]
    rintro ⟨own, t, obtained, base, v, resolved, text, _, answered, raws, _, ⟨read, rfl⟩, answers, rfl⟩
    exact ⟨own, t, raws, obtained, ⟨base, v, text, resolved, answered, read⟩, answers⟩
  · rintro ⟨own, t, raws, obtained, reported, answers⟩
    rw [run_fetchViaNotary obtained reported, ← notaryDocument_valuesFor, notaryDocument_eq_ok.mpr answers]

omit [SignatureScheme] in
theorem notaryFor?_eq_some {client : Client} : client.notaryFor? server = some notary ↔
    client.keyResolution = .notary ∧ client.notaryServer = some notary ∧ notary ≠ server := by
  unfold notaryFor?
  cases client.keyResolution with
  | direct => simp
  | notary =>
    cases client.notaryServer with
    | none => simp
    | some own =>
      simp only [Option.ite_none_right_eq_some, Option.some.injEq, true_and]
      constructor
      · rintro ⟨other, rfl⟩
        exact ⟨rfl, other⟩
      · rintro ⟨rfl, other⟩
        exact ⟨other, rfl⟩

end Client

omit [SignatureScheme] in
/-- With settings that pass their check there is a notary wherever the policy asks for one. -/
theorem Settings.isSome_notaryFor?_client {settings : Settings} (checked : settings.check = .ok ()) (server : String) :
    (settings.client.notaryFor? server).isSome ↔
      settings.keyResolution = .notary ∧ settings.notaryServer ≠ some server := by
  have configured : ¬(settings.keyResolution = .notary ∧ settings.notaryServer = none) := by
    intro missing
    obtain ⟨_, -, rest⟩ := bind_eq_ok.mp checked
    obtain ⟨_, -, rest⟩ := bind_eq_ok.mp rest
    obtain ⟨_, -, rest⟩ := bind_eq_ok.mp rest
    obtain ⟨_, -, rest⟩ := bind_eq_ok.mp rest
    rw [if_pos missing] at rest
    cases rest
  rw [Option.isSome_iff_exists]
  simp only [Client.notaryFor?_eq_some, client]
  constructor
  · rintro ⟨notary, policy, named, other⟩
    exact ⟨policy, fun same => other (Option.some.inj (named.symm.trans same))⟩
  · rintro ⟨policy, other⟩
    obtain ⟨notary, named⟩ := Option.ne_none_iff_exists'.mp fun none => configured ⟨policy, none⟩
    exact ⟨notary, policy, named, fun same => other (same ▸ named)⟩

/-- A notary's answer gives a document if and only if the notary's own document is obtained and all values that name the
    server, of which there is one, are vouched for; it is the first one of theirs that is valid longest. Otherwise there
    is an error, and values for other servers have no part in either. A notary is asked if the policy says so, but not
    about itself. -/
theorem notary_resolution {ω : Type} (net : Network ω) (server : String) (s : DiscoveryCache × ω) :
    (∀ notary,
      let fetched := StateT.run (Client.fetchViaNotary net notary server).run s
      (∀ d, fetched.1 = .ok d ↔ Client.Resolves net notary server s d) ∧
      ((∃ d, Client.Resolves net notary server s d) ∨ ∃ e, fetched.1 = .error e) ∧
      ∀ own t raws u, Client.Obtains net notary s own t → Client.Reports net notary server t raws u →
        fetched = (notaryDocument notary server own.verifyKeys (valuesFor server raws), u)) ∧
    (∀ client : Client,
      (∀ notary, client.notaryFor? server = some notary ↔
        client.keyResolution = .notary ∧ client.notaryServer = some notary ∧ notary ≠ server) ∧
      client.fetchKeys net server =
        match client.notaryFor? server with
        | some notary => Client.fetchViaNotary net notary server
        | none => Client.fetchDirect net server) ∧
    ∀ settings : Settings, settings.check = .ok () → ((settings.client.notaryFor? server).isSome ↔
      settings.keyResolution = .notary ∧ settings.notaryServer ≠ some server) := by
  refine ⟨fun notary => ?_, fun client => ⟨fun notary => Client.notaryFor?_eq_some, ?_⟩,
    fun settings checked => settings.isSome_notaryFor?_client checked server⟩
  · intro fetched
    have gives (d : KeyDocument) : fetched.1 = .ok d ↔ Client.Resolves net notary server s d := by
      constructor
      · intro hd
        obtain ⟨own, t, raws, obtained, reported, answers⟩ := Client.run_fetchViaNotary_eq_ok.mp (Prod.ext hd rfl)
        exact ⟨own, t, raws, _, obtained, reported, answers⟩
      · rintro ⟨own, t, raws, u, obtained, reported, answers⟩
        exact congrArg Prod.fst (Client.run_fetchViaNotary_eq_ok.mpr ⟨own, t, raws, obtained, reported, answers⟩)
    refine ⟨gives, ?_, fun own t raws u => Client.run_fetchViaNotary⟩
    cases hfetched : fetched.1 with
    | ok d => exact .inl ⟨d, (gives d).mp hfetched⟩
    | error e => exact .inr ⟨e, rfl⟩
  · rw [Client.fetchKeys_of_notaryFor?]
    cases client.notaryFor? server <;> rfl

omit [SignatureScheme] in
/-- A notary answers a value that is no document, one for another server, and a document twice. -/
theorem notary_resolution_mixed :
    let _ : SignatureScheme := .transparent
    let settings : Settings := ⟨"id.example.org", "", 1, none, "", false, "", 1, .notary, some "n.org:1", 1, 1, 1, 1, 1,
      [], {}, "", .pretty⟩
    let ring : KeyRing := ⟨.zeros, .empty, .empty⟩
    let document := ring.document "n.org:1" 0
    let vouched := (SignedJson.sign ring.current "n.org:1" (ring.document "a.org:1" 5).toJson).toOption.getD .null
    let answer := Json.obj [("server_keys", .arr [.null, .obj [("server_name", .str "b.org")], vouched, vouched])]
    let net : Network Unit :=
      { send r := pure (.answered 200 (if r.url = "https://n.org:1/_matrix/key/v2/server" then document.toJson.canonical
          else answer.canonical))
        uptime _ := 0 }
    settings.check = .ok () ∧ settings.client.notaryFor? "a.org:1" = some "n.org:1" ∧
    ∃ own t raws u, Client.Obtains net "n.org:1" (.empty, ()) own t ∧ Client.Reports net "n.org:1" "a.org:1" t raws u ∧
      raws.length = 4 ∧ (valuesFor "a.org:1" raws).length = 2 ∧
      ∃ d, (StateT.run (settings.client.fetchKeys net "a.org:1").run (.empty, ())).1 = .ok d ∧
        d.verifyKeys.get? "ed25519:0" = some ring.current.publicKey := by
  intro scheme settings ring document vouched answer net
  obtain ⟨viaNotary, clients, bySettings⟩ := notary_resolution net "a.org:1" (.empty, ())
  have checked : settings.check = .ok () := by rfl
  obtain ⟨notary, policy⟩ := Option.isSome_iff_exists.mp ((bySettings settings checked).mpr ⟨rfl, by decide⟩)
  obtain ⟨asked, path⟩ := clients settings.client
  obtain rfl : "n.org:1" = notary := Option.some.inj ((asked notary).mp policy).2.1
  let reached : DiscoveryCache × Unit := (.single "n.org:1" ⟨"https://n.org:1", 0⟩, ())
  have obtained : Client.Obtains net "n.org:1" (.empty, ()) document reached := by
    have resolved : StateT.run (Discovery.resolve net "n.org:1").run (.empty, ()) =
        (.ok "https://n.org:1", reached) := by
      rfl
    refine Client.run_fetchDirect_eq_ok.mp (Client.run_fetchDirect_ok resolved ?_ document.parse_canonical
      (ring.checkKeyDocument_own _ _ SignatureScheme.transparent_lawful))
    exact Prod.ext (congrArg (HttpOutcome.answered 200) (if_pos (by decide))) rfl
  let suits (d : KeyDocument) : Bool := d.verifyKeys.get? "ed25519:0" = some ring.current.publicKey
  have vouches : (Client.notaryValues? answer.canonical).any (fun raws =>
      raws.length = 4 ∧ (valuesFor "a.org:1" raws).length = 2 ∧
      (notaryDocument "n.org:1" "a.org:1" document.verifyKeys
        (valuesFor "a.org:1" raws)).toOption.any suits) = true := by
    rw [Client.notaryValues?, Json.Source.ofBody, Json.Source.read, Json.canonical, String.toList_ofList,
      String.length_ofList]
    decide +kernel +zetaReduce
  obtain ⟨raws, read, suitable⟩ := (Option.any_eq_true ..).mp vouches
  obtain ⟨all, named, suitable⟩ := of_decide_eq_true suitable
  obtain ⟨d, hd, listed⟩ := (Option.any_eq_true ..).mp suitable
  have reported : Client.Reports net "n.org:1" "a.org:1" reached raws reached := by
    have resolved : StateT.run (Discovery.resolve net "n.org:1").run reached = (.ok "https://n.org:1", reached) := by
      rfl
    have other : "https://n.org:1" ++ Client.queryPath "a.org:1" ≠ "https://n.org:1/_matrix/key/v2/server" := by
      decide +kernel
    refine ⟨_, _, _, resolved, ?_, read⟩
    rw [Exchange.run_request]
    exact Prod.ext (congrArg Except.ok (if_neg other)) rfl
  refine ⟨checked, policy, document, reached, raws, reached, obtained, reported, all, named, d, ?_,
    of_decide_eq_true listed⟩
  rw [path, policy]
  dsimp only
  rw [(viaNotary "n.org:1").2.2 document reached raws reached obtained reported]
  exact toOption_eq_some.mp hd

end IdentityServer
