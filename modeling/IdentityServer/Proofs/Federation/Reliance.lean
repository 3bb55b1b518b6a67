import IdentityServer.Proofs.Federation.KeyCache
import IdentityServer.Proofs.Federation.NotaryAnswers

/-! # The documents that proofs of ownership rest on

A key of a server is known from its key document. Where a notary was asked, the document came with the notary's
signature, and that was checked with the keys of the notary's own document. So a proof rests on one document or on two.
The first is valid whenever it is used. When the notary's own one was fetched, nobody looked how long it is valid. -/

namespace IdentityServer
open Exchange
variable [SignatureScheme] {ω : Type}

/-! ### Fetching with the notary's own document -/

/-- A key document that was fetched, and the notary's own document if it came from a notary. -/
structure SourcedDocument where
  document : KeyDocument
  notary : Option KeyDocument

/-- The documents whose keys are relied on by whoever uses a key of the fetched one. -/
def SourcedDocument.reliedOn (s : SourcedDocument) : List KeyDocument :=
  s.document :: s.notary.toList

namespace Client
variable (client : Client) (net : Network ω)

/-- The notary that is asked for the document of a server. -/
def notaryFor? (server : String) : Option String :=
  match client.keyResolution, client.notaryServer with
  | .notary, some notary => if notary ≠ server then some notary else none
  | _, _ => none

/-- The key document of a server, and the notary's own one. -/
def fetchSourced (server : String) : Exchange ω SourcedDocument :=
  match client.notaryFor? server with
  | none => (⟨·, none⟩) <$> fetchDirect net server
  | some notary => do
    let own ← fetchDirect net notary
    let baseUrl ← Discovery.resolve net notary
    let body ← Exchange.request net notary (.get (baseUrl ++ queryPath server))
    let raws ← Exchange.decode notary notaryValues? body
    return ⟨← notaryDocument notary server own.verifyKeys raws, some own⟩

theorem fetchKeys_of_notaryFor? (server : String) :
    client.fetchKeys net server =
      match client.notaryFor? server with
      | none => fetchDirect net server
      | some notary => fetchViaNotary net notary server := by
  unfold fetchKeys notaryFor?
  cases client.keyResolution with
  | direct => rfl
  | notary =>
    cases client.notaryServer with
    | none => rfl
    | some notary =>
      dsimp only
      split <;> rfl

theorem fetchKeys_eq (server : String) :
    client.fetchKeys net server = SourcedDocument.document <$> client.fetchSourced net server := by
  rw [fetchKeys_of_notaryFor?, fetchSourced]
  cases client.notaryFor? server with
  | none => simp
  | some notary => simp [fetchViaNotary]

end Client

/-! ### What was checked of a document -/

/-- What was checked of a document of a server before it was answered, and of the notary's own one. -/
inductive Client.Checked (client : Client) (server : String) : SourcedDocument → Prop
  | direct {raw : Json} {document : KeyDocument} (policy : client.notaryFor? server = none)
    (checked : checkKeyDocument server raw = .ok document) : Checked client server ⟨document, none⟩
  | vouched {raw ownRaw : Json} {document own : KeyDocument} {notary : String}
    (policy : client.notaryFor? server = some notary) (ownChecked : checkKeyDocument notary ownRaw = .ok own)
    (checked : checkKeyDocument server raw = .ok document)
    (countersigned : SignedJson.verify raw notary own.verifyKeys.get? = .ok ()) :
    Checked client server ⟨document, some own⟩

theorem notaryDocument_ok {notary server : String} {keys : Dictionary String} {raws : List Json}
    {document : KeyDocument} (h : notaryDocument notary server keys raws = .ok document) :
    ∃ raw ∈ raws, checkKeyDocument server raw = .ok document ∧ SignedJson.verify raw notary keys.get? = .ok () := by
  obtain ⟨documents, vouched, front, back, rfl, -⟩ := notaryDocument_eq_ok.mp h
  obtain ⟨raw, hraw, vouches⟩ := exists_left_of_mem vouched List.mem_append_cons_self
  obtain ⟨hraw, named⟩ := List.mem_filter.mp hraw
  have same := KeyDocument.server_of_field vouches.decodes (of_decide_eq_true named)
  exact ⟨raw, hraw, checkKeyDocument_eq_ok.mpr ⟨vouches.decodes, same, vouches.signed⟩,
    verify_eq_ok_iff_signedBy.mpr vouches.countersigned⟩

namespace Client
variable {client : Client} {net : Network ω} {server : String}

theorem yields_fetchDirect :
    (fetchDirect net server).Yields fun document => ∃ raw, checkKeyDocument server raw = .ok document :=
  (yields_true _).bind fun _ _ => (yields_true _).bind fun _ _ => (yields_true _).bind fun raw _ =>
    yields_lift fun _ checked => ⟨raw, checked⟩

theorem yields_fetchSourced : (client.fetchSourced net server).Yields (client.Checked server) := by
  unfold fetchSourced
  cases policy : client.notaryFor? server with
  | none =>
    rw [map_eq_pure_bind]
    refine yields_fetchDirect.bind fun document ⟨raw, checked⟩ => ?_
    rintro _ _ ⟨⟩
    exact .direct policy checked
  | some notary =>
    refine yields_fetchDirect.bind fun own ⟨ownRaw, ownChecked⟩ => (yields_true _).bind fun _ _ =>
      (yields_true _).bind fun _ _ => (yields_true _).bind fun raws _ => ?_
    refine (yields_lift fun _ => notaryDocument_ok).bind fun document ⟨raw, _, checked, countersigned⟩ => ?_
    rintro _ _ ⟨⟩
    exact .vouched policy ownChecked checked countersigned

/-! ### What is answered -/

section Answered
variable {notary text base : String} {document own : KeyDocument} {s t u : DiscoveryCache × ω} {world : ω}

theorem run_fetchDirect_ok {raw : Json} (resolved : StateT.run (Discovery.resolve net server).run s = (.ok base, t))
    (answered : (net.send (.get (base ++ keysPath))).run t.2 = (.answered 200 text, world))
    (parsed : Json.parse text = some raw) (checked : checkKeyDocument server raw = .ok document) :
    StateT.run (fetchDirect net server).run s = (.ok document, t.1, world) := by
  have body : StateT.run (request net server (.get (base ++ keysPath))).run t = (.ok text, t.1, world) := by
    rw [run_request, answered]
    rfl
  have decoded : StateT.run (liftM (decode server Json.parse text) : Exchange ω Json).run (t.1, world) =
      (.ok raw, t.1, world) := by
    rw [run_lift, decode, parsed]
  rw [fetchDirect, run_bind_ok resolved, run_bind_ok body, run_bind_ok decoded, run_lift, checked]

/-- What a notary says of a server is taken, however long the keys are valid with which its word is checked. -/
theorem run_fetchSourced_vouched {raws : List Json} (policy : client.notaryFor? server = some notary)
    (fetched : StateT.run (fetchDirect net notary).run s = (.ok own, t))
    (resolved : StateT.run (Discovery.resolve net notary).run t = (.ok base, u))
    (answered : (net.send (.get (base ++ queryPath server))).run u.2 = (.answered 200 text, world))
    (read : notaryValues? text = some raws)
    (vouched : notaryDocument notary server own.verifyKeys raws = .ok document) :
    StateT.run (client.fetchSourced net server).run s = (.ok ⟨document, some own⟩, u.1, world) := by
  have body : StateT.run (request net notary (.get (base ++ queryPath server))).run u = (.ok text, u.1, world) := by
    rw [run_request, answered]
    rfl
  have decoded : StateT.run (liftM (decode notary notaryValues? text) : Exchange ω (List Json)).run (u.1, world) =
      (.ok raws, u.1, world) := by
    rw [run_lift, decode, read]
  have chosen : StateT.run (liftM (notaryDocument notary server own.verifyKeys raws) : Exchange ω KeyDocument).run
      (u.1, world) = (.ok document, u.1, world) := by
    rw [run_lift, vouched]
  rw [fetchSourced, policy]
  dsimp only
  rw [run_bind_ok fetched, run_bind_ok resolved, run_bind_ok body, run_bind_ok decoded, run_bind_ok chosen]
  rfl

end Answered

end Client

/-! ### Asking whether accounts are owned -/

/-- A document that was asked for, when that was and what came of it. -/
structure SourcedRequest where
  server : String
  madeAt : Int64
  answer : Except FederationError SourcedDocument

/-- What was asked for, wherever the answer came from. -/
def SourcedRequest.request (r : SourcedRequest) : KeyRequest where
  server := r.server
  madeAt := r.madeAt
  answer := r.answer.map SourcedDocument.document

omit [SignatureScheme] in
theorem SourcedRequest.request_answer_ok {r : SourcedRequest} {document : KeyDocument} :
    r.request.answer = .ok document ↔ ∃ s, r.answer = .ok s ∧ s.document = document := by
  unfold request
  cases r.answer with
  | error e => simp [Except.map]
  | ok s => simp [Except.map]

/-- The fetch at a time, which also remembers what came of it, with the notary's own document. -/
def Client.sourcedFetch (client : Client) (net : Network ω) (now : Int64) :
    KeyFetch (List SourcedRequest × DiscoveryCache × ω) := fun server => do
  let answer ← onSecond (client.fetchSourced net server).run
  modify fun world => (world.1 ++ [⟨server, now, answer⟩], world.2)
  return answer.map SourcedDocument.document

namespace Client
variable (client : Client) (net : Network ω) (now : Int64)

theorem run_sourcedFetch (server : String) (log : List SourcedRequest) (state : DiscoveryCache × ω) :
    (client.sourcedFetch net now server).run (log, state) =
      let answer := (StateT.run (client.fetchSourced net server).run state).1
      (answer.map SourcedDocument.document, log ++ [⟨server, now, answer⟩],
        (StateT.run (client.fetchSourced net server).run state).2) :=
  rfl

theorem run_keyFetch (server : String) (state : DiscoveryCache × ω) :
    (client.keyFetch net server).run state =
      ((StateT.run (client.fetchSourced net server).run state).1.map SourcedDocument.document,
        (StateT.run (client.fetchSourced net server).run state).2) := by
  show StateT.run (ExceptT.run (client.fetchKeys net server)) state = _
  rw [fetchKeys_eq, ExceptT.run_map]
  rfl

/-- To remember where documents came from changes nothing else. -/
theorem extends_sourcedFetch : (client.sourcedFetch net now).Extends Prod.snd (client.keyFetch net) := by
  rintro server ⟨log, state⟩
  rw [run_sourcedFetch, run_keyFetch]

theorem recorded_sourcedFetch :
    (client.sourcedFetch net now).Extends (fun world => (world.1.map SourcedRequest.request, world.2))
      ((client.keyFetch net).recorded now) := by
  rintro server ⟨log, state⟩
  rw [Ownership.run_recorded, run_sourcedFetch, run_keyFetch]
  simp [SourcedRequest.request]

end Client

namespace Ownership

/-- Whether a claimed signature of a text is one of the server that owns an account, at a clock reading. -/
structure Question where
  account : String
  claimed : ClaimedSignature
  payload : String
  now : Int64

namespace Question

def ask (fetch : Int64 → KeyFetch ω) (q : Question) : StateM (KeyCache × ω) Bool :=
  verify (fetch q.now) q.account q.claimed q.payload q.now

/-- The state after questions, one after the other. -/
def askAll (fetch : Int64 → KeyFetch ω) (state : KeyCache × ω) (questions : List Question) : KeyCache × ω :=
  questions.foldl (fun state q => ((q.ask fetch).run state).2) state

section Extends
variable {ω' : Type} {fetch : Int64 → KeyFetch ω} {fetch' : Int64 → KeyFetch ω'} {part : ω' → ω}

theorem ask_extends (h : ∀ now, (fetch' now).Extends part (fetch now)) (q : Question) (state : KeyCache × ω') :
    (q.ask fetch).run (state.1, part state.2) =
      (((q.ask fetch').run state).1, ((q.ask fetch').run state).2.1, part ((q.ask fetch').run state).2.2) :=
  run_verify_extends (h q.now)

theorem askAll_extends (h : ∀ now, (fetch' now).Extends part (fetch now)) (questions : List Question)
    (state : KeyCache × ω') :
    askAll fetch (state.1, part state.2) questions =
      ((askAll fetch' state questions).1, part (askAll fetch' state questions).2) := by
  induction questions generalizing state with
  | nil => rfl
  | cons q questions ih =>
    unfold askAll
    rw [List.foldl_cons, List.foldl_cons, ask_extends h]
    exact ih _

end Extends

/-- A question was answered by the keys of a document: it is the one that was accepted last from the server of the
    account, it is still valid, and it lists the key under which the claimed signature verifies. -/
structure RestsOn (log : List SourcedRequest) (q : Question) (r : SourcedRequest) (s : SourcedDocument) : Prop where
  owner : Account.server? q.account = some q.claimed.origin
  latest : ∃ earlier later, log = earlier ++ r :: later ∧ ∀ l ∈ later, l.request.accepted? q.claimed.origin = none
  requested : r.server = q.claimed.origin
  answered : r.answer = .ok s
  named : s.document.server = q.claimed.origin
  acceptedInTime : r.madeAt < s.document.validUntil
  usedInTime : q.now < s.document.validUntil
  verifies : ∃ key, s.document.verifyKeys.get? q.claimed.keyId = some key ∧
    verifySignature key q.claimed.signature (utf8 q.payload) = true

variable {log : List SourcedRequest} {q : Question}

theorem proves_iff_exists_restsOn :
    Proves (log.map SourcedRequest.request) q.account q.claimed q.payload q.now ↔ ∃ r s, RestsOn log q r s := by
  constructor
  · rintro ⟨owner, ⟨document, _⟩, key, hlast, usedInTime, listed, verified⟩
    obtain ⟨earlier, request, later, hlog, haccepted, hlater⟩ := lastAccepted?_eq_some.mp hlast
    obtain ⟨earlier, rest, rfl, rfl, hrest⟩ := List.map_eq_append_iff.mp hlog
    obtain ⟨r, later, rfl, rfl, rfl⟩ := List.map_eq_cons_iff.mp hrest
    obtain ⟨fetched, requested, named, inTime, -⟩ := KeyRequest.accepted?_eq_some.mp haccepted
    obtain ⟨s, answered, rfl⟩ := SourcedRequest.request_answer_ok.mp fetched
    exact ⟨r, s, owner, ⟨earlier, later, rfl, List.forall_mem_map.mp hlater⟩, requested, answered, named, inTime,
      usedInTime, key, listed, verified⟩
  · rintro ⟨r, s, owner, ⟨earlier, later, rfl, hlater⟩, requested, answered, named, inTime, usedInTime, key, listed,
      verified⟩
    refine ⟨owner, ⟨s.document, r.madeAt⟩, key, ?_, usedInTime, listed, verified⟩
    rw [List.map_append, List.map_cons]
    refine lastAccepted?_eq_some.mpr ⟨_, r.request, _, rfl, ?_, List.forall_mem_map.mpr hlater⟩
    have document := SourcedRequest.request_answer_ok.mpr ⟨s, answered, rfl⟩
    exact KeyRequest.accepted?_eq_some.mpr ⟨document, requested, named, inTime, rfl⟩

/-! ### Runs -/

/-- What a log of requests says of a state: the cache holds what was accepted last, and of all that was answered it is
    known how it was checked. -/
structure Logged (client : Client) (state : KeyCache × List SourcedRequest × DiscoveryCache × ω) : Prop where
  caches : Caches state.1 (state.2.1.map SourcedRequest.request)
  checked : ∀ r ∈ state.2.1, ∀ s, r.answer = .ok s → client.Checked r.server s

variable {client : Client} {net : Network ω} {state : KeyCache × List SourcedRequest × DiscoveryCache × ω}

theorem logged_start (known : DiscoveryCache) (world : ω) : Logged client (.empty, [], known, world) where
  caches := caches_empty
  checked := nofun

theorem Logged.checked_ask (h : Logged client state) (net : Network ω) (q : Question) :
    ∀ r ∈ ((q.ask (client.sourcedFetch net)).run state).2.2.1, ∀ s, r.answer = .ok s → client.Checked r.server s := by
  have fetched : ((q.ask (client.sourcedFetch net)).run state).2.2 = state.2 ∨
      ((q.ask (client.sourcedFetch net)).run state).2.2 =
        ((client.sourcedFetch net q.now q.claimed.origin).run state.2).2 :=
    run_verify_world
  rcases fetched with same | fetched
  · rw [same]
    exact h.checked
  · rw [fetched, Client.run_sourcedFetch]
    intro r hr s hs
    rcases List.mem_append.mp hr with hr | hr
    · exact h.checked r hr s hs
    · cases List.mem_singleton.mp hr
      exact Client.yields_fetchSourced _ _ hs

/-- A question keeps what is logged, and its answer is yes if and only if it rests on a document. -/
theorem Logged.ask (h : Logged client state) (net : Network ω) (q : Question) :
    Logged client ((q.ask (client.sourcedFetch net)).run state).2 ∧
    (((q.ask (client.sourcedFetch net)).run state).1 = true ↔
      ∃ r s, RestsOn ((q.ask (client.sourcedFetch net)).run state).2.2.1 q r s) := by
  have checked := h.checked_ask net q
  obtain ⟨proven, cache, requests, world, hrun, caches, hproven⟩ :=
    h.caches.verify (client.keyFetch net) q.account q.claimed q.payload q.now state.2.2
  have seen := ask_extends (client.recorded_sourcedFetch net) q state
  rw [show (q.ask _).run _ = _ from hrun] at seen
  generalize (q.ask (client.sourcedFetch net)).run state = result at checked seen
  obtain ⟨approved, cache', log, world'⟩ := result
  cases seen
  exact ⟨⟨caches, checked⟩, hproven.trans proves_iff_exists_restsOn⟩

theorem Logged.askAll (h : Logged client state) (net : Network ω) (questions : List Question) :
    Logged client (Question.askAll (client.sourcedFetch net) state questions) := by
  induction questions generalizing state with
  | nil => exact h
  | cons q questions ih => exact ih (h.ask net q).1

/-- Whatever a network answers, to whichever policy, and whatever was asked before: ownership of an account is affirmed
    if and only if the document of its server that was accepted last is still valid and lists a key under which the
    claimed signature verifies. That document was checked, and by its notary if there is one, and it was valid when it
    came. If a document that is relied on had expired by then, it is the notary's own. -/
theorem approvals_rest_on_documents (client : Client) (net : Network ω) (known : DiscoveryCache) (world : ω)
    (questions : List Question) (q : Question) :
    let fetch := client.sourcedFetch net
    let after := (q.ask fetch).run (Question.askAll fetch (.empty, [], known, world) questions)
    let owns := q.ask fun _ => client.keyFetch net
    (owns.run (Question.askAll (fun _ => client.keyFetch net) (.empty, known, world) questions)).1 = after.1 ∧
    (after.1 = true ↔ ∃ r s, RestsOn after.2.2.1 q r s) ∧
    ∀ r s, RestsOn after.2.2.1 q r s →
      client.Checked r.server s ∧ ∀ d ∈ s.reliedOn, d.validUntil ≤ r.madeAt → s.notary = some d := by
  intro fetch after owns
  have before : Logged client (Question.askAll fetch (.empty, [], known, world) questions) :=
    (logged_start known world).askAll net questions
  obtain ⟨logged, approved⟩ := before.ask net q
  refine ⟨?_, approved, fun r s rests => ⟨?_, ?_⟩⟩
  · have unlogged := askAll_extends (client.extends_sourcedFetch net) questions (.empty, [], known, world)
    exact congrArg Prod.fst ((congrArg owns.run unlogged).trans (ask_extends (client.extends_sourcedFetch net) q _))
  · obtain ⟨earlier, later, hlog, -⟩ := rests.latest
    refine logged.checked r ?_ s rests.answered
    rw [hlog]
    exact List.mem_append_cons_self
  · intro d hd expired
    rcases List.mem_cons.mp hd with rfl | hd
    · exact absurd rests.acceptedInTime (Int64.not_lt.mpr expired)
    · exact Option.mem_toList.mp hd

theorem ask_unknown {fetch : Int64 → KeyFetch ω} {q : Question} {known known' : ω} {document : KeyDocument} {key : String}
    (owner : Account.server? q.account = some q.claimed.origin)
    (sent : (fetch q.now q.claimed.origin).run known = (.ok document, known'))
    (named : document.server = q.claimed.origin) (valid : q.now < document.validUntil)
    (listed : document.verifyKeys.get? q.claimed.keyId = some key)
    (signed : verifySignature key q.claimed.signature (utf8 q.payload) = true) :
    (q.ask fetch).run (.empty, known) =
      (true, .insert .empty q.claimed.origin ⟨document.verifyKeys, document.validUntil, q.now⟩, known') := by
  have stale : lookup .empty q.claimed.origin q.claimed.keyId q.now = .stale := rfl
  unfold ask
  rw [run_verify owner, run_publicKey, stale]
  dsimp only
  rw [sent]
  dsimp only
  rw [if_pos (isUsable_iff.mpr ⟨named, valid⟩), listed]
  dsimp only
  rw [signed]

omit [SignatureScheme] in
/-- The keys of a notary had expired in 1970, and still they prove who owns an account. -/
theorem expired_notary_relied_on :
    let _ : SignatureScheme := .transparent
    let client : Client := ⟨"id.example.org", .notary, some "n.org:1"⟩
    let ring : KeyRing := ⟨.zeros, .empty, .empty⟩
    let own := ring.document "n.org:1" (-KeyRing.documentLifetime)
    let vouched := (SignedJson.sign ring.current "n.org:1" (ring.document "a.org:1" 5).toJson).toOption.getD .null
    let net : Network Unit :=
      { send r := pure (.answered 200 (if r.url = "https://n.org:1/_matrix/key/v2/server" then own.toJson.canonical
          else (Json.obj [("server_keys", .arr [vouched])]).canonical))
        uptime _ := 0 }
    let q : Question := ⟨"@john:a.org:1", ⟨"a.org:1", "ed25519:0", ring.current.sign (utf8 "x")⟩, "x", 5⟩
    let after := (q.ask (client.sourcedFetch net)).run (.empty, [], .empty, ())
    after.1 = true ∧ ∃ r s, RestsOn after.2.2.1 q r s ∧ ∃ d ∈ s.reliedOn, d.validUntil ≤ r.madeAt := by
  intro scheme client ring own vouched net q after
  have known : StateT.run (Discovery.resolve net "n.org:1").run (.empty, ()) =
      (.ok "https://n.org:1", .single "n.org:1" ⟨"https://n.org:1", 0⟩, ()) := by
    rfl
  have known' : StateT.run (Discovery.resolve net "n.org:1").run (.single "n.org:1" ⟨"https://n.org:1", 0⟩, ()) =
      (.ok "https://n.org:1", .single "n.org:1" ⟨"https://n.org:1", 0⟩, ()) := by
    rfl
  have fetched : StateT.run (Client.fetchDirect net "n.org:1").run (.empty, ()) =
      (.ok own, .single "n.org:1" ⟨"https://n.org:1", 0⟩, ()) := by
    refine Client.run_fetchDirect_ok known ?_ own.parse_canonical
      (ring.checkKeyDocument_own _ _ SignatureScheme.transparent_lawful)
    exact Prod.ext (congrArg (HttpOutcome.answered 200) (if_pos (by decide))) rfl
  have answered : (net.send (.get ("https://n.org:1" ++ Client.queryPath "a.org:1"))).run () =
      (.answered 200 (Json.obj [("server_keys", .arr [vouched])]).canonical, ()) :=
    Prod.ext (congrArg (HttpOutcome.answered 200) (if_neg (by decide +kernel))) rfl
  let suits (d : KeyDocument) : Bool :=
    d.server = "a.org:1" ∧ 5 < d.validUntil ∧ d.verifyKeys.get? "ed25519:0" = some ring.current.publicKey
  have vouches : ((Client.notaryValues? (Json.obj [("server_keys", .arr [vouched])]).canonical).bind fun raws =>
      (notaryDocument "n.org:1" "a.org:1" own.verifyKeys raws).toOption).any suits = true := by
    rw [Client.notaryValues?, Json.Source.ofBody, Json.Source.read, Json.canonical, String.toList_ofList,
      String.length_ofList]
    decide +kernel +zetaReduce
  obtain ⟨document, hdocument, suitable⟩ := (Option.any_eq_true ..).mp vouches
  obtain ⟨raws, hraws, hdocument⟩ := Option.bind_eq_some_iff.mp hdocument
  obtain ⟨named, valid, listed⟩ := of_decide_eq_true suitable
  have policy : client.notaryFor? "a.org:1" = some "n.org:1" := rfl
  have sourced := Client.run_fetchSourced_vouched policy fetched known' answered hraws (toOption_eq_some.mp hdocument)
  let r : SourcedRequest := ⟨"a.org:1", 5, .ok ⟨document, some own⟩⟩
  have owner : Account.server? q.account = some q.claimed.origin := by decide
  have signed : verifySignature ring.current.publicKey q.claimed.signature (utf8 q.payload) = true :=
    SignedJson.verifySignature_sign SignatureScheme.transparent_lawful ring.current _
  have sent : (client.sourcedFetch net 5 q.claimed.origin).run ([], .empty, ()) =
      (.ok document, [r], .single "n.org:1" ⟨"https://n.org:1", 0⟩, ()) := by
    rw [Client.run_sourcedFetch]
    show _ = (Except.map SourcedDocument.document (.ok ⟨document, some own⟩), _, _)
    rw [sourced]
    rfl
  have asked : after = (true, Dictionary.empty.insert "a.org:1" ⟨document.verifyKeys, document.validUntil, 5⟩, [r],
      .single "n.org:1" ⟨"https://n.org:1", 0⟩, ()) :=
    ask_unknown owner sent named valid listed signed
  rw [asked]
  refine ⟨rfl, r, ⟨document, some own⟩, ⟨owner, ⟨[], [], rfl, List.forall_mem_nil _⟩, rfl, rfl, named, valid, valid,
    _, listed, signed⟩, own, List.mem_cons_of_mem _ List.mem_cons_self, ?_⟩
  have expired : -KeyRing.documentLifetime + KeyRing.documentLifetime ≤ 5 := by decide
  exact expired

end Question
end Ownership
end IdentityServer
