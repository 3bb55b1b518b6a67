import IdentityServer.Proofs.Federation.Header
import IdentityServer.Proofs.Json.CanonicalForm
import IdentityServer.Proofs.Outcome
import IdentityServer.Proofs.Signing.SignedMessages
import IdentityServer.Service.Remote

/-! # Requests to other servers

Notices and batches are sent in signed requests. The signature is made over a value, and what travels is the text of
that value and a header. From these the other side puts the signed text together again, and finds the signature valid. -/

namespace IdentityServer
variable {ω α β : Type}

/-! ### What is sent -/

/-- The network, which also remembers the requests. -/
def Network.recorded (net : Network ω) : Network (List HttpRequest × ω) where
  send r := do
    let outcome ← onSecond (net.send r)
    modify fun world => (world.1 ++ [r], world.2)
    return outcome
  uptime world := net.uptime world.2

namespace Exchange

/-- What an exchange answers, and which requests it sends. -/
def Sends (exchange : Exchange (List HttpRequest × ω) α) (Q : Except FederationError α → List HttpRequest → Prop) :
    Prop :=
  ∀ known sent world, ∃ answer known' new world',
    StateT.run exchange.run (known, sent, world) = (answer, known', sent ++ new, world') ∧ Q answer new

variable {exchange : Exchange (List HttpRequest × ω) α} {Q : Except FederationError α → List HttpRequest → Prop}
  {R : Except FederationError β → List HttpRequest → Prop} {net : Network ω} {server : String}

theorem Sends.bind {next : α → Exchange (List HttpRequest × ω) β} (h : exchange.Sends Q)
    (failed : ∀ e new, Q (.error e) new → R (.error e) new)
    (continued : ∀ a new, Q (.ok a) new → (next a).Sends fun answer more => R answer (new ++ more)) :
    (exchange >>= next).Sends R := by
  intro known sent world
  obtain ⟨e | a, known', new, world', hrun, hnew⟩ := h known sent world
  · exact ⟨.error e, known', new, world', by rw [run_bind, hrun], failed e new hnew⟩
  · obtain ⟨answer, known'', more, world'', hmore, hall⟩ := continued a new hnew known' (sent ++ new) world'
    refine ⟨answer, known'', new ++ more, world'', ?_, hall⟩
    rw [run_bind_ok hrun, hmore, List.append_assoc]

theorem sends_throw {e : FederationError} (h : Q (.error e) []) :
    (throw e : Exchange (List HttpRequest × ω) α).Sends Q :=
  fun known sent world => ⟨.error e, known, [], world, by rw [List.append_nil]; rfl, h⟩

theorem sends_lift {answer : Except FederationError α} (h : Q answer []) :
    (liftM answer : Exchange (List HttpRequest × ω) α).Sends Q :=
  fun known sent world => ⟨answer, known, [], world, by rw [List.append_nil]; rfl, h⟩

theorem sends_pure {a : α} (h : Q (.ok a) []) : (pure a : Exchange (List HttpRequest × ω) α).Sends Q :=
  fun known sent world => ⟨.ok a, known, [], world, by rw [List.append_nil]; rfl, h⟩

theorem sends_request (r : HttpRequest) : (request net.recorded server r).Sends fun _ new => new = [r] :=
  fun _ _ _ => ⟨_, _, _, _, rfl, rfl⟩

theorem run_lookup_recorded (net : Network ω) (server : String) (sent : List HttpRequest) (world : ω) :
    ∃ baseUrl new world', (Discovery.lookup net.recorded server).run (sent, world) = (baseUrl, sent ++ new, world') ∧
      ∀ r ∈ new, r.method = "GET" := by
  unfold Discovery.lookup
  split
  · exact ⟨_, [], world, by rw [List.append_nil]; rfl, List.forall_mem_nil _⟩
  · refine ⟨_, [.get (Discovery.wellKnownUrl server)], _, rfl, fun r hr => ?_⟩
    rw [List.mem_singleton.mp hr]
    rfl

theorem sends_resolve : Sends (Discovery.resolve net.recorded server) fun _ new => ∀ r ∈ new, r.method = "GET" := by
  intro known sent world
  unfold Discovery.resolve
  split
  · exact ⟨.error _, known, [], world, by rw [List.append_nil]; rfl, List.forall_mem_nil _⟩
  · let state : Exchange (List HttpRequest × ω) (DiscoveryCache × List HttpRequest × ω) := get
    have current : StateT.run state.run (known, sent, world) = (.ok (known, sent, world), known, sent, world) := rfl
    dsimp only
    rw [run_bind_ok current]
    dsimp only
    cases Discovery.cached? known server (net.recorded.uptime (sent, world)) with
    | some baseUrl => exact ⟨.ok baseUrl, known, [], world, by rw [List.append_nil]; rfl, List.forall_mem_nil _⟩
    | none =>
      obtain ⟨baseUrl, new, world', hrun, hnew⟩ := run_lookup_recorded net server sent world
      dsimp only
      rw [show StateT.run (Discovery.lookup net.recorded server) (known, sent, world).2 = _ from hrun]
      exact ⟨.ok baseUrl, _, new, world', rfl, hnew⟩

theorem run_forgettingOnFailure (exchange : Exchange ω α) (s : DiscoveryCache × ω) :
    StateT.run (Client.forgettingOnFailure server exchange).run s =
      match StateT.run exchange.run s with
      | (.ok a, t) => (.ok a, t)
      | (.error e, t) => (.error e, t.1.erase server, t.2) := by
  unfold Client.forgettingOnFailure
  simp only [tryCatch, tryCatchThe, MonadExceptOf.tryCatch, ExceptT.tryCatch, ExceptT.run_mk, StateT.run_bind]
  change (StateT.run (ExceptT.run exchange) s >>= _) = _
  rcases StateT.run (ExceptT.run exchange) s with ⟨e | a, t⟩ <;> rfl

theorem Sends.forgettingOnFailure (h : exchange.Sends Q) (server : String) :
    (Client.forgettingOnFailure server exchange).Sends Q := by
  intro known sent world
  obtain ⟨e | a, known', new, world', hrun, hnew⟩ := h known sent world
  · exact ⟨.error e, known'.erase server, new, world', by rw [run_forgettingOnFailure, hrun], hnew⟩
  · exact ⟨.ok a, known', new, world', by rw [run_forgettingOnFailure, hrun], hnew⟩

end Exchange

/-! ### Values that arrive -/

namespace Json

/-- Values that are read back from their canonical text, with at most `n` brackets inside one another. -/
def ReadableWithin (n : Nat) (v : Json) : Prop :=
  v.Readable ∧ v.depth ≤ n

variable {n : Nat} {v : Json}

theorem ReadableWithin.parse (h : v.ReadableWithin depthLimit) : parse v.canonical = some v :=
  parse_canonical h.1 h.2

theorem IsPlain.readableWithin (h : v.IsPlain) : v.ReadableWithin n :=
  ⟨h.readable, h.depth_eq ▸ Nat.zero_le n⟩

theorem readableWithin_bool (b : Bool) : (bool b).ReadableWithin n :=
  ⟨trivial, Nat.zero_le n⟩

theorem readableWithin_obj {fields : Fields Json} (ordered : fields.Ordered)
    (h : ∀ field ∈ fields, field.2.ReadableWithin n) : (obj fields).ReadableWithin (n + 1) :=
  ⟨⟨ordered, fieldsReadable_iff.mpr fun field hfield => (h field hfield).1⟩,
    Nat.succ_le_succ (fieldsDepth_le_iff.mpr fun field hfield => (h field hfield).2)⟩

theorem readableWithin_ofFields {pairs : List (String × Json)} (h : ∀ pair ∈ pairs, pair.2.ReadableWithin n) :
    (ofFields pairs).ReadableWithin (n + 1) :=
  readableWithin_obj (Fields.ordered_ofList pairs) fun field hfield => h field (Fields.mem_ofList hfield)

theorem readableWithin_arr {items : List Json} (h : ∀ item ∈ items, item.ReadableWithin n) :
    (arr items).ReadableWithin (n + 1) := by
  suffices ItemsReadable items ∧ itemsDepth items ≤ n from ⟨this.1, Nat.succ_le_succ this.2⟩
  induction items with
  | nil => exact ⟨trivial, Nat.zero_le n⟩
  | cons item items ih =>
    obtain ⟨first, rest⟩ := List.forall_mem_cons.mp h
    exact ⟨⟨first.1, (ih rest).1⟩, Nat.max_le.mpr ⟨first.2, (ih rest).2⟩⟩

end Json

/-- Values of records that can be read back from the text of their batch: doubles are read as they were, and the brackets
    of the batch leave room for those of the value. -/
structure ReplicatedRecord.Readable (r : ReplicatedRecord) : Prop where
  wellFormed : r.signed.WellFormed
  rereads : ∀ x ∈ r.signed.floats, Json.Rereads x
  room : r.signed.depth + 3 ≤ Json.depthLimit

open Json

theorem ReplicatedRecord.Readable.toJson {r : ReplicatedRecord} (h : r.Readable) : r.toJson.ReadableWithin 125 := by
  have signed : r.signed.ReadableWithin 124 :=
    ⟨readable_of_rereads r.signed h.wellFormed h.rereads, Nat.le_of_add_le_add_right h.room⟩
  exact readableWithin_ofFields (by simp [signed, (IsPlain.word r.sequence).readableWithin, readableWithin_bool])

theorem ReplicationBatch.readable_toJson {batch : ReplicationBatch} (h : ∀ r ∈ batch.records, r.Readable) :
    batch.toJson.ReadableWithin depthLimit := by
  have records : (arr (batch.records.map (·.toJson))).ReadableWithin 126 :=
    readableWithin_arr (List.forall_mem_map.mpr fun r hr => (h r hr).toJson)
  refine readableWithin_obj (Fields.ordered_of_keys ["origin", "records"] (by decide) rfl) ?_
  simp [records, (IsPlain.text batch.origin).readableWithin]

/-! ### Notices -/

namespace InviteNotice
variable [SignatureScheme] (n : InviteNotice) (key : KeyPair) (server : String)

/-- What a notice states of its invite. -/
def signedFields : Fields Json :=
  SignedJson.signedFields key server [("mxid", .str n.account), ("token", .str n.token)]

theorem sign_noticeClaim : SignedJson.sign key server (Client.noticeClaim n) = .ok (.obj (n.signedFields key server)) :=
  SignedJson.sign_unsigned key server rfl

theorem readableWithin_signedFields : (obj (n.signedFields key server)).ReadableWithin 3 := by
  have covered : ∀ field ∈ [("mxid", Json.str n.account), ("token", .str n.token)], field.2.ReadableWithin 2 := by
    simp [(IsPlain.text _).readableWithin]
  have ordered : Fields.Ordered [("mxid", Json.str n.account), ("token", .str n.token)] :=
    Fields.ordered_of_keys ["mxid", "token"] (by decide) rfl
  refine readableWithin_obj (Fields.ordered_insert ordered) fun field hfield => ?_
  rcases Fields.mem_insert hfield with rfl | hfield
  · exact ⟨⟨List.pairwise_singleton .., ⟨List.pairwise_singleton .., trivial, trivial⟩, trivial⟩, Nat.le_refl 2⟩
  · exact covered field hfield

/-- The invite in the body of a notice. -/
def inviteToJson : Json :=
  .ofFields [("medium", .str n.medium.name), ("address", .str n.address), ("mxid", .str n.account),
    ("room_id", .str n.room), ("sender", .str n.sender), ("token", .str n.token),
    ("signed", .obj (n.signedFields key server))]

theorem noticeBody_eq : Client.noticeBody n (.obj (n.signedFields key server)) =
    .ofFields [("medium", .str n.medium.name), ("address", .str n.address), ("mxid", .str n.account),
      ("invites", .arr [n.inviteToJson key server])] :=
  rfl

theorem readableWithin_noticeBody :
    (Client.noticeBody n (.obj (n.signedFields key server))).ReadableWithin depthLimit := by
  have text (m : Nat) (s : String) : (Json.str s).ReadableWithin m := (IsPlain.text s).readableWithin
  have invite : (n.inviteToJson key server).ReadableWithin 4 :=
    readableWithin_ofFields (by simp [text, readableWithin_signedFields])
  have invites := readableWithin_arr (List.forall_mem_singleton.mpr invite)
  have body : (Client.noticeBody n (.obj (n.signedFields key server))).ReadableWithin 6 := by
    rw [noticeBody_eq]
    exact readableWithin_ofFields (by simp [text, invites])
  exact ⟨body.1, body.2.trans (by decide)⟩

/-- A body states an invite with the account and the token that a key has signed, and nothing else is signed. -/
def SignedIn (body : Json) : Prop :=
  ∃ (invite : Json) (fields : Fields Json), body.field? "invites" = some (.arr [invite]) ∧
    invite.field? "signed" = some (.obj fields) ∧
    Fields.erase "signatures" fields = [("mxid", .str n.account), ("token", .str n.token)] ∧
    ∀ keyFor, keyFor key.id = some key.publicKey → SignedJson.verify (.obj fields) server keyFor = .ok ()

theorem signedIn_noticeBody (lawful : SignatureScheme.Lawful) :
    n.SignedIn key server (Client.noticeBody n (.obj (n.signedFields key server))) := by
  refine ⟨n.inviteToJson key server, n.signedFields key server, ?_, ?_, ?_, fun _ =>
    SignedJson.verify_signedFields lawful⟩
  · simp [noticeBody_eq, Json.field?, Json.ofFields, Fields.ofList, Fields.get?_insert]
  · simp [inviteToJson, Json.field?, Json.ofFields, Fields.ofList, Fields.get?_insert]
  · exact (Fields.erase_insert ..).trans (by simp [Fields.erase])

end InviteNotice

/-! ### Requests that verify -/

/-- The requests that carry content. -/
def posts (requests : List HttpRequest) : List HttpRequest :=
  requests.filter (·.method = "POST")

theorem posts_eq_nil {requests : List HttpRequest} (gets : ∀ r ∈ requests, r.method = "GET") : posts requests = [] := by
  refine List.filter_eq_nil_iff.mpr fun r hr => ?_
  rw [gets r hr]
  decide

theorem posts_append (front back : List HttpRequest) : posts (front ++ back) = posts front ++ posts back :=
  List.filter_append ..

/-- The text of the content. -/
def HttpRequest.bodyText? (r : HttpRequest) : Option String :=
  r.body.map Json.canonical

/-- The other side reads a body from the content and a claim of a key from the header, and the claim is one for the
    request with this body. -/
structure HttpRequest.Verifies [SignatureScheme] (r : HttpRequest) (key : KeyPair) (origin destination uri : String)
    (body : Json) : Prop where
  method : r.method = "POST"
  url : ∃ baseUrl, r.url = baseUrl ++ uri
  parsed : r.bodyText?.bind Json.parse = some body
  claimed : ∃ header signature, r.authorization = some header ∧
    ClaimedSignature.ofHeader header = .ok ⟨origin, key.id, signature⟩ ∧
    verifySignature key.publicKey signature
      (utf8 (SignedRequest.signedText ⟨origin, destination, "POST", uri, some body⟩)) = true

namespace Client
variable [SignatureScheme] (client : Client) (key : KeyPair) (destination baseUrl uri : String) (content : Json)

/-- The signed request for a path of a server. -/
def postTo : HttpRequest :=
  .post (String.ofList (Text.dropTail (· = '/') baseUrl.toList) ++ uri)
    (SignedRequest.sign key ⟨client.serverName, destination, "POST", uri, some content⟩).toHeader content

theorem sends_signedPost (net : Network ω) :
    (client.signedPost net.recorded key destination baseUrl uri content).Sends fun _ new =>
      new = [client.postTo key destination baseUrl uri content] :=
  Exchange.sends_request _

theorem bodyText?_postTo : (client.postTo key destination baseUrl uri content).bodyText? = some content.canonical :=
  rfl

variable {client content} in
theorem verifies_postTo (lawful : SignatureScheme.Lawful) (plain : ',' ∉ client.serverName.toList)
    (readable : content.ReadableWithin depthLimit) :
    (client.postTo key destination baseUrl uri content).Verifies key client.serverName destination uri content where
  method := rfl
  url := ⟨_, rfl⟩
  parsed := readable.parse
  claimed := by
    refine ⟨_, _, rfl, ClaimedSignature.ofHeader_toHeader plain (ClaimedSignature.comma_not_mem_id key)
      (ClaimedSignature.comma_not_mem_encode _), ?_⟩
    exact SignedJson.verifySignature_sign lawful key _

/-- The request that tells a server about an invite. -/
def noticeTo (n : InviteNotice) : HttpRequest :=
  client.postTo key destination baseUrl noticePath (noticeBody n (.obj (n.signedFields key client.serverName)))

/-- A notice is sent in one request, or there is an error before it is sent. -/
theorem sends_deliver (net : Network ω) (n : InviteNotice) :
    (client.deliver net.recorded key n).Sends fun answer new =>
      (∃ e, answer = .error e ∧ posts new = []) ∨
      ∃ destination baseUrl, Account.server n.account = .ok destination ∧
        posts new = [client.noticeTo key destination baseUrl n] := by
  unfold deliver
  cases Account.server n.account with
  | error fault => exact Exchange.sends_throw (.inl ⟨_, rfl, rfl⟩)
  | ok destination =>
    rw [n.sign_noticeClaim key client.serverName]
    refine Exchange.sends_resolve.bind ?_ ?_
    · intro e new gets
      exact .inl ⟨e, rfl, posts_eq_nil gets⟩
    · intro baseUrl new gets
      have once : posts (new ++ [client.noticeTo key destination baseUrl n]) =
          [client.noticeTo key destination baseUrl n] := by
        rw [posts_append, posts_eq_nil gets]
        rfl
      refine ((client.sends_signedPost key destination baseUrl noticePath _ net).forgettingOnFailure destination).bind
        ?_ ?_
      · rintro e _ rfl
        exact .inr ⟨destination, baseUrl, rfl, once⟩
      · rintro _ _ rfl
        refine Exchange.sends_pure (.inr ⟨destination, baseUrl, rfl, ?_⟩)
        rw [List.append_nil]
        exact once

theorem sends_push (net : Network ω) (peer : Peer) (batch : ReplicationBatch) :
    (client.push net.recorded key peer batch).Sends fun _ new =>
      new = [client.postTo key peer.name peer.endpoint pushPath batch.toJson] := by
  refine (client.sends_signedPost key peer.name peer.endpoint pushPath batch.toJson net).bind (fun _ _ sent => sent) ?_
  rintro body _ rfl
  exact Exchange.sends_lift rfl

end Client

/-- What an exchange answers over a network, and the requests that it sends. -/
def Exchange.outcome (exchange : Exchange (List HttpRequest × ω) α) (known : DiscoveryCache) (world : ω) :
    Except FederationError α × List HttpRequest :=
  let (answer, _, sent, _) := StateT.run exchange.run (known, [], world)
  (answer, sent)

theorem Exchange.Sends.outcome {exchange : Exchange (List HttpRequest × ω) α}
    {Q : Except FederationError α → List HttpRequest → Prop} (h : exchange.Sends Q) (known : DiscoveryCache) (world : ω) :
    Q (exchange.outcome known world).1 (exchange.outcome known world).2 := by
  obtain ⟨answer, known', new, world', hrun, hnew⟩ := h known [] world
  rw [Exchange.outcome, hrun]
  exact hnew

/-- Whatever comes back: a notice is sent in one request or fails before, a batch is sent in one request, and the other
    side can verify both from their header and content, with the destination's name and the path that it knows. In the
    body of a notice, the account and the token of the invite are signed as well. For batches, the values of the records
    have to be such that they can be read back. -/
theorem requests_verify [SignatureScheme] (lawful : SignatureScheme.Lawful) (client : Client)
    (plain : ',' ∉ client.serverName.toList) (net : Network ω) (key : KeyPair) (known : DiscoveryCache) (world : ω) :
    (∀ n : InviteNotice,
      let notice := (client.deliver net.recorded key n).outcome known world
      (notice.1 = .ok () → posts notice.2 ≠ []) ∧ (posts notice.2).length ≤ 1 ∧
      ∀ r ∈ posts notice.2, ∃ destination body, Account.server n.account = .ok destination ∧
        r.Verifies key client.serverName destination Client.noticePath body ∧ n.SignedIn key client.serverName body) ∧
    ∀ (peer : Peer) (batch : ReplicationBatch),
      ∃ r, ((client.push net.recorded key peer batch).outcome known world).2 = [r] ∧
        ((∀ record ∈ batch.records, record.Readable) →
          r.Verifies key client.serverName peer.name Client.pushPath batch.toJson) := by
  refine ⟨fun n => ?_, fun peer batch => ?_⟩
  · intro notice
    obtain ⟨e, failed, none⟩ | ⟨destination, baseUrl, owner, once⟩ :=
      (client.sends_deliver key net n).outcome known world
    · rw [show posts notice.2 = [] from none]
      exact ⟨fun sent => (nomatch failed.symm.trans sent), Nat.zero_le 1, nofun⟩
    · rw [show posts notice.2 = _ from once]
      have verifies := Client.verifies_postTo key destination baseUrl Client.noticePath lawful plain
        (n.readableWithin_noticeBody key client.serverName)
      have signedIn := n.signedIn_noticeBody key client.serverName lawful
      exact ⟨fun _ => nofun, Nat.le_refl 1, List.forall_mem_singleton.mpr ⟨destination, _, owner, verifies, signedIn⟩⟩
  · refine ⟨_, (client.sends_push key net peer batch).outcome known world, fun readable => ?_⟩
    exact Client.verifies_postTo key peer.name peer.endpoint _ lawful plain (ReplicationBatch.readable_toJson readable)

/-- A notice to a server with a port, and a batch with a double and a letter outside of ASCII. -/
theorem requests_verify_sent :
    let _ : SignatureScheme := .transparent
    let client : Client := ⟨"id.example.org", .direct, none⟩
    let net : Network Unit := { send _ := pure (.answered 200 "null"), uptime _ := 0 }
    let n : InviteNotice := ⟨.email, "john@example.com", "@john:a.org:1", "!room:a.org", "@jane:a.org", "secret"⟩
    let peer : Peer := ⟨"b.org", "https://b.org:1/", ""⟩
    let batch : ReplicationBatch := ⟨"id.example.org", [⟨1, false, .arr [.float ⟨0x3fe0000000000000⟩, .str "é"]⟩]⟩
    ',' ∉ client.serverName.toList ∧ (∀ record ∈ batch.records, record.Readable) ∧
    (∃ r body, posts ((client.deliver net.recorded .zeros n).outcome .empty ()).2 = [r] ∧
      r.Verifies .zeros "id.example.org" "a.org:1" Client.noticePath body ∧ n.SignedIn .zeros "id.example.org" body) ∧
    ∃ r, ((client.push net.recorded .zeros peer batch).outcome .empty ()).2 = [r] ∧
      r.Verifies .zeros "id.example.org" "b.org" Client.pushPath batch.toJson := by
  intro scheme client net n peer batch
  have plain : ',' ∉ client.serverName.toList := by decide
  have readable : ∀ record ∈ batch.records, record.Readable := by
    have finite : (⟨0x3fe0000000000000⟩ : Binary64).isFinite = true := by decide
    have reread : Json.Rereads ⟨0x3fe0000000000000⟩ := by decide +kernel
    exact List.forall_mem_singleton.mpr
      ⟨⟨finite, trivial, trivial⟩, List.forall_mem_singleton.mpr reread, by decide⟩
  obtain ⟨notices, batches⟩ := requests_verify SignatureScheme.transparent_lawful client plain net .zeros .empty ()
  obtain ⟨-, -, verifies⟩ := notices n
  have single : (posts ((client.deliver net.recorded .zeros n).outcome .empty ()).2).length = 1 := by
    decide +kernel +zetaReduce
  obtain ⟨r, hr⟩ := List.length_eq_one_iff.mp single
  obtain ⟨destination, body, owner, hverifies, hsigned⟩ := verifies r (hr ▸ List.mem_singleton_self r)
  have server : Account.server? n.account = some "a.org:1" := by decide
  have named : Account.server n.account = .ok "a.org:1" := by
    rw [Account.server, server]
  cases named.symm.trans owner
  obtain ⟨s, hs, hbatch⟩ := batches peer batch
  exact ⟨plain, readable, ⟨r, body, hr, hverifies, hsigned⟩, s, hs, hbatch readable⟩

/-- A value that is read by itself, and not any more with the brackets of a batch around it. -/
theorem deep_batch_unreadable :
    let _ : SignatureScheme := .transparent
    let client : Client := ⟨"id.example.org", .direct, none⟩
    let net : Network Unit := { send _ := pure (.answered 200 "null"), uptime _ := 0 }
    let peer : Peer := ⟨"b.org", "https://b.org:1/", ""⟩
    let deep : Json := (fun v => .arr [v])^[125] .null
    let batch : ReplicationBatch := ⟨"id.example.org", [⟨1, false, deep⟩]⟩
    (Json.parse deep.canonical).isSome = true ∧
    ∃ r, ((client.push net.recorded .zeros peer batch).outcome .empty ()).2 = [r] ∧ r.bodyText?.bind Json.parse = none := by
  intro scheme client net peer deep batch
  refine ⟨?_, _, (client.sends_push .zeros net peer batch).outcome .empty (), ?_⟩
  · rw [Json.parse, Json.Source.read, Json.canonical, String.toList_ofList]
    decide +kernel +zetaReduce
  · rw [Client.bodyText?_postTo, Option.bind_some, Json.parse, Json.Source.read, Json.canonical, String.toList_ofList]
    decide +kernel +zetaReduce

end IdentityServer
