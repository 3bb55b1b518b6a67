import IdentityServer.Proofs.Federation.Reliance

/-! # When keys are asked for

Whoever sends a signed request chooses its origin and its key id, and can so make this server ask for keys. For every
question there is at most one request, and it goes to the server of the account. A document that was accepted is not
asked for again as long as it is valid, unless it lists no key of the claimed id and came a minute ago or more. If a
request brings no document of use, what is known stays as it was. -/

namespace IdentityServer
variable {ω : Type}

/-- Two readings of a clock less than a minute apart, or the second before the first. Their difference is one of 64
    bits, as it is for all times that a calendar can tell. -/
def WithinInterval (earlier later : Int64) : Prop :=
  Int64.minValue.toInt ≤ later.toInt - earlier.toInt ∧ later.toInt - earlier.toInt < 60000

theorem WithinInterval.sub_lt {earlier later : Int64} (h : WithinInterval earlier later) :
    later - earlier < Ownership.refetchInterval := by
  obtain ⟨least, most⟩ := h
  rw [Int64.toInt_minValue] at least
  rw [Int64.lt_iff_toInt_lt, Int64.toInt_sub, Int.bmod_eq_of_le (by omega) (by omega)]
  exact most

/-- An accepted document settles a question about a key at a time: it is valid then, and it lists the key or came less
    than a minute before. -/
structure AcceptedDocument.Settles (a : AcceptedDocument) (keyId : String) (now : Int64) : Prop where
  valid : now < a.document.validUntil
  settled : (a.document.verifyKeys.get? keyId).isSome ∨ WithinInterval a.acceptedAt now

/-- A request brings no document of use: it fails, or its document names another server or is not valid any more. -/
def KeyRequest.Useless (r : KeyRequest) : Prop :=
  ∀ d, r.answer = .ok d → d.server ≠ r.server ∨ d.validUntil ≤ r.madeAt

namespace Ownership
variable {server keyId : String} {now : Int64} {cache : KeyCache} {log : List KeyRequest}

theorem lookup_ne_stale {a : AcceptedDocument} (h : Caches cache log) (latest : lastAccepted? server log = some a)
    (settles : a.Settles keyId now) : lookup cache server keyId now ≠ .stale := by
  have held : cache.get? server = some a.keys := by
    rw [h server, latest, Option.map_some]
  unfold lookup
  rw [held]
  dsimp only [AcceptedDocument.keys]
  rw [if_neg (Int64.not_le.mpr settles.valid)]
  cases listed : a.document.verifyKeys.get? keyId with
  | some key => nofun
  | none =>
    dsimp only
    rcases settles.settled with known | recent
    · rw [listed] at known
      cases known
    · rw [if_pos recent.sub_lt]
      nofun

namespace Question
variable {fetch : Int64 → KeyFetch ω} {q : Question} {world : ω}

theorem settled_of_useless [SignatureScheme] {answer : Except FederationError KeyDocument}
    (useless : KeyRequest.Useless ⟨q.claimed.origin, q.now, answer⟩) :
    settled cache q.claimed q.payload q.now answer = (false, cache) := by
  cases answer with
  | error e => rfl
  | ok d =>
    have refused : ¬isUsable q.claimed.origin q.now d = true := by
      rw [isUsable_iff]
      rintro ⟨named, valid⟩
      rcases useless d rfl with other | expired
      · exact other named
      · exact Int64.not_lt.mpr expired valid
    exact if_neg refused

/-- The fetches at all times, which remember the requests that are made. -/
def recording (fetch : Int64 → KeyFetch ω) (now : Int64) : KeyFetch (List KeyRequest × ω) :=
  (fetch now).recorded now

theorem extends_recording (fetch : Int64 → KeyFetch ω) (now : Int64) :
    (recording fetch now).Extends Prod.snd (fetch now) :=
  fun _ _ => rfl

/-- What a question may ask for, after requests that were made before, and what may come of it. -/
structure Disciplined (q : Question) (log : List KeyRequest) (cache : KeyCache) (new : List KeyRequest)
    (approved : Bool) (cache' : KeyCache) : Prop where
  once : new.length ≤ 1
  addressed : ∀ r ∈ new, r.madeAt = q.now ∧ r.server = q.claimed.origin ∧ Account.server? q.account = some r.server
  foreign : Account.server? q.account ≠ some q.claimed.origin → new = [] ∧ approved = false
  spared : ∀ server a, lastAccepted? server log = some a → a.Settles q.claimed.keyId q.now →
    ∀ r ∈ new, r.server ≠ server
  unasked : new = [] → cache' = cache
  useless : ∀ r ∈ new, r.Useless → approved = false ∧ cache' = cache

theorem disciplined_unasked {approved : Bool}
    (foreign : Account.server? q.account ≠ some q.claimed.origin → approved = false) :
    Disciplined q log cache [] approved cache where
  once := Nat.zero_le 1
  addressed := List.forall_mem_nil _
  foreign h := ⟨rfl, foreign h⟩
  spared _ _ _ _ := List.forall_mem_nil _
  unasked _ := rfl
  useless := List.forall_mem_nil _

variable [SignatureScheme]

/-- The cache holds what was accepted last, whatever is asked. -/
theorem caches_ask (h : Caches cache log) (fetch : Int64 → KeyFetch ω) (q : Question) (world : ω) :
    Caches ((q.ask (recording fetch)).run (cache, log, world)).2.1
      ((q.ask (recording fetch)).run (cache, log, world)).2.2.1 := by
  obtain ⟨approved, cache', log', world', hrun, caches, -⟩ :=
    h.verify (fetch q.now) q.account q.claimed q.payload q.now world
  rw [show (q.ask (recording fetch)).run (cache, log, world) = _ from hrun]
  exact caches

theorem caches_askAll (fetch : Int64 → KeyFetch ω) (state : KeyCache × List KeyRequest × ω)
    (h : Caches state.1 state.2.1) (questions : List Question) :
    Caches (askAll (recording fetch) state questions).1 (askAll (recording fetch) state questions).2.1 := by
  induction questions generalizing state with
  | nil => exact h
  | cons q questions ih => exact ih _ (caches_ask h fetch q state.2.2)

theorem disciplined_asked (caches : Caches cache log) (owner : Account.server? q.account = some q.claimed.origin)
    (stale : lookup cache q.claimed.origin q.claimed.keyId q.now = .stale)
    (answer : Except FederationError KeyDocument) :
    Disciplined q log cache [⟨q.claimed.origin, q.now, answer⟩] (settled cache q.claimed q.payload q.now answer).1
      (settled cache q.claimed q.payload q.now answer).2 where
  once := Nat.le_refl 1
  addressed := List.forall_mem_singleton.mpr ⟨rfl, rfl, owner⟩
  foreign other := absurd owner other
  spared server a latest settles := by
    refine List.forall_mem_singleton.mpr ?_
    rintro rfl
    exact lookup_ne_stale caches latest settles stale
  unasked h := nomatch h
  useless := by
    refine List.forall_mem_singleton.mpr fun useless => ?_
    rw [settled_of_useless useless]
    exact ⟨rfl, rfl⟩

theorem ask_disciplined (caches : Caches cache log) (fetch : Int64 → KeyFetch ω) (q : Question) (world : ω) :
    ∃ new approved cache' world', (q.ask (recording fetch)).run (cache, log, world) =
      (approved, cache', log ++ new, world') ∧ Disciplined q log cache new approved cache' := by
  by_cases owner : Account.server? q.account = some q.claimed.origin
  · by_cases stale : lookup cache q.claimed.origin q.claimed.keyId q.now = .stale
    · exact ⟨_, _, _, _, run_verify_stale owner stale, disciplined_asked caches owner stale _⟩
    · let approved := ((q.ask (recording fetch)).run (cache, log, world)).1
      refine ⟨[], approved, cache, world, ?_, disciplined_unasked fun other => absurd owner other⟩
      rw [List.append_nil]
      exact Prod.ext rfl (run_verify_held stale)
  · refine ⟨[], false, cache, world, ?_, disciplined_unasked fun _ => rfl⟩
    rw [List.append_nil]
    exact run_verify_foreign owner

/-- Whatever is fetched, and whatever was asked before: a question makes at most one request, to the server of the
    account, and none if the document that was accepted last from there settles the question. After a request that brings
    no document of use the answer is no, and what is known is what was known before. -/
theorem fetch_discipline (fetch : Int64 → KeyFetch ω) (world : ω) (questions : List Question) (q : Question) :
    let before := askAll (recording fetch) (.empty, [], world) questions
    let after := (q.ask (recording fetch)).run before
    (q.ask fetch).run (askAll fetch (.empty, world) questions) = (after.1, after.2.1, after.2.2.2) ∧
    ∃ new, after.2.2.1 = before.2.1 ++ new ∧ Disciplined q before.2.1 before.1 new after.1 after.2.1 := by
  intro before after
  refine ⟨?_, ?_⟩
  · have unlogged := askAll_extends (extends_recording fetch) questions (.empty, [], world)
    exact (congrArg (q.ask fetch).run unlogged).trans (ask_extends (extends_recording fetch) q before)
  · have caches : Caches before.1 before.2.1 := caches_askAll fetch (.empty, [], world) caches_empty questions
    obtain ⟨new, approved, cache', world', hrun, disciplined⟩ := ask_disciplined caches fetch q before.2.2
    rw [show after = _ from hrun]
    exact ⟨new, rfl, disciplined⟩

omit [SignatureScheme] in
/-- A key that a document does not list is not asked for at the end of the minute in which the document came. -/
theorem fetch_discipline_within_minute :
    let _ : SignatureScheme := .transparent
    let document : KeyDocument := ⟨"a.org", .single "ed25519:0" "", .empty, 100000, .empty⟩
    let fetch (_ : Int64) : KeyFetch Unit := fun _ => pure (.ok document)
    let first : Question := ⟨"@john:a.org", ⟨"a.org", "ed25519:0", ""⟩, "", 0⟩
    let second : Question := ⟨"@john:a.org", ⟨"a.org", "ed25519:1", ""⟩, "", 59999⟩
    let before := askAll (recording fetch) (.empty, [], ()) [first]
    lastAccepted? "a.org" before.2.1 = some ⟨document, 0⟩ ∧ AcceptedDocument.Settles ⟨document, 0⟩ "ed25519:1" 59999 ∧
      ((second.ask (recording fetch)).run before).2.2.1 = before.2.1 := by
  intro scheme document fetch first second before
  have owner : Account.server? first.account = some first.claimed.origin := by decide
  have asked : before.2.1 = [⟨"a.org", 0, .ok document⟩] := by
    show ((first.ask (recording fetch)).run (.empty, [], ())).2.2.1 = _
    rw [ask, run_verify_stale owner rfl]
    rfl
  have latest : lastAccepted? "a.org" before.2.1 = some ⟨document, 0⟩ := by
    rw [asked]
    have usable : isUsable "a.org" 0 document = true := isUsable_iff.mpr ⟨rfl, by decide⟩
    exact lastAccepted?_eq_some.mpr ⟨[], _, [], rfl, accepted?_usable usable, nofun⟩
  have settles : AcceptedDocument.Settles ⟨document, 0⟩ "ed25519:1" 59999 :=
    ⟨by decide, .inr ⟨by decide, by decide⟩⟩
  obtain ⟨-, new, hnew, disciplined⟩ := fetch_discipline fetch () [first] second
  have none : new = [] := by
    refine List.eq_nil_iff_forall_not_mem.mpr fun r hr => ?_
    exact disciplined.spared "a.org" _ latest settles r hr (disciplined.addressed r hr).2.1
  refine ⟨latest, settles, ?_⟩
  rw [none, List.append_nil] at hnew
  exact hnew

end Question
end Ownership
end IdentityServer
