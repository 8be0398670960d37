import Grokbotliq.Streaming.DiscoverMainnet
import Grokbotliq.Streaming.HttpTransport
import Grokbotliq.Streaming.RpcUrl

/-!
# Discovery over URLs with secrets

Two pools whose URLs differ in their secret parts alone, asked the same by discovery and
answered the same by the network.  Reports name endpoints by host, but the text of a transport
error names the URL, and this text is both searched for the kind of the error and put into the
gaps of the report.  Where no call lets the difference show (`Blind`), the two pools rotate
alike and the reports are the same: `discover_mainnet_blind`.

`Blind` looks at one call and at what its endpoints would answer under either list of URLs.  It
asks for equal values or errors of one kind at every endpoint whose turn comes, and for the same
text only where the last endpoint's error is what the call returns; all that a pool passes on in
between is the kind.  The two sessions are related by `SameSession`, which one call keeps
(`SameSession.post`), and the program of discovery is run over both at once by
`RequestProg.run_eq_of_steps`.
-/

namespace Grokbotliq

/-! ## Outcomes that rotate alike -/

/-- Equal values, or errors of one kind. -/
def Alike {V : Type*} : Except BootstrapError V → Except BootstrapError V → Prop
  | .ok v, .ok w => v = w
  | .error e, .error e' => classifyError e = classifyError e'
  | .ok _, .error _ => False
  | .error _, .ok _ => False

lemma Alike.refl {V : Type*} (x : Except BootstrapError V) : Alike x x := by
  cases x <;> exact rfl

namespace RotatingRpcPool

/-- Two pools that differ in the texts of their URLs only. -/
structure SamePool (p q : RotatingRpcPool) : Prop where
  length : p.urls.length = q.urls.length
  index : p.index = q.index
  stats : p.stats = q.stats
  maxAttempts : p.maxAttempts = q.maxAttempts

section Calls

variable {V : Type*} {p q : RotatingRpcPool}

lemma SamePool.updateStats (h : SamePool p q) (idx : ℕ) (f : EndpointStats → EndpointStats) :
    SamePool (p.updateStats idx f) (q.updateStats idx f) :=
  ⟨h.length, h.index, congrArg (List.modify · idx f) h.stats, h.maxAttempts⟩

lemma SamePool.setIndex (h : SamePool p q) (idx : ℕ) :
    SamePool { p with index := idx } { q with index := idx } :=
  ⟨h.length, rfl, h.stats, h.maxAttempts⟩

lemma SamePool.postOnce (h : SamePool p q) (idx : ℕ) {x y : Except BootstrapError V}
    (hxy : Alike x y) (elapsed : UInt64) :
    SamePool (p.postOnce idx x elapsed) (q.postOnce idx y elapsed) := by
  have hrequest := h.updateStats idx fun s => { s with requests := s.requests + 1 }
  cases x with
  | ok v =>
      cases y with
      | ok w => exact hrequest.updateStats idx _
      | error e => exact hxy.elim
  | error e =>
      cases y with
      | ok w => exact hxy.elim
      | error e' =>
          have hkind : classifyError e = classifyError e' := hxy
          rw [RotatingRpcPool.postOnce, RotatingRpcPool.postOnce]
          simp only [hkind]
          exact hrequest.updateStats idx _

lemma SamePool.advance (h : SamePool p q) (idx : ℕ) (kind : RpcFailKind) :
    SamePool (p.advance idx kind) (q.advance idx kind) := by
  rw [RotatingRpcPool.advance, RotatingRpcPool.advance, h.length]
  split_ifs with hempty
  · exact h
  · exact (h.setIndex _).updateStats idx _

/-- What the endpoints a call comes to answer is alike: an endpoint's turn comes when those
before it have sent the call on. -/
def AlikeInTurn (start n : ℕ) (answers answers' : ℕ → Except BootstrapError V) : Prop :=
  ∀ j < n, (∀ i < j, Rotates (answers ((start + i) % n))) →
    Alike (answers ((start + j) % n)) (answers' ((start + j) % n))

/-- Under outcomes that are alike two such pools contact the same endpoints. -/
lemma SamePool.postLoop {answers answers' : ℕ → Except BootstrapError V}
    (elapsed : ℕ → UInt64) {start n : ℕ} (halike : AlikeInTurn start n answers answers')
    (left : ℕ) (lastErr lastErr' : BootstrapError) (h : SamePool p q) (hlen : p.urls.length = n)
    (hleft : left ≤ n) (hbefore : ∀ i < n - left, Rotates (answers ((start + i) % n))) :
    SamePool (RotatingRpcPool.postLoop answers elapsed start n left p lastErr).pool
        (RotatingRpcPool.postLoop answers' elapsed start n left q lastErr').pool ∧
      (RotatingRpcPool.postLoop answers elapsed start n left p lastErr).contacted =
        (RotatingRpcPool.postLoop answers' elapsed start n left q lastErr').contacted := by
  -- By induction on the attempts left, both pools and both last errors general.
  induction left generalizing p q lastErr lastErr' with
  | zero => exact ⟨h, rfl⟩
  | succ left ih =>
      obtain ⟨idx, hidx⟩ : ∃ idx, idx = (start + (n - (left + 1))) % p.urls.length := ⟨_, rfl⟩
      have hhere : Alike (answers idx) (answers' idx) := by
        rw [hidx, hlen]
        exact halike _ (by omega) hbefore
      have honce := h.postOnce idx hhere (elapsed idx)
      have hurls : (p.postOnce idx (answers idx) (elapsed idx)).urls.length = n := by
        rw [postOnce_urls, hlen]
      -- If this answer rotates as well, all before the next turn have.
      have hbefore' : Rotates (answers idx) →
          ∀ i < n - left, Rotates (answers ((start + i) % n)) := by
        intro hrotates i hi
        rcases Nat.lt_or_eq_of_le (by omega : i ≤ n - (left + 1)) with hi | rfl
        · exact hbefore i hi
        · rwa [hidx, hlen] at hrotates
      simp only [RotatingRpcPool.postLoop, ← h.length, ← hidx]
      -- Alike answers are both values or both errors of one kind, so both loops take the same way.
      cases hx : answers idx with
      | ok v =>
          cases hy : answers' idx with
          | ok w =>
              rw [hx, hy] at honce
              exact ⟨honce.setIndex idx, rfl⟩
          | error e =>
              rw [hx, hy] at hhere
              exact hhere.elim
      | error e =>
          cases hy : answers' idx with
          | ok w =>
              rw [hx, hy] at hhere
              exact hhere.elim
          | error e' =>
              rw [hx, hy] at hhere honce
              rw [hx] at hurls hbefore'
              have hkind : classifyError e = classifyError e' := hhere
              simp only [← hkind]
              split_ifs with hnext hstop
              · -- the next endpoint's turn
                have hrotates : (classifyError e).shouldRotate = true :=
                  (Bool.and_eq_true _ _ ▸ hnext).1
                have hrest := ih e e' (honce.advance idx (classifyError e))
                  (by rw [advance_urls, hurls]) (by omega) (hbefore' hrotates)
                exact ⟨hrest.1, congrArg (idx :: ·) hrest.2⟩
              · exact ⟨honce, rfl⟩
              · have hrotates : (classifyError e).shouldRotate = true := by simpa using hstop
                have hrest := ih e e' honce hurls (by omega) (hbefore' hrotates)
                exact ⟨hrest.1, congrArg (idx :: ·) hrest.2⟩

/-- The endpoint whose turn is the `j`-th. -/
def turn (p : RotatingRpcPool) (j : ℕ) : ℕ := (p.currentIndex + j) % p.urls.length

lemma SamePool.currentIndex_eq (h : SamePool p q) : p.currentIndex = q.currentIndex := by
  rw [currentIndex, currentIndex, h.length, h.index]

variable {answers answers' : ℕ → Except BootstrapError V}

/-- A call contacts the same endpoints, and what one pool is left as the other is. -/
lemma SamePool.postJson (elapsed : ℕ → UInt64) (h : SamePool p q) (hp : p.Ready) (hq : q.Ready)
    (halike : AlikeInTurn p.currentIndex p.urls.length answers answers') :
    SamePool (p.postJson answers elapsed).pool (q.postJson answers' elapsed).pool ∧
      (p.postJson answers elapsed).contacted = (q.postJson answers' elapsed).contacted := by
  rw [postJson_eq hp, postJson_eq hq, ← h.length, ← h.currentIndex_eq]
  refine h.postLoop elapsed halike _ _ _ rfl (Nat.le_refl _) fun i hi => ?_
  rw [Nat.sub_self] at hi
  exact absurd hi (Nat.not_lt_zero i)

/-- The call returns the same if every outcome that ends it early is the same for both pools,
and so is that of the last endpoint where all send the call on. -/
lemma SamePool.postJson_result (elapsed : ℕ → UInt64) (h : SamePool p q) (hp : p.Ready)
    (hq : q.Ready) (halike : AlikeInTurn p.currentIndex p.urls.length answers answers')
    (hstays : ∀ idx < p.urls.length, ¬Rotates (answers idx) → answers idx = answers' idx)
    (hlast : (∀ j < p.urls.length, Rotates (answers (p.turn j))) →
      answers (p.turn (p.urls.length - 1)) = answers' (p.turn (p.urls.length - 1))) :
    (p.postJson answers elapsed).result = (q.postJson answers' elapsed).result := by
  obtain ⟨k, hk⟩ := postJson_spec hp answers elapsed
  obtain ⟨k', hk'⟩ := postJson_spec hq answers' elapsed
  -- Both calls contact the same endpoints, so they end at the same attempt.
  have hsame : k = k' := by
    have hcontacted := (h.postJson elapsed hp hq halike).2
    rw [hk.contacted, hk'.contacted] at hcontacted
    have hlen := congrArg List.length hcontacted
    simpa using hlen
  rw [hk.result, hk'.result, ← hsame, ← h.currentIndex_eq, ← h.length]
  have hlt : (p.currentIndex + k) % p.urls.length < p.urls.length := Nat.mod_lt _ hp.nonempty
  by_cases hrotates : Rotates (answers ((p.currentIndex + k) % p.urls.length))
  · -- every endpoint sent the call on, up to the last in turn
    have hk_last : k = p.urls.length - 1 :=
      Nat.eq_sub_of_add_eq (hk.stopped.resolve_right (not_not.2 hrotates))
    have hall : ∀ j < p.urls.length, Rotates (answers (p.turn j)) := by
      intro j hj
      rcases Nat.lt_or_eq_of_le (by omega : j ≤ k) with hj | rfl
      · exact hk.rotated j hj
      · exact hrotates
    have hsame_last := hlast hall
    rw [← hk_last] at hsame_last
    exact hsame_last
  · exact hstays _ hlt hrotates

end Calls

/-! ## Configured URLs -/

/-- The host of the current endpoint, as reports name it. -/
def currentHost (p : RotatingRpcPool) : String :=
  rpcUrlHostOnly (p.urls.getD p.currentIndex "")

lemma eq_of_fromUrls {us : List RpcUrl} {p : RotatingRpcPool}
    (h : fromUrls (us.map RpcUrl.text) = .ok p) :
    p.urls = us.map (fun u => u.trimmed.text) ∧ p.index = 0 ∧
      p.stats = us.map (fun u => ⟨rpcUrlHostOnly u.trimmed.text, 0, 0, 0, 0, 0, none⟩) ∧
      p.maxAttempts = us.length := by
  have hkept : ((us.map RpcUrl.text).map Text.trim).filter (fun u => !u.isEmpty) =
      us.map fun u => u.trimmed.text := by
    rw [List.map_map, List.filter_eq_self.2]
    · exact List.map_congr_left fun u _ => u.trim_text
    · intro t ht
      obtain ⟨u, -, rfl⟩ := List.mem_map.1 ht
      rw [Function.comp_apply, u.trim_text, u.trimmed.isEmpty_text]
      rfl
  obtain ⟨hurls, -, -, hindex, hstats, hattempts⟩ := fromUrls_eq_ok h
  rw [hkept] at hurls
  refine ⟨hurls, hindex, ?_, ?_⟩
  · rw [hstats, hurls, List.map_map]
    rfl
  · rw [hattempts, hurls, List.length_map]

lemma map_host_eq {us vs : List RpcUrl} (h : List.Forall₂ RpcUrl.SameEndpoint us vs) :
    us.map (fun u => rpcUrlHostOnly u.trimmed.text) =
      vs.map fun u => rpcUrlHostOnly u.trimmed.text := by
  induction h with
  | nil => rfl
  | @cons u v _ _ huv _ ih =>
      have htrimmed : u.trimmed.SameEndpoint v.trimmed := ⟨huv.1, huv.2⟩
      rw [List.map_cons, List.map_cons, ih, htrimmed.rpcUrlHostOnly_eq]

lemma samePool_fromUrls {us vs : List RpcUrl} {p q : RotatingRpcPool}
    (h : List.Forall₂ RpcUrl.SameEndpoint us vs) (hp : fromUrls (us.map RpcUrl.text) = .ok p)
    (hq : fromUrls (vs.map RpcUrl.text) = .ok q) : SamePool p q := by
  obtain ⟨hurls, hindex, hstats, hattempts⟩ := eq_of_fromUrls hp
  obtain ⟨hurls', hindex', hstats', hattempts'⟩ := eq_of_fromUrls hq
  have hhosts := congrArg (List.map fun host : String =>
    (⟨host, 0, 0, 0, 0, 0, none⟩ : EndpointStats)) (map_host_eq h)
  rw [List.map_map, List.map_map] at hhosts
  refine ⟨?_, hindex.trans hindex'.symm, ?_, ?_⟩
  · rw [hurls, hurls', List.length_map, List.length_map, h.length_eq]
  · rw [hstats, hstats']
    exact hhosts
  · rw [hattempts, hattempts', h.length_eq]

lemma map_host_fromUrls {us vs : List RpcUrl} {p q : RotatingRpcPool}
    (h : List.Forall₂ RpcUrl.SameEndpoint us vs) (hp : fromUrls (us.map RpcUrl.text) = .ok p)
    (hq : fromUrls (vs.map RpcUrl.text) = .ok q) :
    p.urls.map rpcUrlHostOnly = q.urls.map rpcUrlHostOnly := by
  have hmap := map_host_eq h
  rw [(eq_of_fromUrls hp).1, (eq_of_fromUrls hq).1]
  simp only [List.map_map, Function.comp_def]
  rw [hmap]

end RotatingRpcPool

/-! ## Sessions -/

/-- What the network does: in the call of that number, sent to that endpoint with that body, an
exchange or none in time, and how many microseconds it takes. -/
abbrev World : Type := ℕ → ℕ → Json → Option HttpExchange × UInt64

/-- A pool in use, with the endpoints that each call so far has contacted. -/
structure Session where
  pool : RotatingRpcPool
  contacted : List (List ℕ)

namespace Session

/-- What the endpoints would answer to the next call. -/
def answers (world : World) (s : Session) (body : Json) (idx : ℕ) : Except BootstrapError Json :=
  s.pool.answer idx (world s.contacted.length idx body).1

/-- One call of the pool. -/
def post (world : World) (s : Session) (body : Json) : Session × Except BootstrapError Json :=
  let out := s.pool.postJson (s.answers world body) fun idx =>
    (world s.contacted.length idx body).2
  (⟨out.pool, s.contacted ++ [out.contacted]⟩, out.result)

end Session

/-- `discover_mainnet` over a pool: the session it leaves, and the report. -/
def discover (c : Codecs) (world : World) (p : RotatingRpcPool) :
    Session × Outcome BootstrapError DiscoveryReport :=
  let run := RequestProg.run (Session.post world) ⟨p, []⟩ (Discovery.discoverMainnet c)
  (run.1, do
    let report ← run.2
    return report run.1.pool.currentHost run.1.pool.stats)

/-! ## Calls that do not show the secret -/

/-- What the same endpoint would answer if its URL were one of the other list. -/
def Session.answers' (urls' : List String) (world : World) (s : Session) (body : Json)
    (idx : ℕ) : Except BootstrapError Json :=
  RotatingRpcPool.answerAt (urls'.getD idx "") (world s.contacted.length idx body).1

/-- The next call does not show to which of the two lists of URLs it goes: what fails at an
endpoint it comes to is of one kind under both URLs, and if all endpoints fail, the last of them
fails with one text under both. -/
structure Blind (urls' : List String) (world : World) (s : Session) (body : Json) : Prop where
  kinds : ∀ j < s.pool.urls.length,
    (∀ i < j, Rotates (s.answers world body (s.pool.turn i))) →
      Alike (s.answers world body (s.pool.turn j)) (s.answers' urls' world body (s.pool.turn j))
  text : (∀ j < s.pool.urls.length, Rotates (s.answers world body (s.pool.turn j))) →
    s.answers world body (s.pool.turn (s.pool.urls.length - 1)) =
      s.answers' urls' world body (s.pool.turn (s.pool.urls.length - 1))

/-- An error of the transport sends the call on. -/
lemma rotates_http (message : String) :
    Rotates (.error (.http message) : Except BootstrapError Json) := by
  show (RpcFailKind.ofMessage message .transport).shouldRotate = true
  rw [RpcFailKind.ofMessage]
  split_ifs <;> rfl

/-- Only transport errors tell one URL from another. -/
lemma answerAt_eq_of_not_rotates {url url' : String}
    (hurl : url.isEmpty = false ∧ Text.contains url "YOUR_" = false)
    (hurl' : url'.isEmpty = false ∧ Text.contains url' "YOUR_" = false)
    {exchange : Option HttpExchange}
    (h : ¬Rotates (RotatingRpcPool.answerAt url exchange)) :
    RotatingRpcPool.answerAt url exchange = RotatingRpcPool.answerAt url' exchange := by
  cases exchange with
  | none => rfl
  | some exchange =>
      simp only [RotatingRpcPool.answerAt, HttpJsonRpcTransport.postJson, hurl.1, hurl.2,
        hurl'.1, hurl'.2, Bool.or_self, Bool.false_eq_true, if_false] at h ⊢
      -- Only a transport error names the endpoint, and every transport error rotates.
      cases exchange with
      | failed e =>
          simp only at h
          split_ifs at h with htimeout
          · exact absurd (rotates_http _) h
          · exact absurd (rotates_http _) h
      | replied status body =>
          cases body with
          | error e => exact absurd (rotates_http _) h
          | ok val => rfl

/-- Two sessions over two lists of URLs that look the same. -/
structure SameSession (urls urls' : List String) (s t : Session) : Prop where
  pool : RotatingRpcPool.SamePool s.pool t.pool
  contacted : s.contacted = t.contacted
  urls_left : s.pool.urls = urls
  urls_right : t.pool.urls = urls'
  sound_left : s.pool.Sound
  sound_right : t.pool.Sound

lemma SameSession.currentHost_eq {urls urls' : List String} {s t : Session}
    (h : SameSession urls urls' s t)
    (hhosts : urls.map rpcUrlHostOnly = urls'.map rpcUrlHostOnly) :
    s.pool.currentHost = t.pool.currentHost := by
  have hcurrent : s.pool.currentIndex = t.pool.currentIndex := h.pool.currentIndex_eq
  rw [RotatingRpcPool.currentHost, RotatingRpcPool.currentHost, h.urls_left, h.urls_right,
    ← hcurrent, ← List.getD_map (f := rpcUrlHostOnly), ← List.getD_map (f := rpcUrlHostOnly),
    hhosts]

/-- **A call that does not show the secret** is answered alike, and leaves the sessions alike. -/
lemma SameSession.post {urls urls' : List String} {world : World} {s t : Session} {body : Json}
    (h : SameSession urls urls' s t) (hconf : s.pool.Configured) (hconf' : t.pool.Configured)
    (hblind : Blind urls' world s body) :
    (s.post world body).2 = (t.post world body).2 ∧
      SameSession urls urls' (s.post world body).1 (t.post world body).1 := by
  have hcall : t.answers world body = s.answers' urls' world body := by
    funext idx
    rw [Session.answers, RotatingRpcPool.answer, h.urls_right, ← h.contacted, Session.answers']
  have halike : RotatingRpcPool.AlikeInTurn s.pool.currentIndex s.pool.urls.length
      (s.answers world body) (t.answers world body) := by
    rw [hcall]
    exact hblind.kinds
  -- An answer that ends the call names no endpoint, so it is the same on both sides.
  have hstays : ∀ idx < s.pool.urls.length, ¬Rotates (s.answers world body idx) →
      s.answers world body idx = t.answers world body idx := by
    intro idx hidx hstop
    have hmem : s.pool.urls.getD idx "" ∈ s.pool.urls := by
      rw [List.getD_eq_getElem _ _ hidx]
      exact List.getElem_mem hidx
    have hidx' : idx < t.pool.urls.length := h.pool.length ▸ hidx
    have hmem' : t.pool.urls.getD idx "" ∈ t.pool.urls := by
      rw [List.getD_eq_getElem _ _ hidx']
      exact List.getElem_mem hidx'
    rw [Session.answers, Session.answers, ← h.contacted]
    exact answerAt_eq_of_not_rotates (hconf _ hmem) (hconf' _ hmem') hstop
  have hresult := h.pool.postJson_result (fun idx => (world s.contacted.length idx body).2)
    h.sound_left.toReady h.sound_right.toReady halike hstays (hcall ▸ hblind.text)
  have hpools := h.pool.postJson (fun idx => (world s.contacted.length idx body).2)
    h.sound_left.toReady h.sound_right.toReady halike
  simp only [Session.post, ← h.contacted]
  refine ⟨hresult, ⟨hpools.1, ?_, ?_, ?_, h.sound_left.postJson _ _, h.sound_right.postJson _ _⟩⟩
  · rw [hpools.2]
  · exact (RotatingRpcPool.postLoop_urls ..).trans h.urls_left
  · exact (RotatingRpcPool.postLoop_urls ..).trans h.urls_right

/-- **Reports do not show the secret while no call does.**  Two pools of the same schemes and
hosts, over the same network: where every call of discovery is blind to the rest of the URLs,
the reports are the same and so are the endpoints contacted, call by call. -/
theorem discover_mainnet_blind (c : Codecs) (world : World) {us vs : List RpcUrl}
    (hsame : List.Forall₂ RpcUrl.SameEndpoint us vs) {p q : RotatingRpcPool}
    (hp : RotatingRpcPool.fromUrls (us.map RpcUrl.text) = .ok p)
    (hq : RotatingRpcPool.fromUrls (vs.map RpcUrl.text) = .ok q)
    (hblind : RequestProg.Steps (Session.post world) (Blind q.urls world) ⟨p, []⟩
      (Discovery.discoverMainnet c)) :
    (discover c world p).2 = (discover c world q).2 ∧
      (discover c world p).1.contacted = (discover c world q).1.contacted := by
  have hstart : SameSession p.urls q.urls ⟨p, []⟩ ⟨q, []⟩ :=
    ⟨RotatingRpcPool.samePool_fromUrls hsame hp hq, rfl, rfl, rfl,
      RotatingRpcPool.sound_fromUrls hp, RotatingRpcPool.sound_fromUrls hq⟩
  have hstep : ∀ s t body, SameSession p.urls q.urls s t → Blind q.urls world s body →
      (s.post world body).2 = (t.post world body).2 ∧
        SameSession p.urls q.urls (s.post world body).1 (t.post world body).1 := by
    intro s t body hst hbody
    refine hst.post (fun u hu => ?_) (fun u hu => ?_) hbody
    · exact RotatingRpcPool.configured_fromUrls hp u (hst.urls_left ▸ hu)
    · exact RotatingRpcPool.configured_fromUrls hq u (hst.urls_right ▸ hu)
  obtain ⟨hresult, hend⟩ :=
    RequestProg.run_eq_of_steps hstep (Discovery.discoverMainnet c) hstart hblind
  -- the report adds the host and the statistics, which the pools share
  have hhost := hend.currentHost_eq (RotatingRpcPool.map_host_fromUrls hsame hp hq)
  refine ⟨?_, hend.contacted⟩
  rw [discover, discover]
  simp only [hresult, hhost, hend.pool.stats]

/-! ## A pool with an API key

Two pools of one endpoint each show both sides: a failure that says nothing, and one that names
the URL. -/

lemma https_is_scheme : "https" = "https" ∨ "https" = "http" := Or.inl rfl

lemma plain_of_no_userinfo :
    ∀ info ∈ (none : Option String), ∀ c ∈ info.toList, endsAuthority c = false := by
  intro info hinfo
  cases hinfo

/-- An endpoint whose URL carries a key in its path. -/
def keyedUrl (key : String) : RpcUrl where
  scheme := "https"
  userinfo := none
  host := "rpc.example"
  tail := "/" ++ key
  scheme_eq := https_is_scheme
  userinfo_plain := plain_of_no_userinfo
  host_ne := by decide
  host_plain := by
    have hall : ("rpc.example".toList.all fun c =>
        !endsAuthority c && (c != '@' && !Text.isWhitespace c)) = true := by decide
    simpa only [List.all_eq_true, Bool.and_eq_true, Bool.not_eq_true'] using hall
  tail_start := by
    intro c hc
    rw [String.toList_append] at hc
    obtain rfl : '/' = c := by simpa using hc
    rfl

/-- A server that cannot be reached. -/
def unreachable : HttpFailure where
  isTimeout := false
  display := fun url => "error sending request for url (" ++ url ++ ")"

/-- The slot in the first call, and nothing found in the others. -/
def quietValue (call : ℕ) : Json :=
  .object [("result", if call = 0 then .number (.posInt 5) else .object [("value", .array [])])]

def quietReply (call : ℕ) : Option HttpExchange := some (.replied .ok (.ok (quietValue call)))

lemma answerAt_quietReply {url : String}
    (hurl : url.isEmpty = false ∧ Text.contains url "YOUR_" = false) (call : ℕ) :
    RotatingRpcPool.answerAt url (quietReply call) = .ok (quietValue call) := by
  simp only [RotatingRpcPool.answerAt, HttpJsonRpcTransport.postJson, quietReply, hurl.1, hurl.2,
    Bool.or_self, Bool.false_eq_true, if_false]
  rfl

lemma answerAt_unreachable {url : String}
    (hurl : url.isEmpty = false ∧ Text.contains url "YOUR_" = false)
    (htime : Text.contains (Text.toLowercase (unreachable.display url)) "timed out" = false) :
    RotatingRpcPool.answerAt url (some (.failed unreachable)) =
      .error (.http (unreachable.display url)) := by
  simp only [RotatingRpcPool.answerAt, HttpJsonRpcTransport.postJson, hurl.1, hurl.2, htime,
    Bool.or_self, Bool.false_eq_true, if_false]
  rfl

/-- The first endpoint can never be reached. -/
def firstDown : World := fun call idx _ =>
  (if idx = 0 then some (.failed unreachable) else quietReply call, 20)

/-- Two endpoints, each with a key. -/
def keyedPair (key key' : String) : List RpcUrl := [keyedUrl key, keyedUrl key']

/-- Where the first endpoint's URL gives nothing away, the second answers. -/
lemma blind_firstDown {s : Session} {urls' : List String} {first second first' second' : String}
    (hurls : s.pool.urls = [first, second]) (hurls' : urls' = [first', second'])
    (hplain : ∀ url ∈ [first, second, first', second'],
      url.isEmpty = false ∧ Text.contains url "YOUR_" = false)
    (hfailed : ∀ url ∈ [first, first'],
      Text.contains (Text.toLowercase (unreachable.display url)) "timed out" = false ∧
        classifyError (.http (unreachable.display url)) = .transport) (body : Json) :
    Blind urls' firstDown s body := by
  simp only [List.forall_mem_cons] at hplain hfailed
  obtain ⟨hfirst, hsecond, hfirst', hsecond', -⟩ := hplain
  obtain ⟨hdown, hdown', -⟩ := hfailed
  have hzero : s.answers firstDown body 0 = .error (.http (unreachable.display first)) := by
    rw [Session.answers, RotatingRpcPool.answer, hurls]
    exact answerAt_unreachable hfirst hdown.1
  have hone : s.answers firstDown body 1 = .ok (quietValue s.contacted.length) := by
    rw [Session.answers, RotatingRpcPool.answer, hurls]
    exact answerAt_quietReply hsecond _
  have halike : ∀ idx < 2, Alike (s.answers firstDown body idx)
      (s.answers' urls' firstDown body idx) := by
    intro idx hidx
    have hcases : idx = 0 ∨ idx = 1 := by omega
    rw [hurls']
    rcases hcases with rfl | rfl
    · rw [hzero]
      show Alike _ (RotatingRpcPool.answerAt first' (some (.failed unreachable)))
      rw [answerAt_unreachable hfirst' hdown'.1]
      exact hdown.2.trans hdown'.2.symm
    · rw [hone]
      show Alike _ (RotatingRpcPool.answerAt second' (quietReply s.contacted.length))
      rw [answerAt_quietReply hsecond']
      exact rfl
  have hlength : s.pool.urls.length = 2 := congrArg List.length hurls
  refine ⟨fun j _ _ => halike _ ?_, fun hall => ?_⟩
  · rw [RotatingRpcPool.turn, hlength]
    exact Nat.mod_lt _ Nat.zero_lt_two
  · -- the second endpoint has its turn, and does not send the call on
    obtain ⟨j, hj, hturn⟩ : ∃ j < s.pool.urls.length, s.pool.turn j = 1 := by
      rcases Nat.mod_two_eq_zero_or_one s.pool.currentIndex with heven | hodd
      · refine ⟨1, hlength ▸ Nat.one_lt_two, ?_⟩
        rw [RotatingRpcPool.turn, hlength]
        omega
      · refine ⟨0, hlength ▸ Nat.zero_lt_two, ?_⟩
        rw [RotatingRpcPool.turn, hlength]
        omega
    have hrotates := hall j hj
    rw [hturn, hone] at hrotates
    exact hrotates.elim

/-- The first endpoint is down throughout, and neither pool's report shows its key. -/
theorem discover_mainnet_blind_firstDown :
    ∃ p q, RotatingRpcPool.fromUrls ((keyedPair "alpha" "alpha2").map RpcUrl.text) = .ok p ∧
      RotatingRpcPool.fromUrls ((keyedPair "beta" "beta2").map RpcUrl.text) = .ok q ∧
      (discover Bootstrap.sampleCodecs firstDown p).2 =
        (discover Bootstrap.sampleCodecs firstDown q).2 ∧
      (discover Bootstrap.sampleCodecs firstDown p).1.contacted =
        (discover Bootstrap.sampleCodecs firstDown q).1.contacted := by
  obtain ⟨p, hp⟩ : ∃ p, RotatingRpcPool.fromUrls
    ((keyedPair "alpha" "alpha2").map RpcUrl.text) = .ok p := ⟨_, rfl⟩
  obtain ⟨q, hq⟩ : ∃ q, RotatingRpcPool.fromUrls
    ((keyedPair "beta" "beta2").map RpcUrl.text) = .ok q := ⟨_, rfl⟩
  have hsame : List.Forall₂ RpcUrl.SameEndpoint (keyedPair "alpha" "alpha2")
      (keyedPair "beta" "beta2") :=
    .cons ⟨rfl, rfl⟩ (.cons ⟨rfl, rfl⟩ .nil)
  refine ⟨p, q, hp, hq, discover_mainnet_blind _ _ hsame hp hq ?_⟩
  refine RequestProg.steps_of_invariant (I := fun s : Session => s.pool.urls = p.urls)
    (fun s body hs => (RotatingRpcPool.postLoop_urls ..).trans hs)
    (fun s body hs => ?_) _ rfl
  refine blind_firstDown (hs.trans (RotatingRpcPool.eq_of_fromUrls hp).1)
    (RotatingRpcPool.eq_of_fromUrls hq).1 ?_ ?_ body
  · decide +kernel
  · decide +kernel

/-- The only endpoint cannot be reached in the second call. -/
def healthDown : World := fun call _ _ =>
  (if call = 1 then some (.failed unreachable) else quietReply call, 20)

def reportedGaps : Outcome BootstrapError DiscoveryReport → List String
  | .ok report => report.gaps
  | .err _ => []
  | .panic => []

/-- The gaps of the report name the path of the URL. -/
theorem healthDown_shows_path :
    ∃ p q, RotatingRpcPool.fromUrls [(keyedUrl "alpha").text] = .ok p ∧
      RotatingRpcPool.fromUrls [(keyedUrl "beta").text] = .ok q ∧
      RpcUrl.SameEndpoint (keyedUrl "alpha") (keyedUrl "beta") ∧
      (reportedGaps (discover Bootstrap.sampleCodecs healthDown p).2).head? =
        some ("getHealth failed: http: error sending request for url " ++
          "(https://rpc.example/alpha)") ∧
      (reportedGaps (discover Bootstrap.sampleCodecs healthDown q).2).head? =
        some ("getHealth failed: http: error sending request for url " ++
          "(https://rpc.example/beta)") := by
  refine ⟨_, _, rfl, rfl, ⟨rfl, rfl⟩, ?_, ?_⟩
  · decide +kernel
  · decide +kernel

end Grokbotliq
