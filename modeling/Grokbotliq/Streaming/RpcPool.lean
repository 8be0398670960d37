import Grokbotliq.Framework.MachineInt
import Grokbotliq.Framework.Runs
import Grokbotliq.Streaming.Bootstrap
import Grokbotliq.Streaming.Redact

/-!
# The rotating RPC pool

A call tries the endpoints from the current one on, each at most once.  An error that says the
endpoint is overloaded or unreachable moves the call on to the next one; a success, or any other
error, ends it.  Which endpoint is current, and the counts of requests, successes and errors of
each, are kept across calls.

What a call should do is said without its loop in `PostSpec`: there is a last endpoint, all
before it said to rotate, and it is the first that did not or the last of all.
`post_json_contract` says that every call does that and keeps the pool `Sound`.

`postLoop_stop` and `postLoop_next` are the two turns of the loop, and `postLoop_spec` puts them
together by induction on the attempts left; that no endpoint is tried twice is arithmetic modulo
the number of endpoints (`nodup_range_add_mod`).
-/

namespace Grokbotliq

/-- The fields of an endpoint's telemetry; the counters wrap. -/
structure EndpointStats where
  host : String
  requests : UInt64
  successes : UInt64
  errors : UInt64
  rotationsAway : UInt64
  latencyUsSum : UInt64
  lastErrorKind : Option String
  deriving DecidableEq

inductive RpcFailKind
  | rateLimited
  | serverError
  | timeout
  | transport
  | rpcApp
  | other
  deriving DecidableEq

namespace RpcFailKind

def asStr : RpcFailKind → String
  | rateLimited => "429"
  | serverError => "5xx"
  | timeout => "timeout"
  | transport => "transport"
  | rpcApp => "rpc"
  | other => "other"

def shouldRotate : RpcFailKind → Bool
  | rateLimited => true
  | serverError => true
  | timeout => true
  | transport => true
  | rpcApp => false
  | other => false

/-- The kind a message of a transport or application error tells; `otherwise` if none. -/
def ofMessage (message : String) (otherwise : RpcFailKind) : RpcFailKind :=
  let lower := Text.toLowercase message
  if Text.contains lower "429" || Text.contains lower "too many request" then rateLimited
  else if Text.contains lower "500" || Text.contains lower "502" || Text.contains lower "503" ||
      Text.contains lower "504" || Text.contains lower "http 5" then serverError
  else if Text.contains lower "timeout" || Text.contains lower "timed out" ||
      Text.contains lower "deadline" then timeout
  else otherwise

end RpcFailKind

/-- Classify bootstrap/http errors for rotation decisions. -/
def classifyError : BootstrapError → RpcFailKind
  | .http s => .ofMessage s .transport
  | .rpc s => .ofMessage s .rpcApp
  | .config _ => .other
  | .decode _ => .other

/-- An outcome that sends the call to the next endpoint. -/
def Rotates {V : Type*} : Except BootstrapError V → Prop
  | .ok _ => False
  | .error e => (classifyError e).shouldRotate = true

instance {V : Type*} : ∀ x : Except BootstrapError V, Decidable (Rotates x)
  | .ok _ => isFalse id
  | .error e => inferInstanceAs (Decidable ((classifyError e).shouldRotate = true))

structure RotatingRpcPool where
  urls : List String
  index : ℕ
  stats : List EndpointStats
  /-- Max attempts per call (the number of URLs). -/
  maxAttempts : ℕ
  deriving DecidableEq

/-- What a call leaves and returns, with the endpoints it contacted in order. -/
structure PostOutcome (V : Type*) where
  pool : RotatingRpcPool
  contacted : List ℕ
  result : Except BootstrapError V

namespace RotatingRpcPool

variable {V : Type*}

def fromUrls (urls : List String) : Except BootstrapError RotatingRpcPool :=
  let urls := (urls.map Text.trim).filter fun u => !u.isEmpty
  if urls.isEmpty then
    .error (.config "no RPC URLs configured (set RPC_URLS or RPC_URL in config/local.env)")
  else
    match urls.find? fun u => Text.contains u "YOUR_" with
    | some u => .error (.config ("placeholder RPC URL (" ++ rpcUrlHostOnly u ++ ")"))
    | none =>
      .ok
        { urls := urls
          index := 0
          stats := urls.map fun u => ⟨rpcUrlHostOnly u, 0, 0, 0, 0, 0, none⟩
          maxAttempts := urls.length }

def currentIndex (p : RotatingRpcPool) : ℕ := p.index % max p.urls.length 1

def updateStats (p : RotatingRpcPool) (idx : ℕ) (f : EndpointStats → EndpointStats) :
    RotatingRpcPool :=
  { p with stats := p.stats.modify idx f }

def advance (p : RotatingRpcPool) (idx : ℕ) (kind : RpcFailKind) : RotatingRpcPool :=
  if p.urls.length = 0 then p
  else
    { p with index := (idx + 1) % p.urls.length }.updateStats idx fun s =>
      { s with rotationsAway := s.rotationsAway + 1, lastErrorKind := some kind.asStr }

/-- `post_once`: the request is counted before it is made, its outcome after. -/
def postOnce (p : RotatingRpcPool) (idx : ℕ) (answer : Except BootstrapError V)
    (elapsed : UInt64) : RotatingRpcPool :=
  let p := p.updateStats idx fun s => { s with requests := s.requests + 1 }
  match answer with
  | .ok _ => p.updateStats idx fun s =>
    { s with
      successes := s.successes + 1
      latencyUsSum := MachineInt.satAddU64 s.latencyUsSum elapsed }
  | .error e => p.updateStats idx fun s =>
    { s with
      errors := s.errors + 1
      lastErrorKind := some (classifyError e).asStr }

/-- The loop of `post_json`, with so many attempts left. -/
def postLoop (answers : ℕ → Except BootstrapError V) (elapsed : ℕ → UInt64)
    (start attempts : ℕ) : ℕ → RotatingRpcPool → BootstrapError → PostOutcome V
  | 0, p, lastErr => ⟨p, [], .error lastErr⟩
  | left + 1, p, _ =>
    let attempt := attempts - (left + 1)
    let idx := (start + attempt) % p.urls.length
    let p := p.postOnce idx (answers idx) (elapsed idx)
    match answers idx with
    | .ok v => ⟨{ p with index := idx }, [idx], .ok v⟩
    | .error e =>
      let kind := classifyError e
      if kind.shouldRotate && decide (attempt + 1 < attempts) then
        let next := postLoop answers elapsed start attempts left (p.advance idx kind) e
        { next with contacted := idx :: next.contacted }
      else if !kind.shouldRotate then ⟨p, [idx], .error e⟩
      else
        let next := postLoop answers elapsed start attempts left p e
        { next with contacted := idx :: next.contacted }

/-- `post_json`, where endpoint `i` would answer `answers i` after `elapsed i` microseconds. -/
def postJson (p : RotatingRpcPool) (answers : ℕ → Except BootstrapError V)
    (elapsed : ℕ → UInt64) : PostOutcome V :=
  let attempts := min (max p.maxAttempts 1) (max p.urls.length 1)
  p.postLoop answers elapsed p.currentIndex attempts attempts (.rpc "no attempts")

/-! ## The pool's invariant -/

/-- Every request has succeeded or failed. -/
def Balanced (s : EndpointStats) : Prop := s.requests = s.successes + s.errors

/-- A pool of some endpoints, one of them current, that may try each. -/
structure Ready (p : RotatingRpcPool) : Prop where
  nonempty : 0 < p.urls.length
  attempts : p.maxAttempts = p.urls.length
  index_lt : p.index < p.urls.length

/-- A pool between calls: it is ready and the counts of each endpoint add up. -/
structure Sound (p : RotatingRpcPool) : Prop extends Ready p where
  stats_length : p.stats.length = p.urls.length
  balanced : ∀ s ∈ p.stats, Balanced s

/-- A pool that is built has the URLs that are left of the list, none of them a placeholder. -/
lemma fromUrls_eq_ok {urls : List String} {p : RotatingRpcPool} (h : fromUrls urls = .ok p) :
    p.urls = ((urls.map Text.trim).filter fun u => !u.isEmpty) ∧ p.urls ≠ [] ∧
      (∀ u ∈ p.urls, Text.contains u "YOUR_" = false) ∧ p.index = 0 ∧
      p.stats = p.urls.map (fun u => ⟨rpcUrlHostOnly u, 0, 0, 0, 0, 0, none⟩) ∧
      p.maxAttempts = p.urls.length := by
  unfold fromUrls at h
  simp only at h
  split_ifs at h with hempty
  split at h
  · exact absurd h (by simp)
  · rename_i hfind
    obtain rfl := Except.ok.inj h
    refine ⟨rfl, by simpa using hempty, fun u hu => ?_, rfl, rfl, rfl⟩
    have hplain : ¬Text.contains u "YOUR_" = true := List.find?_eq_none.1 hfind u hu
    simpa using hplain

lemma sound_fromUrls {urls : List String} {p : RotatingRpcPool} (h : fromUrls urls = .ok p) :
    p.Sound := by
  obtain ⟨-, hne, -, hindex, hstats, hattempts⟩ := fromUrls_eq_ok h
  have hpos : 0 < p.urls.length := List.length_pos_iff.2 hne
  refine ⟨⟨hpos, hattempts, hindex ▸ hpos⟩, by rw [hstats, List.length_map], fun s hs => ?_⟩
  rw [hstats] at hs
  obtain ⟨u, _, rfl⟩ := List.mem_map.1 hs
  rfl

lemma mem_modify {α : Type*} {l : List α} {i : ℕ} {f : α → α} {x : α} (h : x ∈ l.modify i f) :
    x ∈ l ∨ ∃ y ∈ l, x = f y := by
  obtain ⟨j, hj⟩ := List.mem_iff_getElem?.1 h
  rw [List.getElem?_modify] at hj
  obtain ⟨y, hy, rfl⟩ := Option.map_eq_some_iff.1 hj
  have hmem : y ∈ l := List.mem_iff_getElem?.2 ⟨j, hy⟩
  by_cases hij : i = j
  · exact Or.inr ⟨y, hmem, by simp [hij]⟩
  · exact Or.inl (by simpa [hij] using hmem)

lemma Sound.updateStats {p : RotatingRpcPool} (h : p.Sound) (idx : ℕ)
    {f : EndpointStats → EndpointStats} (hf : ∀ s, Balanced s → Balanced (f s)) :
    (p.updateStats idx f).Sound where
  toReady := ⟨h.nonempty, h.attempts, h.index_lt⟩
  stats_length := (List.length_modify ..).trans h.stats_length
  balanced := by
    intro s hs
    rcases mem_modify hs with hs | ⟨s', hs', rfl⟩
    · exact h.balanced s hs
    · exact hf s' (h.balanced s' hs')

lemma Sound.setIndex {p : RotatingRpcPool} (h : p.Sound) {idx : ℕ} (hidx : idx < p.urls.length) :
    Sound { p with index := idx } where
  toReady := ⟨h.nonempty, h.attempts, hidx⟩
  stats_length := h.stats_length
  balanced := h.balanced

lemma updateStats_updateStats (p : RotatingRpcPool) (idx : ℕ)
    (f g : EndpointStats → EndpointStats) :
    (p.updateStats idx f).updateStats idx g = p.updateStats idx (g ∘ f) := by
  simp only [updateStats, List.modify_modify_eq]

/-- One request keeps the counts in balance, whatever its outcome. -/
lemma Sound.postOnce {p : RotatingRpcPool} (h : p.Sound) (idx : ℕ)
    (answer : Except BootstrapError V) (elapsed : UInt64) :
    (p.postOnce idx answer elapsed).Sound := by
  cases answer with
  | ok v =>
      simp only [RotatingRpcPool.postOnce, updateStats_updateStats]
      refine h.updateStats idx fun s hs => ?_
      simp only [Balanced, Function.comp_apply] at hs ⊢
      rw [hs, UInt64.add_assoc, UInt64.add_comm s.errors, UInt64.add_assoc]
  | error e =>
      simp only [RotatingRpcPool.postOnce, updateStats_updateStats]
      refine h.updateStats idx fun s hs => ?_
      simp only [Balanced, Function.comp_apply] at hs ⊢
      rw [hs, UInt64.add_assoc]

lemma Sound.advance {p : RotatingRpcPool} (h : p.Sound) (idx : ℕ) (kind : RpcFailKind) :
    (p.advance idx kind).Sound := by
  rw [RotatingRpcPool.advance, if_neg h.nonempty.ne']
  exact (h.setIndex (Nat.mod_lt _ h.nonempty)).updateStats idx fun _ hs => hs

@[simp] lemma postOnce_urls (p : RotatingRpcPool) (idx : ℕ) (answer : Except BootstrapError V)
    (elapsed : UInt64) : (p.postOnce idx answer elapsed).urls = p.urls := by
  cases answer <;> rfl

@[simp] lemma postOnce_index (p : RotatingRpcPool) (idx : ℕ) (answer : Except BootstrapError V)
    (elapsed : UInt64) : (p.postOnce idx answer elapsed).index = p.index := by
  cases answer <;> rfl

@[simp] lemma advance_urls (p : RotatingRpcPool) (idx : ℕ) (kind : RpcFailKind) :
    (p.advance idx kind).urls = p.urls := by
  unfold advance
  split_ifs <;> rfl

lemma advance_index {p : RotatingRpcPool} (h : 0 < p.urls.length) (idx : ℕ)
    (kind : RpcFailKind) : (p.advance idx kind).index = (idx + 1) % p.urls.length := by
  rw [advance, if_neg h.ne']
  rfl

lemma Sound.postLoop (answers : ℕ → Except BootstrapError V) (elapsed : ℕ → UInt64)
    (start attempts : ℕ) :
    ∀ (left : ℕ) {p : RotatingRpcPool} (lastErr : BootstrapError), p.Sound →
      (RotatingRpcPool.postLoop answers elapsed start attempts left p lastErr).pool.Sound
  | 0, _, _, h => h
  | left + 1, p, lastErr, h => by
      set idx := (start + (attempts - (left + 1))) % p.urls.length with hidx
      have honce : (p.postOnce idx (answers idx) (elapsed idx)).Sound :=
        h.postOnce idx (answers idx) (elapsed idx)
      have hlt : idx < (p.postOnce idx (answers idx) (elapsed idx)).urls.length := by
        rw [postOnce_urls, hidx]
        exact Nat.mod_lt _ h.nonempty
      simp only [RotatingRpcPool.postLoop, ← hidx]
      cases hanswer : answers idx with
      | ok v =>
          rw [hanswer] at honce hlt
          exact honce.setIndex hlt
      | error e =>
          rw [hanswer] at honce
          simp only
          split_ifs
          · exact Sound.postLoop answers elapsed start attempts left e (honce.advance idx _)
          · exact honce
          · exact Sound.postLoop answers elapsed start attempts left e honce

/-! ## One call -/

/-- What a call contacts and returns: the endpoints from the current one on up to the `k`-th
after it, which is the first whose outcome does not rotate, or the last of all. -/
structure PostSpec (p : RotatingRpcPool) (answers : ℕ → Except BootstrapError V)
    (out : PostOutcome V) (k : ℕ) : Prop where
  lt : k < p.urls.length
  contacted : out.contacted =
    (List.range (k + 1)).map fun j => (p.currentIndex + j) % p.urls.length
  once : out.contacted.Nodup
  rotated : ∀ j < k, Rotates (answers ((p.currentIndex + j) % p.urls.length))
  stopped : k + 1 = p.urls.length ∨ ¬Rotates (answers ((p.currentIndex + k) % p.urls.length))
  result : out.result = answers ((p.currentIndex + k) % p.urls.length)
  current : out.pool.currentIndex = (p.currentIndex + k) % p.urls.length

/-- An attempt that is the last, or whose outcome does not rotate, ends the call. -/
lemma postLoop_stop (answers : ℕ → Except BootstrapError V) (elapsed : ℕ → UInt64)
    {start n a left : ℕ} {p : RotatingRpcPool} (lastErr : BootstrapError)
    (hn : left + 1 + a = n) (hurls : p.urls.length = n) (hindex : p.index = (start + a) % n)
    (hstop : a + 1 = n ∨ ¬Rotates (answers ((start + a) % n))) :
    (postLoop answers elapsed start n (left + 1) p lastErr).contacted = [(start + a) % n] ∧
      (postLoop answers elapsed start n (left + 1) p lastErr).result =
        answers ((start + a) % n) ∧
      (postLoop answers elapsed start n (left + 1) p lastErr).pool.index = (start + a) % n := by
  have hattempt : n - (left + 1) = a := by omega
  simp only [postLoop, hattempt, hurls]
  cases hanswer : answers ((start + a) % n) with
  | ok v => exact ⟨rfl, rfl, rfl⟩
  | error e =>
      by_cases hrot : (classifyError e).shouldRotate = true
      · -- the last attempt of all: the loop is left with the error it carries
        have hlast : a + 1 = n := hstop.resolve_right fun h => h (by rw [hanswer]; exact hrot)
        obtain rfl : left = 0 := by omega
        simp [hrot, hlast, postLoop, hindex]
      · simp [hrot, hindex]

/-- Any other attempt makes the next endpoint current and goes on with it. -/
lemma postLoop_next (answers : ℕ → Except BootstrapError V) (elapsed : ℕ → UInt64)
    {start n a left : ℕ} {p : RotatingRpcPool} (lastErr : BootstrapError)
    (hn : left + 2 + a = n) (hurls : p.urls.length = n)
    (hrot : Rotates (answers ((start + a) % n))) :
    ∃ (q : RotatingRpcPool) (e : BootstrapError),
      q.urls.length = n ∧ q.index = (start + (a + 1)) % n ∧
        postLoop answers elapsed start n (left + 2) p lastErr =
          { postLoop answers elapsed start n (left + 1) q e with
            contacted := (start + a) % n ::
              (postLoop answers elapsed start n (left + 1) q e).contacted } := by
  have hattempt : n - (left + 1 + 1) = a := by omega
  have hmore : a + 1 < n := by omega
  cases hanswer : answers ((start + a) % n) with
  | ok v => exact absurd hrot (by rw [hanswer]; exact id)
  | error e =>
      have hrot : (classifyError e).shouldRotate = true := by rwa [hanswer] at hrot
      refine ⟨(p.postOnce ((start + a) % n) (.error e : Except BootstrapError V)
        (elapsed ((start + a) % n))).advance ((start + a) % n) (classifyError e), e, ?_, ?_, ?_⟩
      · rw [advance_urls, postOnce_urls, hurls]
      · rw [advance_index, postOnce_urls, hurls, Nat.mod_add_mod, Nat.add_assoc]
        rw [postOnce_urls]
        omega
      · rw [postLoop]
        simp [hattempt, hurls, hanswer, hrot, hmore]

/-- The loop, entered at its `a`-th attempt with the endpoint of that attempt current. -/
lemma postLoop_spec (answers : ℕ → Except BootstrapError V) (elapsed : ℕ → UInt64)
    {start n : ℕ} :
    ∀ (left : ℕ) {a : ℕ} {p : RotatingRpcPool} (lastErr : BootstrapError),
      left + 1 + a = n → p.urls.length = n → p.index = (start + a) % n →
      ∃ k < left + 1,
        (postLoop answers elapsed start n (left + 1) p lastErr).contacted =
          (List.range' a (k + 1)).map (fun j => (start + j) % n) ∧
        (∀ j < k, Rotates (answers ((start + (a + j)) % n))) ∧
        (a + k + 1 = n ∨ ¬Rotates (answers ((start + (a + k)) % n))) ∧
        (postLoop answers elapsed start n (left + 1) p lastErr).result =
          answers ((start + (a + k)) % n) ∧
        (postLoop answers elapsed start n (left + 1) p lastErr).pool.index =
          (start + (a + k)) % n := by
  intro left
  -- By induction on the attempts left: one answer either ends the loop or hands it on.
  induction left with
  | zero =>
      intro a p lastErr hn hurls hindex
      have hlast : a + 1 = n := by omega
      obtain ⟨hcontacted, hresult, hcurrent⟩ :=
        postLoop_stop answers elapsed lastErr hn hurls hindex
          (Or.inl hlast)
      exact ⟨0, Nat.one_pos, hcontacted, fun _ h => absurd h (Nat.not_lt_zero _), Or.inl hlast,
        hresult, hcurrent⟩
  | succ left ih =>
      intro a p lastErr hn hurls hindex
      by_cases hrot : Rotates (answers ((start + a) % n))
      · obtain ⟨q, e, hqurls, hqindex, hloop⟩ :=
          postLoop_next answers elapsed lastErr (by omega) hurls hrot
        obtain ⟨k, hk, hcontacted, hrotated, hstopped, hresult, hcurrent⟩ :=
          ih (a := a + 1) e (by omega) hqurls hqindex
        have hshift : ∀ j, a + 1 + j = a + (j + 1) := fun j => by omega
        rw [hloop]
        refine ⟨k + 1, by omega, ?_, ?_, ?_, ?_, ?_⟩
        · rw [List.range'_succ, List.map_cons, ← hcontacted]
        · intro j hj
          cases j with
          | zero => exact hrot
          | succ j => exact hshift j ▸ hrotated j (by omega)
        · exact hshift k ▸ hstopped
        · exact hshift k ▸ hresult
        · exact hshift k ▸ hcurrent
      · obtain ⟨hcontacted, hresult, hcurrent⟩ :=
          postLoop_stop answers elapsed lastErr (by omega) hurls hindex
            (Or.inr hrot)
        exact ⟨0, by omega, hcontacted, fun _ h => absurd h (Nat.not_lt_zero _), Or.inr hrot,
          hresult, hcurrent⟩

/-- Fewer than `n` endpoints on from one are distinct mod `n`. -/
lemma nodup_range_add_mod {n m : ℕ} (start : ℕ) (hm : m ≤ n) :
    ((List.range m).map fun j => (start + j) % n).Nodup := by
  refine List.Nodup.map_on (fun i hi j hj hij => ?_) List.nodup_range
  have hi : i < n := (List.mem_range.1 hi).trans_le hm
  have hj : j < n := (List.mem_range.1 hj).trans_le hm
  have hmod : i ≡ j [MOD n] := Nat.ModEq.add_left_cancel' start hij
  exact Nat.ModEq.eq_of_lt_of_lt hmod hi hj

lemma Ready.currentIndex_eq {p : RotatingRpcPool} (h : p.Ready) : p.currentIndex = p.index := by
  have hmax : max p.urls.length 1 = p.urls.length := max_eq_left h.nonempty
  rw [currentIndex, hmax, Nat.mod_eq_of_lt h.index_lt]

lemma postJson_eq {p : RotatingRpcPool} (h : p.Ready) (answers : ℕ → Except BootstrapError V)
    (elapsed : ℕ → UInt64) :
    p.postJson answers elapsed =
      p.postLoop answers elapsed p.currentIndex p.urls.length p.urls.length
        (.rpc "no attempts") := by
  have hmax : max p.urls.length 1 = p.urls.length := max_eq_left h.nonempty
  simp only [postJson, h.attempts, hmax, min_self]

@[simp] lemma postLoop_urls (answers : ℕ → Except BootstrapError V) (elapsed : ℕ → UInt64)
    (start attempts : ℕ) (left : ℕ) (p : RotatingRpcPool) (lastErr : BootstrapError) :
    (postLoop answers elapsed start attempts left p lastErr).pool.urls = p.urls := by
  induction left generalizing p lastErr with
  | zero => rfl
  | succ left ih =>
      simp only [postLoop]
      split
      · simp
      · split_ifs <;> simp [ih]

lemma Sound.postJson {p : RotatingRpcPool} (h : p.Sound)
    (answers : ℕ → Except BootstrapError V) (elapsed : ℕ → UInt64) :
    (p.postJson answers elapsed).pool.Sound :=
  Sound.postLoop answers elapsed _ _ _ _ h

lemma postJson_spec {p : RotatingRpcPool} (h : p.Ready) (answers : ℕ → Except BootstrapError V)
    (elapsed : ℕ → UInt64) : ∃ k, p.PostSpec answers (p.postJson answers elapsed) k := by
  obtain ⟨left, hleft⟩ : ∃ left, p.urls.length = left + 1 :=
    Nat.exists_eq_succ_of_ne_zero h.nonempty.ne'
  have hindex : p.index = (p.currentIndex + 0) % p.urls.length := by
    rw [h.currentIndex_eq, Nat.add_zero, Nat.mod_eq_of_lt h.index_lt]
  obtain ⟨k, hk, hcontacted, hrotated, hstopped, hresult, hcurrent⟩ :=
    postLoop_spec answers elapsed left (.rpc "no attempts") hleft.symm rfl hindex
  rw [← hleft] at hcontacted hresult hcurrent
  rw [← postJson_eq h] at hcontacted hresult hcurrent
  simp only [Nat.zero_add] at hrotated hstopped hresult hcurrent
  rw [← List.range_eq_range'] at hcontacted
  have hlt : k < p.urls.length := by omega
  refine ⟨k, hlt, hcontacted, ?_, hrotated, hstopped, hresult, ?_⟩
  · rw [hcontacted]
    exact nodup_range_add_mod p.currentIndex hlt
  · have hurls : (p.postJson answers elapsed).pool.urls = p.urls := postLoop_urls ..
    have hmax : max p.urls.length 1 = p.urls.length := max_eq_left h.nonempty
    rw [currentIndex, hurls, hcurrent, hmax, Nat.mod_mod]

/-! ## Calls one after another -/

/-- What the endpoints answer in one call, and after how long. -/
structure PostCall (V : Type*) where
  answers : ℕ → Except BootstrapError V
  elapsed : ℕ → UInt64

def runCall (p : RotatingRpcPool) (c : PostCall V) : RotatingRpcPool :=
  (p.postJson c.answers c.elapsed).pool

/-- **The contract of `post_json`.**  A call of a ready pool does what `PostSpec` says, and a
pool stays sound over any calls made one after another. -/
theorem post_json_contract :
    (∀ p : RotatingRpcPool, p.Ready →
      ∀ (answers : ℕ → Except BootstrapError V) (elapsed : ℕ → UInt64),
        ∃ k, p.PostSpec answers (p.postJson answers elapsed) k) ∧
    (∀ p : RotatingRpcPool, p.Sound → ∀ calls : List (PostCall V),
      (Runs.exec runCall p calls).Sound) ∧
    (∀ urls p, fromUrls urls = .ok p → p.Sound) := by
  refine ⟨fun p h => postJson_spec h, fun p h calls => ?_, fun urls p h => sound_fromUrls h⟩
  exact Runs.exec_invariant Sound (fun q c hq => hq.postJson c.answers c.elapsed) calls h

/-- Three endpoints as the configuration names them. -/
def threeUrls : List String := [" https://a.example/key", "https://b.example", "https://c.example/"]

/-- The first is out of quota, the second down, the third answers. -/
def thirdAnswers : ℕ → Except BootstrapError Unit
  | 0 => .error (.http "HTTP 429")
  | 1 => .error (.http "HTTP 503")
  | _ => .ok ()

lemma ready_of_fromUrls_threeUrls : ∃ p, fromUrls threeUrls = .ok p ∧ p.urls.length = 3 ∧
    (p.postJson thirdAnswers fun _ => 20).contacted = [0, 1, 2] := by
  refine ⟨_, rfl, ?_, ?_⟩
  · decide
  · decide

theorem post_json_contract_threeUrls :
    ∃ p, fromUrls threeUrls = .ok p ∧ p.Sound ∧
      (∃ k, p.PostSpec thirdAnswers (p.postJson thirdAnswers fun _ => 20) k) ∧
      (p.postJson thirdAnswers fun _ => 20).contacted = [0, 1, 2] ∧
      (Runs.exec runCall p [⟨thirdAnswers, fun _ => 20⟩, ⟨thirdAnswers, fun _ => 30⟩]).Sound := by
  obtain ⟨p, hp, _, hcontacted⟩ := ready_of_fromUrls_threeUrls
  obtain ⟨hcall, hruns, hnew⟩ := post_json_contract (V := Unit)
  have hsound : p.Sound := hnew threeUrls p hp
  exact ⟨p, hp, hsound, hcall p hsound.toReady thirdAnswers _, hcontacted, hruns p hsound _⟩

end RotatingRpcPool

end Grokbotliq
