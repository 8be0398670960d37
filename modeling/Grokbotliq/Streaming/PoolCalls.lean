import Grokbotliq.Streaming.RpcPool

/-!
# Calls at the same time

`RotatingRpcPool` is shared: any number of `post_json` calls run on one pool at once.  Each
reads the current endpoint once, when it starts, and then counts a request, waits for the
answer, counts the outcome and stores the next endpoint in steps between which the others get
in.  The index is an atomic that is only ever stored; the statistics are behind a mutex.

A call is not disturbed by the others in what it does: it asks the endpoints from the one it
started at, each at most once, and stops at the first outcome that does not rotate
(`calls_contract`).  Nor is any count lost: the statistics of an endpoint are what the calls
have heard from it, counted (`counts_exact`).

A call's own state is what it has heard, and `Kept` says what that must be for each point it can
have reached; a step of another call does not touch it.  The shared index decides only where a
call starts.  For the counts each call has a share in each counter (`share`), and a step adds to
the counter what it adds to the share (`counted_callStep`).
-/

namespace Grokbotliq

/-- How far a `post_json` has come. -/
inductive PostPhase (V : Type*)
  | fresh
  /-- At the head of the loop. -/
  | asking (start attempt : ℕ)
  /-- The request is counted and under way. -/
  | waiting (start attempt : ℕ)
  /-- In `advance`, before the index is stored. -/
  | advancing (start attempt : ℕ) (kind : RpcFailKind)
  /-- In `advance`, before the rotation is counted. -/
  | rotating (start attempt : ℕ) (kind : RpcFailKind)
  /-- Answered, before the index is stored. -/
  | sticking (idx : ℕ) (v : V)
  | done (result : Except BootstrapError V)

/-- A call, with the answers it has had and who gave them. -/
structure PostState (V : Type*) where
  phase : PostPhase V
  heard : List (ℕ × Except BootstrapError V)

namespace RotatingRpcPool

variable {V : Type*}

/-- `self.inner.max_attempts.max(1).min(n.max(1))`. -/
def attempts (p : RotatingRpcPool) : ℕ := min (max p.maxAttempts 1) (max p.urls.length 1)

def countRequest (s : EndpointStats) : EndpointStats := { s with requests := s.requests + 1 }

def countSuccess (elapsed : UInt64) (s : EndpointStats) : EndpointStats :=
  { s with
    successes := s.successes + 1
    latencyUsSum := MachineInt.satAddU64 s.latencyUsSum elapsed }

def countError (kind : RpcFailKind) (s : EndpointStats) : EndpointStats :=
  { s with
    errors := s.errors + 1
    lastErrorKind := some kind.asStr }

def countRotation (kind : RpcFailKind) (s : EndpointStats) : EndpointStats :=
  { s with
    rotationsAway := s.rotationsAway + 1
    lastErrorKind := some kind.asStr }

/-- The next step of one call, on the pool it finds. -/
def callStep (p : RotatingRpcPool) (c : PostState V) (input : PostCall V) :
    RotatingRpcPool × PostState V :=
  match c.phase with
  | .fresh => (p, { c with phase := .asking p.currentIndex 0 })
  | .asking start attempt =>
    (p.updateStats ((start + attempt) % p.urls.length) countRequest,
      { c with phase := .waiting start attempt })
  | .waiting start attempt =>
    let idx := (start + attempt) % p.urls.length
    match input.answers idx with
    | .ok v =>
      (p.updateStats idx (countSuccess (input.elapsed idx)),
        ⟨.sticking idx v, c.heard ++ [(idx, .ok v)]⟩)
    | .error e =>
      let kind := classifyError e
      (p.updateStats idx (countError kind),
        ⟨if kind.shouldRotate && decide (attempt + 1 < p.attempts) then
            .advancing start attempt kind
          else .done (.error e),
          c.heard ++ [(idx, .error e)]⟩)
  | .advancing start attempt kind =>
    ({ p with index := ((start + attempt) % p.urls.length + 1) % p.urls.length },
      { c with phase := .rotating start attempt kind })
  | .rotating start attempt kind =>
    (p.updateStats ((start + attempt) % p.urls.length) (countRotation kind),
      { c with phase := .asking start (attempt + 1) })
  | .sticking idx v => ({ p with index := idx }, { c with phase := .done (.ok v) })
  | .done _ => (p, c)

end RotatingRpcPool

/-- A pool and the calls on it. -/
structure PoolCalls (ι V : Type*) where
  pool : RotatingRpcPool
  call : ι → PostState V

namespace PoolCalls

open RotatingRpcPool

variable {ι V : Type*}

/-- Every call about to start. -/
def start (p : RotatingRpcPool) : PoolCalls ι V := ⟨p, fun _ => ⟨.fresh, []⟩⟩

/-- The next step of one of the calls. -/
def step [DecidableEq ι] (s : PoolCalls ι V) (letter : ι × PostCall V) : PoolCalls ι V :=
  let next := s.pool.callStep (s.call letter.1) letter.2
  ⟨next.1, Function.update s.call letter.1 next.2⟩

/-! ## One call -/

/-- The answers to the first `a` attempts of a call that began at `start`, each of them one
that moves the call on. -/
structure Tried (n start a : ℕ) (heard : List (ℕ × Except BootstrapError V)) : Prop where
  asked : heard.map Prod.fst = (List.range a).map fun j => (start + j) % n
  rotated : ∀ answer ∈ heard, Rotates answer.2

lemma tried_zero (n start : ℕ) : Tried (V := V) n start 0 [] := ⟨rfl, by simp⟩

lemma Tried.succ {n start a : ℕ} {heard : List (ℕ × Except BootstrapError V)}
    (h : Tried n start a heard) {answer : Except BootstrapError V} (hrot : Rotates answer) :
    Tried n start (a + 1) (heard ++ [((start + a) % n, answer)]) where
  asked := by rw [List.map_append, h.asked, List.range_succ, List.map_append]; rfl
  rotated := by
    intro other hother
    rcases List.mem_append.1 hother with hold | hnew
    · exact h.rotated other hold
    · obtain rfl := List.mem_singleton.1 hnew
      exact hrot

/-- A call that has had the answer `result` to its attempt `a` after moving on from all before. -/
def Answered (n : ℕ) (heard : List (ℕ × Except BootstrapError V)) (start a : ℕ)
    (result : Except BootstrapError V) : Prop :=
  a < n ∧ ∃ pre, heard = pre ++ [((start + a) % n, result)] ∧ Tried n start a pre

/-- What a call has done, by how far it has come. -/
def Kept (n : ℕ) (c : PostState V) : Prop :=
  match c.phase with
  | .fresh => c.heard = []
  | .asking start a => a < n ∧ Tried n start a c.heard
  | .waiting start a => a < n ∧ Tried n start a c.heard
  | .advancing start a _ => a + 1 < n ∧ Tried n start (a + 1) c.heard
  | .rotating start a _ => a + 1 < n ∧ Tried n start (a + 1) c.heard
  | .sticking idx v =>
    ∃ start a, idx = (start + a) % n ∧ Answered n c.heard start a (.ok v)
  | .done result =>
    ∃ start a, Answered n c.heard start a result ∧ (a + 1 = n ∨ ¬ Rotates result)

/-- The steps a call has left to make. -/
def stepsLeft (n : ℕ) : PostPhase V → ℕ
  | .fresh => 4 * n
  | .asking _ a => 4 * (n - a) - 1
  | .waiting _ a => 4 * (n - a) - 2
  | .advancing _ a _ => 4 * (n - a) - 3
  | .rotating _ a _ => 4 * (n - a) - 4
  | .sticking _ _ => 1
  | .done _ => 0

lemma callStep_urls (p : RotatingRpcPool) (c : PostState V) (input : PostCall V) :
    (p.callStep c input).1.urls = p.urls := by
  unfold callStep
  split
  · rfl
  · rfl
  · dsimp only
    split <;> rfl
  · rfl
  · rfl
  · rfl
  · rfl

lemma callStep_maxAttempts (p : RotatingRpcPool) (c : PostState V) (input : PostCall V) :
    (p.callStep c input).1.maxAttempts = p.maxAttempts := by
  unfold callStep
  split
  · rfl
  · rfl
  · dsimp only
    split <;> rfl
  · rfl
  · rfl
  · rfl
  · rfl

lemma Ready.attempts_eq {p : RotatingRpcPool} (h : p.Ready) : p.attempts = p.urls.length := by
  have hmax : max p.urls.length 1 = p.urls.length := max_eq_left h.nonempty
  rw [RotatingRpcPool.attempts, h.attempts, hmax, min_self]

/-- **One step of a call** keeps what it has done in order, and is one step less. -/
lemma kept_callStep {p : RotatingRpcPool} (h : p.Ready) {c : PostState V}
    (hc : Kept p.urls.length c) (input : PostCall V) :
    Kept p.urls.length (p.callStep c input).2 ∧
      stepsLeft p.urls.length (p.callStep c input).2.phase ≤
        stepsLeft p.urls.length c.phase - 1 := by
  obtain ⟨phase, heard⟩ := c
  cases phase with
  | fresh =>
      obtain rfl : heard = [] := hc
      have hpos := h.nonempty
      exact ⟨⟨hpos, tried_zero _ _⟩, by simp [callStep, stepsLeft]⟩
  | asking start a =>
      obtain ⟨hlt, htried⟩ : a < p.urls.length ∧ Tried _ start a heard := hc
      refine ⟨⟨hlt, htried⟩, ?_⟩
      simp only [callStep, stepsLeft]
      omega
  | waiting start a =>
      obtain ⟨hlt, htried⟩ : a < p.urls.length ∧ Tried _ start a heard := hc
      cases hanswer : input.answers ((start + a) % p.urls.length) with
      | ok v =>
          simp only [callStep, hanswer]
          refine ⟨⟨start, a, rfl, hlt, heard, rfl, htried⟩, ?_⟩
          simp only [stepsLeft]
          omega
      | error e =>
          simp only [callStep, hanswer, Ready.attempts_eq h]
          -- A failed attempt goes on to the next endpoint, or ends the call with its error.
          split_ifs with hgo
          · rw [Bool.and_eq_true, decide_eq_true_eq] at hgo
            refine ⟨⟨hgo.2, htried.succ hgo.1⟩, ?_⟩
            simp only [stepsLeft]
            omega
          · refine ⟨⟨start, a, ⟨hlt, heard, rfl, htried⟩, ?_⟩, by simp [stepsLeft]⟩
            by_cases hrot : (classifyError e).shouldRotate = true
            · rw [hrot, Bool.true_and, decide_eq_true_eq] at hgo
              exact Or.inl (by omega)
            · exact Or.inr hrot
  | advancing start a kind =>
      obtain ⟨hlt, htried⟩ : a + 1 < p.urls.length ∧ Tried _ start (a + 1) heard := hc
      refine ⟨⟨hlt, htried⟩, ?_⟩
      simp only [callStep, stepsLeft]
      omega
  | rotating start a kind =>
      obtain ⟨hlt, htried⟩ : a + 1 < p.urls.length ∧ Tried _ start (a + 1) heard := hc
      refine ⟨⟨hlt, htried⟩, ?_⟩
      simp only [callStep, stepsLeft]
      omega
  | sticking idx v =>
      obtain ⟨start, a, rfl, hanswered⟩ : ∃ start a, idx = (start + a) % p.urls.length ∧
        Answered _ heard start a (.ok v) := hc
      exact ⟨⟨start, a, hanswered, Or.inr id⟩, by simp [callStep, stepsLeft]⟩
  | done result => exact ⟨hc, by simp [callStep, stepsLeft]⟩

lemma ready_callStep {p : RotatingRpcPool} (h : p.Ready) {c : PostState V}
    (hc : Kept p.urls.length c) (input : PostCall V) : (p.callStep c input).1.Ready where
  nonempty := by rw [callStep_urls]; exact h.nonempty
  attempts := by rw [callStep_urls, callStep_maxAttempts]; exact h.attempts
  index_lt := by
    rw [callStep_urls]
    obtain ⟨phase, heard⟩ := c
    -- Only advancing and sticking move the index, both to an endpoint of the pool.
    cases phase with
    | fresh => exact h.index_lt
    | asking start a => exact h.index_lt
    | waiting start a =>
        simp only [callStep]
        split <;> exact h.index_lt
    | advancing start a kind => exact Nat.mod_lt _ h.nonempty
    | rotating start a kind => exact h.index_lt
    | sticking idx v =>
        obtain ⟨start, a, rfl, -⟩ : ∃ start a, idx = (start + a) % p.urls.length ∧
          Answered _ heard start a (.ok v) := hc
        exact Nat.mod_lt _ h.nonempty
    | done result => exact h.index_lt

/-! ## Any interleaving -/

/-- Every call is in order, on a pool of `n` endpoints. -/
structure InOrder (n : ℕ) (s : PoolCalls ι V) : Prop where
  ready : s.pool.Ready
  length : s.pool.urls.length = n
  kept : ∀ i, Kept n (s.call i)

lemma inOrder_start {p : RotatingRpcPool} (h : p.Ready) :
    (start p : PoolCalls ι V).InOrder p.urls.length := ⟨h, rfl, fun _ => rfl⟩

variable [DecidableEq ι]

@[simp] lemma step_call_self (s : PoolCalls ι V) (i : ι) (input : PostCall V) :
    (s.step (i, input)).call i = (s.pool.callStep (s.call i) input).2 :=
  Function.update_self ..

lemma step_call_of_ne {i j : ι} (h : j ≠ i) (s : PoolCalls ι V) (input : PostCall V) :
    (s.step (i, input)).call j = s.call j :=
  Function.update_of_ne h ..

lemma InOrder.step {n : ℕ} {s : PoolCalls ι V} (h : s.InOrder n) (letter : ι × PostCall V) :
    (s.step letter).InOrder n := by
  obtain ⟨i, input⟩ := letter
  obtain ⟨hready, rfl, hkept⟩ := h
  refine ⟨ready_callStep hready (hkept i) input, ?_, fun j => ?_⟩
  · exact congrArg List.length (callStep_urls ..)
  · by_cases hj : j = i
    · rw [hj, step_call_self]
      exact (kept_callStep hready (hkept i) input).1
    · rw [step_call_of_ne hj]
      exact hkept j

lemma inOrder_exec {n : ℕ} {s : PoolCalls ι V} (h : s.InOrder n)
    (run : List (ι × PostCall V)) : (Runs.exec step s run).InOrder n :=
  Runs.exec_invariant (InOrder n) (fun _ letter hs => hs.step letter) run h

/-- Each step of a call brings it nearer its end; the steps of the others do not hold it up. -/
lemma stepsLeft_exec {n : ℕ} (i : ι) :
    ∀ (run : List (ι × PostCall V)) {s : PoolCalls ι V}, s.InOrder n →
      stepsLeft n ((Runs.exec step s run).call i).phase ≤
        stepsLeft n (s.call i).phase - run.countP fun letter => letter.1 = i
  | [], _, _ => by simp
  | (j, input) :: run, s, h => by
      have hrest := stepsLeft_exec i run (h.step (j, input))
      have hlength := h.length
      rw [Runs.exec_cons, List.countP_cons]
      by_cases hj : j = i
      · subst hj
        have hless := (kept_callStep h.ready (hlength ▸ h.kept j) input).2
        rw [hlength] at hless
        rw [step_call_self] at hrest
        simp only [decide_true, if_true]
        exact hrest.trans (by omega)
      · simpa [step_call_of_ne (Ne.symm hj), hj] using hrest

lemma Tried.nodup {n start a : ℕ} {heard : List (ℕ × Except BootstrapError V)}
    (h : Tried n start a heard) (hle : a ≤ n) : (heard.map Prod.fst).Nodup := by
  rw [h.asked]
  exact nodup_range_add_mod start hle

/-- Both ends of what a call that has its answer has heard. -/
lemma Answered.asked {n start a : ℕ} {heard : List (ℕ × Except BootstrapError V)}
    {result : Except BootstrapError V} (h : Answered n heard start a result) :
    heard.map Prod.fst = (List.range (a + 1)).map fun j => (start + j) % n := by
  obtain ⟨-, pre, rfl, htried⟩ := h
  rw [List.map_append, htried.asked, List.range_succ, List.map_append]
  rfl

lemma Kept.nodup {n : ℕ} {c : PostState V} (h : Kept n c) : (c.heard.map Prod.fst).Nodup := by
  obtain ⟨phase, heard⟩ := c
  cases phase with
  | fresh =>
      obtain rfl : heard = [] := h
      exact List.nodup_nil
  | asking start a => exact h.2.nodup h.1.le
  | waiting start a => exact h.2.nodup h.1.le
  | advancing start a kind => exact h.2.nodup h.1.le
  | rotating start a kind => exact h.2.nodup h.1.le
  | sticking idx v =>
      obtain ⟨start, a, -, hanswered⟩ := h
      rw [hanswered.asked]
      exact nodup_range_add_mod start hanswered.1
  | done result =>
      obtain ⟨start, a, hanswered, -⟩ := h
      rw [hanswered.asked]
      exact nodup_range_add_mod start hanswered.1

/-- **Every call keeps its contract among the others.**  In any interleaving of any calls on a
pool: no call hears from an endpoint twice; one that has returned heard from the endpoints from
some one on in turn, each answer before its last moved it on, its last is what it returned, and
it is one that does not or the last endpoint's; a call that has had four steps for each
endpoint has returned, whatever the others do; and the pool stays ready. -/
theorem calls_contract (p : RotatingRpcPool) (hp : p.Ready) (run : List (ι × PostCall V)) (i : ι) :
    (((Runs.exec step (start p) run).call i).heard.map Prod.fst).Nodup ∧
      (∀ result, ((Runs.exec step (start p) run).call i).phase = .done result →
        ∃ first k, k < p.urls.length ∧
          ((Runs.exec step (start p) run).call i).heard.map Prod.fst =
            (List.range (k + 1)).map (fun j => (first + j) % p.urls.length) ∧
          (∀ answer ∈ ((Runs.exec step (start p) run).call i).heard.dropLast,
            Rotates answer.2) ∧
          ((Runs.exec step (start p) run).call i).heard.getLast? =
            some ((first + k) % p.urls.length, result) ∧
          (k + 1 = p.urls.length ∨ ¬ Rotates result)) ∧
      (4 * p.urls.length ≤ (run.countP fun letter => letter.1 = i) →
        ∃ result, ((Runs.exec step (start p) run).call i).phase = .done result) ∧
      (Runs.exec step (start p : PoolCalls ι V) run).pool.Ready := by
  have horder := inOrder_exec (inOrder_start (ι := ι) (V := V) hp) run
  have hleft := stepsLeft_exec i run (inOrder_start (ι := ι) (V := V) hp)
  have hkept := horder.kept i
  refine ⟨hkept.nodup, fun result hdone => ?_, fun hturns => ?_, horder.ready⟩
  · rw [Kept, hdone] at hkept
    obtain ⟨first, k, hanswered, hstop⟩ := hkept
    refine ⟨first, k, hanswered.1, hanswered.asked, ?_, ?_, hstop⟩
    · obtain ⟨-, pre, hheard, htried⟩ := hanswered
      rw [hheard, List.dropLast_concat]
      exact htried.rotated
    · obtain ⟨-, pre, hheard, -⟩ := hanswered
      rw [hheard, List.getLast?_concat]
  · have hzero : stepsLeft p.urls.length ((Runs.exec step (start p) run).call i).phase = 0 := by
      have hfirst : stepsLeft p.urls.length ((start p : PoolCalls ι V).call i).phase =
          4 * p.urls.length := by rfl
      omega
    cases hphase : ((Runs.exec step (start p) run).call i).phase with
    | done result => exact ⟨result, rfl⟩
    | fresh => rw [hphase, stepsLeft] at hzero; have := hp.nonempty; omega
    | asking first a => rw [Kept, hphase] at hkept; rw [hphase, stepsLeft] at hzero; omega
    | waiting first a => rw [Kept, hphase] at hkept; rw [hphase, stepsLeft] at hzero; omega
    | advancing first a kind => rw [Kept, hphase] at hkept; rw [hphase, stepsLeft] at hzero; omega
    | rotating first a kind => rw [Kept, hphase] at hkept; rw [hphase, stepsLeft] at hzero; omega
    | sticking idx v => rw [hphase, stepsLeft] at hzero; omega

/-! ## A call with the pool to itself

Four steps of the relation are one turn of the loop, so its run is that of the function. -/

/-- A call that has returned stays as it is. -/
lemma exec_done (p : RotatingRpcPool) (result : Except BootstrapError V)
    (heard : List (ℕ × Except BootstrapError V)) (inputs : List (PostCall V)) :
    Runs.exec (fun s input => callStep s.1 s.2 input) (p, ⟨.done result, heard⟩) inputs =
      (p, ⟨.done result, heard⟩) := by
  induction inputs with
  | nil => rfl
  | cons input inputs ih => exact ih

/-- Four steps of a call at the head of its loop are one turn of the loop of `post_json`. -/
lemma exec_attempt {p : RotatingRpcPool} (hp : p.urls.length ≠ 0) (input : PostCall V)
    (start a m : ℕ) (heard : List (ℕ × Except BootstrapError V)) {idx : ℕ}
    (hidx : idx = (start + a) % p.urls.length) :
    Runs.exec (fun s input => callStep s.1 s.2 input) (p, ⟨.asking start a, heard⟩)
        (List.replicate (m + 4) input) =
      match input.answers idx with
      | .ok v =>
        ({ p.postOnce idx (input.answers idx) (input.elapsed idx) with index := idx },
          ⟨.done (.ok v), heard ++ [(idx, .ok v)]⟩)
      | .error e =>
        if (classifyError e).shouldRotate && decide (a + 1 < p.attempts) then
          Runs.exec (fun s input => callStep s.1 s.2 input)
            ((p.postOnce idx (input.answers idx) (input.elapsed idx)).advance idx
              (classifyError e), ⟨.asking start (a + 1), heard ++ [(idx, .error e)]⟩)
            (List.replicate m input)
        else
          (p.postOnce idx (input.answers idx) (input.elapsed idx),
            ⟨.done (.error e), heard ++ [(idx, .error e)]⟩) := by
  subst hidx
  have hurls : (p.updateStats ((start + a) % p.urls.length) countRequest).urls = p.urls := rfl
  have hattempts : attempts (p.updateStats ((start + a) % p.urls.length) countRequest) =
      p.attempts := rfl
  simp only [List.replicate_succ, Runs.exec_cons]
  -- Four steps are one attempt, whether it sticks, ends the call or rotates.
  cases hanswer : input.answers ((start + a) % p.urls.length) with
  | ok v =>
      simp only [callStep, hurls, hanswer]
      exact exec_done _ _ _ _
  | error e =>
      simp only [callStep, hurls, hattempts, hanswer]
      cases (classifyError e).shouldRotate && decide (a + 1 < p.attempts) with
      | false => exact exec_done _ _ _ (input :: input :: List.replicate m input)
      | true =>
          simp only [if_true, advance, postOnce_urls, if_neg hp]
          rfl

lemma postOnce_attempts (p : RotatingRpcPool) (idx : ℕ) (answer : Except BootstrapError V)
    (elapsed : UInt64) : (p.postOnce idx answer elapsed).attempts = p.attempts := by
  cases answer <;> rfl

lemma advance_attempts (p : RotatingRpcPool) (idx : ℕ) (kind : RpcFailKind) :
    (p.advance idx kind).attempts = p.attempts := by
  unfold advance
  split_ifs <;> rfl

/-- The loop of `post_json` in four steps for each attempt left. -/
lemma exec_loop (input : PostCall V) (start : ℕ) {n : ℕ} :
    ∀ (left : ℕ) {a : ℕ} {p : RotatingRpcPool} (heard : List (ℕ × Except BootstrapError V))
      (lastErr : BootstrapError), left + 1 + a = n → p.urls.length = n → p.attempts = n →
      ∀ m, ∃ heard',
        Runs.exec (fun s input => callStep s.1 s.2 input) (p, ⟨.asking start a, heard⟩)
            (List.replicate (m + 4 * (left + 1)) input) =
          ((postLoop input.answers input.elapsed start n (left + 1) p lastErr).pool,
            ⟨.done (postLoop input.answers input.elapsed start n (left + 1) p lastErr).result,
              heard'⟩)
  | left, a, p, heard, lastErr, hn, hurls, hattempts, m => by
      have hpos : p.urls.length ≠ 0 := by omega
      have hattempt : n - (left + 1) = a := by omega
      have hsteps : m + 4 * (left + 1) = m + 4 * left + 4 := by omega
      rw [hsteps, exec_attempt hpos input start a _ heard rfl, hurls, hattempts, postLoop, hurls,
        hattempt]
      cases hanswer : input.answers ((start + a) % n) with
      | ok v => exact ⟨_, rfl⟩
      | error e =>
          by_cases hrot : (classifyError e).shouldRotate = true
          -- Another endpoint is left exactly while another attempt is.
          · by_cases hmore : a + 1 < n
            · obtain ⟨left, rfl⟩ : ∃ k, left = k + 1 := ⟨left - 1, by omega⟩
              simp only [hrot, hmore, decide_true, Bool.and_self, if_true]
              refine exec_loop input start left _ e (by omega) ?_ ?_ m
              · rw [advance_urls, postOnce_urls, hurls]
              · rw [advance_attempts, postOnce_attempts, hattempts]
            · obtain rfl : left = 0 := by omega
              simp only [hrot, hmore, decide_false, Bool.and_false, Bool.not_true, if_false,
                Bool.false_eq_true, postLoop]
              exact ⟨_, rfl⟩
          · simp only [hrot, Bool.false_and, Bool.not_false, if_true, if_false,
              Bool.false_eq_true]
            exact ⟨_, rfl⟩

/-- The steps of one call among calls that make none. -/
lemma exec_alone (i : ι) (inputs : List (PostCall V)) :
    ∀ s : PoolCalls ι V,
      (Runs.exec step s (inputs.map fun input => (i, input))).pool =
          (Runs.exec (fun s input => callStep s.1 s.2 input) (s.pool, s.call i) inputs).1 ∧
        (Runs.exec step s (inputs.map fun input => (i, input))).call i =
          (Runs.exec (fun s input => callStep s.1 s.2 input) (s.pool, s.call i) inputs).2 := by
  induction inputs with
  | nil => exact fun s => ⟨rfl, rfl⟩
  | cons input inputs ih =>
      intro s
      rw [List.map_cons, Runs.exec_cons, Runs.exec_cons]
      have hrest := ih (s.step (i, input))
      rwa [step_call_self] at hrest

/-- **A call that runs alone is `post_json`.**  Given the steps to finish in, and the endpoints
answering alike throughout, a call that nobody gets in between leaves the pool and returns the
result that `postJson` gives. -/
theorem alone_eq_postJson {s : PoolCalls ι V} (h : s.pool.Ready) {i : ι}
    (hfresh : (s.call i).phase = .fresh) (input : PostCall V) (m : ℕ) :
    (Runs.exec step s
        ((List.replicate (m + 4 * s.pool.urls.length + 1) input).map fun input =>
          (i, input))).pool =
        (s.pool.postJson input.answers input.elapsed).pool ∧
      ((Runs.exec step s
        ((List.replicate (m + 4 * s.pool.urls.length + 1) input).map fun input =>
          (i, input))).call i).phase =
        .done (s.pool.postJson input.answers input.elapsed).result := by
  obtain ⟨left, hleft⟩ : ∃ left, s.pool.urls.length = left + 1 :=
    Nat.exists_eq_succ_of_ne_zero h.nonempty.ne'
  obtain ⟨hpool, hcall⟩ := exec_alone i
    (List.replicate (m + 4 * s.pool.urls.length + 1) input) s
  have hattempts : s.pool.attempts = left + 1 := (Ready.attempts_eq h).trans hleft
  obtain ⟨heard, hloop⟩ := exec_loop input s.pool.currentIndex left (s.call i).heard
    (.rpc "no attempts") (Nat.add_zero _) hleft hattempts m
  have hfirst : callStep s.pool (s.call i) input =
      (s.pool, ⟨.asking s.pool.currentIndex 0, (s.call i).heard⟩) := by
    unfold callStep
    rw [hfresh]
  rw [hpool, hcall, List.replicate_succ, Runs.exec_cons, hfirst, hleft, hloop, postJson_eq h, hleft]
  exact ⟨rfl, rfl⟩

/-! ## The counts -/

end PoolCalls

/-- The counters of an endpoint that only ever go up by one. -/
inductive Counter
  | requests
  | successes
  | errors
  | rotations
  deriving DecidableEq

def EndpointStats.count (s : EndpointStats) : Counter → UInt64
  | .requests => s.requests
  | .successes => s.successes
  | .errors => s.errors
  | .rotations => s.rotationsAway

namespace PoolCalls

open RotatingRpcPool

variable {ι V : Type*}

def isOk (answer : Except BootstrapError V) : Bool :=
  match answer with
  | .ok _ => true
  | .error _ => false

/-- The call is waiting for this endpoint. -/
def pending (n : ℕ) (c : PostState V) (j : ℕ) : ℕ :=
  match c.phase with
  | .waiting start a => if (start + a) % n = j then 1 else 0
  | _ => 0

/-- The answers the call has turned away from, `advance` completed. -/
def movedOn (c : PostState V) : List (ℕ × Except BootstrapError V) :=
  match c.phase with
  | .asking _ _ => c.heard
  | .waiting _ _ => c.heard
  | _ => c.heard.dropLast

/-- What a call adds to a counter of endpoint `j`. -/
def share (n : ℕ) (c : PostState V) (j : ℕ) : Counter → ℕ
  | .requests => (c.heard.countP fun answer => answer.1 = j) + pending n c j
  | .successes => c.heard.countP fun answer => answer.1 = j && isOk answer.2
  | .errors => c.heard.countP fun answer => answer.1 = j && !isOk answer.2
  | .rotations => (movedOn c).countP fun answer => answer.1 = j

lemma getElem_updateStats (p : RotatingRpcPool) (idx : ℕ) (f : EndpointStats → EndpointStats)
    {j : ℕ} {s : EndpointStats} (h : p.stats[j]? = some s) :
    (p.updateStats idx f).stats[j]? = some (if idx = j then f s else s) := by
  rw [updateStats, List.getElem?_modify, h]
  rfl

/-- A step that counts one more of `k` at `idx` in the statistics and in the call's share. -/
lemma counted_of_updateStats {p : RotatingRpcPool} {n idx : ℕ} {k : Counter}
    {f : EndpointStats → EndpointStats} {c c' : PostState V}
    (hf : ∀ s k', (f s).count k' = s.count k' + UInt64.ofNat (if k' = k then 1 else 0))
    (hshare : ∀ j k', share n c' j k' = share n c j k' + if idx = j ∧ k' = k then 1 else 0)
    {j : ℕ} {s : EndpointStats} (h : p.stats[j]? = some s) :
    ∃ s', (p.updateStats idx f).stats[j]? = some s' ∧ ∀ k', ∃ δ,
      s'.count k' = s.count k' + UInt64.ofNat δ ∧ share n c' j k' = share n c j k' + δ := by
  refine ⟨_, getElem_updateStats p idx f h, fun k' => ⟨_, ?_, hshare j k'⟩⟩
  by_cases hj : idx = j
  · simp [hj, hf]
  · simp [hj]

/-- A step that leaves statistics and share alone. -/
lemma counted_of_eq {n : ℕ} {p p' : RotatingRpcPool} (hstats : p'.stats = p.stats)
    {c c' : PostState V} (hshare : ∀ j k, share n c' j k = share n c j k) {j : ℕ}
    {s : EndpointStats} (h : p.stats[j]? = some s) :
    ∃ s', p'.stats[j]? = some s' ∧ ∀ k, ∃ δ,
      s'.count k = s.count k + UInt64.ofNat δ ∧ share n c' j k = share n c j k + δ :=
  ⟨s, hstats ▸ h, fun k => ⟨0, by simp, hshare j k⟩⟩

/-- The last answer of a call that is about to move on came from the endpoint it leaves. -/
lemma Tried.split_last {n start a : ℕ} {heard : List (ℕ × Except BootstrapError V)}
    (h : Tried n start (a + 1) heard) :
    ∃ answer, heard = heard.dropLast ++ [((start + a) % n, answer)] := by
  have hne : heard ≠ [] := by
    rintro rfl
    have hlength := congrArg List.length h.asked
    simp at hlength
  have hlast : (heard.getLast hne).1 = (start + a) % n := by
    have hmap : (heard.map Prod.fst).getLast? = some ((start + a) % n) := by
      rw [h.asked, List.range_succ, List.map_append, List.map_singleton, List.getLast?_concat]
    rw [List.getLast?_map, List.getLast?_eq_some_getLast hne] at hmap
    exact Option.some.inj hmap
  refine ⟨(heard.getLast hne).2, ?_⟩
  rw [← hlast]
  exact (List.dropLast_concat_getLast hne).symm

/-- **One step of a call counts what it adds**: each counter of each endpoint goes up by as much
as the call's share of it. -/
lemma counted_callStep {p : RotatingRpcPool} {c : PostState V} (hc : Kept p.urls.length c)
    (input : PostCall V) {j : ℕ} {s : EndpointStats} (h : p.stats[j]? = some s) :
    ∃ s', (p.callStep c input).1.stats[j]? = some s' ∧ ∀ k, ∃ δ,
      s'.count k = s.count k + UInt64.ofNat δ ∧
        share p.urls.length (p.callStep c input).2 j k = share p.urls.length c j k + δ := by
  obtain ⟨phase, heard⟩ := c
  -- One case a phase: asking, waiting and rotating count, each at one endpoint.
  cases phase with
  | fresh =>
      obtain rfl : heard = [] := hc
      exact counted_of_eq rfl (fun j k => by cases k <;> rfl) h
  | asking start a =>
      refine counted_of_updateStats (k := .requests) (fun s k' => ?_) (fun j k' => ?_) h
      · cases k' <;> simp [countRequest, EndpointStats.count]
      · cases k' <;> simp [callStep, share, pending, movedOn]
  | waiting start a =>
      cases hanswer : input.answers ((start + a) % p.urls.length) with
      | ok v =>
          simp only [callStep, hanswer]
          refine counted_of_updateStats (k := .successes) (fun s k' => ?_) (fun j k' => ?_) h
          · cases k' <;> simp [countSuccess, EndpointStats.count]
          · cases k' <;> simp [share, pending, movedOn, isOk, List.countP_singleton]
      | error e =>
          simp only [callStep, hanswer]
          refine counted_of_updateStats (k := .errors) (fun s k' => ?_) (fun j k' => ?_) h
          · cases k' <;> simp [countError, EndpointStats.count]
          · cases (classifyError e).shouldRotate && decide (a + 1 < p.attempts) <;>
              cases k' <;> simp [share, pending, movedOn, isOk, List.countP_singleton]
  | advancing start a kind => exact counted_of_eq rfl (fun j k => by cases k <;> rfl) h
  | rotating start a kind =>
      obtain ⟨-, htried⟩ : a + 1 < p.urls.length ∧ Tried _ start (a + 1) heard := hc
      obtain ⟨answer, hheard⟩ := htried.split_last
      refine counted_of_updateStats (k := .rotations) (fun s k' => ?_) (fun j k' => ?_) h
      · cases k' <;> simp [countRotation, EndpointStats.count]
      · cases k' with
        | rotations =>
            simp only [callStep, share, movedOn]
            -- The rotation counted here is the one away from the last answer heard.
            nth_rewrite 1 [hheard]
            simp [List.countP_append, List.countP_singleton]
        | _ => simp [callStep, share, pending]
  | sticking idx v => exact counted_of_eq rfl (fun j k => by cases k <;> rfl) h
  | done result => exact counted_of_eq rfl (fun j k => rfl) h

variable [Fintype ι]

/-- Each counter of each endpoint is what it was in `p` and the calls' shares of it. -/
def Counted (p : RotatingRpcPool) (s : PoolCalls ι V) : Prop :=
  ∀ j b, p.stats[j]? = some b → ∃ e, s.pool.stats[j]? = some e ∧
    ∀ k, e.count k = b.count k + UInt64.ofNat (∑ i, share p.urls.length (s.call i) j k)

lemma counted_start (p : RotatingRpcPool) : Counted p (start p : PoolCalls ι V) := by
  refine fun j b hb => ⟨b, hb, fun k => ?_⟩
  have hzero : ∀ i : ι, share p.urls.length ((start p : PoolCalls ι V).call i) j k = 0 :=
    fun i => by cases k <;> rfl
  simp [hzero]

variable [DecidableEq ι]

lemma Counted.step {p : RotatingRpcPool} {s : PoolCalls ι V} (h : Counted p s)
    (horder : s.InOrder p.urls.length) (letter : ι × PostCall V) :
    Counted p (s.step letter) := by
  intro j b hb
  obtain ⟨i, input⟩ := letter
  obtain ⟨e, he, hcount⟩ := h j b hb
  have hlength := horder.length
  obtain ⟨e', he', hstep⟩ := counted_callStep (hlength ▸ horder.kept i) input he
  refine ⟨e', he', fun k => ?_⟩
  obtain ⟨δ, hδ, hshare⟩ := hstep k
  -- The others keep their share, so the sum grows by that of the one that steps.
  have hsum := Runs.sum_update (fun c => share p.urls.length c j k) s.call i
    (s.pool.callStep (s.call i) input).2
  have htotal : ∑ i', share p.urls.length ((s.step (i, input)).call i') j k =
      (∑ i', share p.urls.length (s.call i') j k) + δ := by
    rw [hlength] at hshare
    simp only [hshare] at hsum
    change ∑ i', share p.urls.length
      (Function.update s.call i (s.pool.callStep (s.call i) input).2 i') j k = _
    omega
  rw [hδ, hcount k, htotal, UInt64.ofNat_add, UInt64.add_assoc]

/-- Requests are answered or under way. -/
lemma share_requests (n : ℕ) (c : PostState V) (j : ℕ) :
    share n c j .requests = share n c j .successes + share n c j .errors + pending n c j := by
  simp only [share]
  congr 1
  induction c.heard with
  | nil => rfl
  | cons answer heard ih =>
      simp only [List.countP_cons, ih]
      cases isOk answer.2 <;> by_cases hj : answer.1 = j <;> simp [hj] <;> omega

/-- **No count is lost.**  In any interleaving of any calls on a pool, each counter of each
endpoint has gone up by exactly what the calls have heard from it: its successes by their
answers, its errors by their failures, its rotations by the failures they have moved on from,
and its requests by all of these and the requests under way. -/
theorem counts_exact (p : RotatingRpcPool) (hp : p.Ready) (run : List (ι × PostCall V))
    {j : ℕ} {b : EndpointStats} (hb : p.stats[j]? = some b) :
    ∃ e, (Runs.exec step (start p : PoolCalls ι V) run).pool.stats[j]? = some e ∧
      (∀ k, e.count k = b.count k + UInt64.ofNat
        (∑ i, share p.urls.length ((Runs.exec step (start p) run).call i) j k)) ∧
      (Balanced b → e.requests = e.successes + e.errors + UInt64.ofNat
        (∑ i, pending p.urls.length ((Runs.exec step (start p) run).call i) j)) := by
  have hboth := Runs.exec_invariant
    (fun s : PoolCalls ι V => s.InOrder p.urls.length ∧ Counted p s)
    (fun s letter h => ⟨h.1.step letter, h.2.step h.1 letter⟩) run
    ⟨inOrder_start hp, counted_start p⟩
  obtain ⟨e, he, hcount⟩ := hboth.2 j b hb
  refine ⟨e, he, hcount, fun hbalanced => ?_⟩
  -- A request that is counted is answered, failed or still waited for.
  have hrequests := hcount .requests
  have hsuccesses := hcount .successes
  have herrors := hcount .errors
  simp only [EndpointStats.count, share_requests, Finset.sum_add_distrib, UInt64.ofNat_add]
    at hrequests hsuccesses herrors
  rw [hrequests, hsuccesses, herrors, hbalanced]
  ac_rfl

/-- Two endpoints, the first of them out of quota. -/
def twoEndpoints : RotatingRpcPool where
  urls := ["https://a.example", "https://b.example"]
  index := 0
  stats := [⟨"a.example", 0, 0, 0, 0, 0, none⟩, ⟨"b.example", 0, 0, 0, 0, 0, none⟩]
  maxAttempts := 2

def secondAnswers : PostCall Unit where
  answers idx := if idx = 0 then .error (.http "HTTP 429") else .ok ()
  elapsed _ := 20

lemma ready_twoEndpoints : twoEndpoints.Ready := ⟨by decide, rfl, by decide⟩

/-- Two calls taking turns. -/
def byTurns : List (Bool × PostCall Unit) :=
  (List.range 16).map fun turn => (turn % 2 == 0, secondAnswers)

theorem calls_contract_byTurns :
    ∃ result, ((Runs.exec step (start twoEndpoints) byTurns).call true).phase = .done result :=
  (calls_contract twoEndpoints ready_twoEndpoints byTurns true).2.2.1 (by decide)

theorem alone_eq_postJson_second :
    (Runs.exec step (start twoEndpoints : PoolCalls Bool Unit)
        ((List.replicate (0 + 4 * 2 + 1) secondAnswers).map fun input => (true, input))).pool =
      (twoEndpoints.postJson secondAnswers.answers secondAnswers.elapsed).pool :=
  (alone_eq_postJson (s := start twoEndpoints) ready_twoEndpoints rfl secondAnswers 0).1

theorem counts_exact_byTurns :
    ∃ e, (Runs.exec step (start twoEndpoints : PoolCalls Bool Unit) byTurns).pool.stats[1]? =
        some e ∧
      e.count .successes = 0 + UInt64.ofNat
        (∑ i, share 2 ((Runs.exec step (start twoEndpoints) byTurns).call i) 1 .successes) := by
  obtain ⟨e, he, hcount, -⟩ := counts_exact twoEndpoints ready_twoEndpoints byTurns
    (j := 1) (b := ⟨"b.example", 0, 0, 0, 0, 0, none⟩) rfl
  exact ⟨e, he, hcount .successes⟩

end PoolCalls

end Grokbotliq
