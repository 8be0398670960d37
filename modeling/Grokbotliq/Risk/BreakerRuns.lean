import Grokbotliq.Framework.Runs
import Grokbotliq.Risk.CircuitBreaker

/-!
# Runs of the circuit breaker

The seven calls in any order.  Four things hold of every run in which each end has its own
begin (`breaker_contract`): once enough failures have come in a row, or `trip` was called, the
breaker refuses until `reset`, whatever other liquidations report meanwhile; while paused it
refuses; the in-flight count is begins minus ends; and a refused check leaves every later
decision as it would have been.

For the last of these the state after a refused check is not the state before it, since the
check prunes the window.  `Agrees now` relates two breakers that differ only in what a prune at
`now` forgets, and the calls of a clock that has passed `now` keep them so.

The fields are independent enough for one lemma each: only `reset` closes the breaker, only
`set_paused` changes the pause, only begins and ends the count.  What a check does to the window
is the one effect that a refused call has, and `Agrees` is kept by every later call
(`agrees_call`).
-/

namespace Grokbotliq

/-- One call on the breaker, with its reading of the clock if it takes one. -/
inductive BreakerCall
  | checkAllow (notional staleness : UInt64) (now : ℕ)
  | begin (notional : UInt64) (now : ℕ)
  | endSuccess
  | endFailure
  | trip (reason : String)
  | reset
  | setPaused (paused : Bool)
  deriving DecidableEq

namespace BreakerCall

/-- The reading of the clock. -/
def reading : BreakerCall → Option ℕ
  | checkAllow _ _ now => some now
  | begin _ now => some now
  | _ => none

def isBegin : BreakerCall → Bool
  | begin _ _ => true
  | _ => false

def isEnd : BreakerCall → Bool
  | endSuccess => true
  | endFailure => true
  | _ => false

def isSetPaused : BreakerCall → Bool
  | setPaused _ => true
  | _ => false

/-- The calls that set the failure counter back. -/
def isRelief : BreakerCall → Bool
  | endSuccess => true
  | reset => true
  | _ => false

/-- Every end has a begin of its own before it. -/
def EndsFollowBegins (calls : List BreakerCall) : Prop :=
  ∀ pre ∈ calls.inits, pre.countP isEnd ≤ pre.countP isBegin

instance (calls : List BreakerCall) : Decidable (EndsFollowBegins calls) :=
  inferInstanceAs (Decidable (∀ pre ∈ calls.inits, _))

/-- Since the last `reset`, `trip` was called, or `limit` failures came with no success among
them. -/
def Halted (limit : ℕ) (calls : List BreakerCall) : Prop :=
  ∃ pre row post, calls = pre ++ row ++ post ∧ reset ∉ post ∧
    ((∃ reason, row = [trip reason]) ∨
      (limit ≤ row.count endFailure ∧ ∀ c ∈ row, c.isRelief = false))

/-- The last `set_paused` paused. -/
def Paused (calls : List BreakerCall) : Prop :=
  ∃ pre post, calls = pre ++ setPaused true :: post ∧ ∀ c ∈ post, c.isSetPaused = false

end BreakerCall

namespace CircuitBreaker

open BreakerCall SlidingWindow

def call (b : CircuitBreaker) : BreakerCall → CircuitBreaker
  | .checkAllow n st now => (b.checkAllow n st now).1
  | .begin n now => b.beginLiquidation n now
  | .endSuccess => b.endSuccess
  | .endFailure => b.endFailure
  | .trip reason => b.trip reason
  | .reset => b.reset
  | .setPaused paused => b.setPaused paused

/-- What a call decides, if it is a check. -/
def decision (b : CircuitBreaker) : BreakerCall → Option (Except RiskReject Unit)
  | .checkAllow n st now => some (b.checkAllow n st now).2
  | _ => none

/-- What the calls of a run decide. -/
def decisions : CircuitBreaker → List BreakerCall → List (Option (Except RiskReject Unit))
  | _, [] => []
  | b, c :: cs => b.decision c :: decisions (b.call c) cs

/-! ## What one call does to each field -/

lemma call_limits (b : CircuitBreaker) (c : BreakerCall) : (b.call c).limits = b.limits := by
  cases c with
  | checkAllow n st now => exact checkAllow_limits ..
  | endFailure => exact endFailure_limits b
  | _ => rfl

lemma checkAllow_flags (b : CircuitBreaker) (n st : UInt64) (now : ℕ) :
    (b.checkAllow n st now).1.opened = b.opened ∧ (b.checkAllow n st now).1.paused = b.paused ∧
      (b.checkAllow n st now).1.consecutiveFailures = b.consecutiveFailures := by
  rcases b.checkAllow_state n st now with h | h <;> rw [h] <;> exact ⟨rfl, rfl, rfl⟩

lemma endFailure_opened (b : CircuitBreaker) :
    b.endFailure.opened = true ↔ b.opened = true ∨
      (b.limits.maxConsecutiveFailures ≤ b.consecutiveFailures + 1 ∧
        b.limits.pauseOnBreaker = true) := by
  simp only [endFailure]
  split_ifs with htrip
  · exact iff_of_true rfl (Or.inr htrip)
  · simp [leaveFlight, htrip]

lemma endFailure_consecutiveFailures (b : CircuitBreaker) :
    b.endFailure.consecutiveFailures = b.consecutiveFailures + 1 := by
  simp only [endFailure]
  split_ifs <;> rfl

lemma endFailure_paused (b : CircuitBreaker) : b.endFailure.paused = b.paused := by
  simp only [endFailure]
  split_ifs <;> rfl

/-- Only `reset` closes the breaker. -/
lemma opened_call {b : CircuitBreaker} (h : b.opened = true) {c : BreakerCall}
    (hc : c ≠ .reset) : (b.call c).opened = true := by
  cases c with
  | checkAllow n st now => exact (b.checkAllow_flags n st now).1.trans h
  | endFailure => exact (endFailure_opened b).2 (Or.inl h)
  | trip reason => rfl
  | reset => exact absurd rfl hc
  | _ => exact h

/-- Only `set_paused` unpauses. -/
lemma paused_call {b : CircuitBreaker} (h : b.paused = true) {c : BreakerCall}
    (hc : c.isSetPaused = false) : (b.call c).paused = true := by
  cases c with
  | checkAllow n st now => exact (b.checkAllow_flags n st now).2.1.trans h
  | endFailure => exact (endFailure_paused b).trans h
  | setPaused p => exact absurd hc (by simp [isSetPaused])
  | _ => exact h

lemma checkAllow_of_paused {b : CircuitBreaker} (h : b.paused = true) (n st : UInt64) (now : ℕ) :
    ∃ r, (b.checkAllow n st now).2 = .error r :=
  ⟨.paused, by simp [checkAllow, h]⟩

lemma checkAllow_of_opened {b : CircuitBreaker} (h : b.opened = true) (n st : UInt64) (now : ℕ) :
    ∃ r, (b.checkAllow n st now).2 = .error r := by
  by_cases hpaused : b.paused = true
  · exact checkAllow_of_paused hpaused n st now
  · exact ⟨.circuitOpen (b.reason.getD "open"), by simp [checkAllow, hpaused, h]⟩

/-! ## Failures in a row -/

lemma opened_exec {calls : List BreakerCall} :
    ∀ {b : CircuitBreaker}, b.opened = true → .reset ∉ calls →
      (Runs.exec call b calls).opened = true := by
  induction calls with
  | nil => exact fun h _ => h
  | cons c calls ih =>
      intro b h hno
      have hc : c ≠ .reset := fun heq => hno (heq ▸ List.mem_cons_self)
      exact ih (opened_call h hc) fun hmem => hno (List.mem_cons_of_mem c hmem)

lemma paused_exec {calls : List BreakerCall} :
    ∀ {b : CircuitBreaker}, b.paused = true → (∀ c ∈ calls, c.isSetPaused = false) →
      (Runs.exec call b calls).paused = true := by
  induction calls with
  | nil => exact fun h _ => h
  | cons c calls ih =>
      intro b h hno
      exact ih (paused_call h (hno c List.mem_cons_self))
        fun c' hc' => hno c' (List.mem_cons_of_mem c hc')

lemma limits_exec (b : CircuitBreaker) (calls : List BreakerCall) :
    (Runs.exec call b calls).limits = b.limits := by
  induction calls generalizing b with
  | nil => rfl
  | cons c calls ih => rw [Runs.exec_cons, ih, call_limits]

/-- The failure counter never exceeds the number of failures. -/
lemma consecutiveFailures_exec_le (b : CircuitBreaker) (calls : List BreakerCall) :
    (Runs.exec call b calls).consecutiveFailures.toNat ≤
      b.consecutiveFailures.toNat + calls.count .endFailure := by
  induction calls generalizing b with
  | nil => exact le_rfl
  | cons c calls ih =>
      -- A call adds at most its own failure; a success and a reset start over.
      have hstep : (b.call c).consecutiveFailures.toNat ≤
          b.consecutiveFailures.toNat + [c].count .endFailure := by
        cases c with
        | checkAllow n st now =>
            rw [call, (b.checkAllow_flags n st now).2.2]
            exact Nat.le_add_right ..
        | endFailure =>
            rw [call, endFailure_consecutiveFailures, UInt32.toNat_add]
            exact Nat.mod_le ..
        | endSuccess => exact Nat.zero_le _
        | reset => exact Nat.zero_le _
        | _ => exact Nat.le_add_right ..
      have hrest := ih (b.call c)
      rw [Runs.exec_cons, List.count_cons]
      rw [List.count_cons, List.count_nil] at hstep
      omega

/-- A row of failures with no relief in it: the counter counts them, and the breaker is open
once the counter has reached the limit. -/
lemma row_of_failures {row : List BreakerCall} (hrow : ∀ c ∈ row, c.isRelief = false) :
    ∀ {b : CircuitBreaker}, b.limits.pauseOnBreaker = true →
      b.consecutiveFailures.toNat + row.count .endFailure < 2 ^ 32 →
      (b.opened = true ∨ (0 < row.count .endFailure ∧
        b.limits.maxConsecutiveFailures.toNat ≤
          b.consecutiveFailures.toNat + row.count .endFailure)) →
      (Runs.exec call b row).opened = true := by
  -- Kept: the count so far and the failures still to come reach the limit together.
  induction row with
  | nil =>
      rintro b - - (hopen | ⟨hpos, -⟩)
      · exact hopen
      · exact absurd hpos (by simp)
  | cons c row ih =>
      intro b hpause hroom hreach
      have hrelief : c.isRelief = false := hrow c List.mem_cons_self
      have hrest : ∀ c' ∈ row, c'.isRelief = false :=
        fun c' hc' => hrow c' (List.mem_cons_of_mem c hc')
      have hlimits : (b.call c).limits = b.limits := call_limits b c
      have hreset : c ≠ .reset := by
        rintro rfl
        exact absurd hrelief (by decide)
      rw [Runs.exec_cons]
      by_cases hfail : c = .endFailure
      · subst hfail
        rw [List.count_cons_self] at hroom hreach
        have hcount : (b.call .endFailure).consecutiveFailures.toNat =
            b.consecutiveFailures.toNat + 1 := by
          rw [call, endFailure_consecutiveFailures, UInt32.toNat_add]
          exact Nat.mod_eq_of_lt (by have : (1 : UInt32).toNat = 1 := rfl; omega)
        refine ih hrest (by rw [hlimits, hpause]) (by omega) ?_
        rcases hreach with hopen | ⟨-, hmax⟩
        · exact Or.inl (opened_call hopen hreset)
        · by_cases hlast : row.count .endFailure = 0
          · -- this failure is the last of the row, and trips
            refine Or.inl ((endFailure_opened b).2 (Or.inr ⟨?_, hpause⟩))
            rw [UInt32.le_iff_toNat_le]
            have := hcount
            rw [call, endFailure_consecutiveFailures] at this
            omega
          · exact Or.inr ⟨by omega, by rw [hlimits]; omega⟩
      -- Every other call of the row leaves the count as it is.
      · have hsame : (b.call c).consecutiveFailures = b.consecutiveFailures := by
          cases c with
          | checkAllow n st now => exact (b.checkAllow_flags n st now).2.2
          | endFailure => exact absurd rfl hfail
          | endSuccess => exact absurd hrelief (by decide)
          | reset => exact absurd rfl hreset
          | _ => rfl
        rw [List.count_cons_of_ne hfail] at hroom hreach
        refine ih hrest (by rw [hlimits, hpause]) (by rw [hsame]; exact hroom) ?_
        rw [hlimits, hsame]
        exact hreach.imp_left fun hopen => opened_call hopen hreset

/-- A breaker with a failure row or a trip behind it, and no `reset` since, is open. -/
lemma opened_of_halted {limits : RiskLimits} (hpause : limits.pauseOnBreaker = true)
    (hmax : 1 ≤ limits.maxConsecutiveFailures.toNat) {calls : List BreakerCall}
    (hlen : calls.length < 2 ^ 32)
    (h : Halted limits.maxConsecutiveFailures.toNat calls) :
    (Runs.exec call (new limits) calls).opened = true := by
  obtain ⟨pre, row, post, rfl, hpost, hrow⟩ := h
  rw [Runs.exec_append, Runs.exec_append]
  refine opened_exec ?_ hpost
  rcases hrow with ⟨reason, rfl⟩ | ⟨hcount, hrelief⟩
  · rfl
  · have hpre := consecutiveFailures_exec_le (new limits) pre
    have hzero : (new limits).consecutiveFailures.toNat = 0 := rfl
    have hprelen : pre.count .endFailure ≤ pre.length := List.count_le_length
    have hrowlen : row.count .endFailure ≤ row.length := List.count_le_length
    simp only [List.length_append] at hlen
    have hlimits : (Runs.exec call (new limits) pre).limits = limits := limits_exec (new limits) pre
    refine row_of_failures hrelief (by rw [hlimits, hpause]) (by omega) (Or.inr ⟨by omega, ?_⟩)
    rw [hlimits]
    omega

/-! ## Liquidations in flight -/

/-- The count is the begins that have not ended. -/
lemma inFlight_exec (limits : RiskLimits) (calls : List BreakerCall)
    (hlen : calls.length < 2 ^ 32) (hends : EndsFollowBegins calls) :
    (Runs.exec call (new limits) calls).inFlight.toNat + calls.countP isEnd =
      calls.countP isBegin := by
  -- By induction from the end of the run: every prefix of it follows the same rule.
  induction calls using List.reverseRecOn with
  | nil => rfl
  | append_singleton calls c ih =>
      rw [List.length_append, List.length_singleton] at hlen
      have hshorter : EndsFollowBegins calls := fun pre hpre => hends pre <|
        (List.mem_inits ..).2 (((List.mem_inits ..).1 hpre).trans (List.prefix_append ..))
      have hprefix := ih (by omega) hshorter
      have hhere := hends (calls ++ [c]) ((List.mem_inits ..).2 (List.prefix_refl _))
      have hbegins : calls.countP isBegin ≤ calls.length := List.countP_le_length
      rw [List.countP_append, List.countP_append] at hhere ⊢
      rw [Runs.exec_append, Runs.exec_cons, Runs.exec_nil]
      cases c with
      | checkAllow n st now => rw [call, checkAllow_inFlight]; exact hprefix
      | begin n now =>
          have hone : [BreakerCall.begin n now].countP isBegin = 1 := rfl
          have hnone : [BreakerCall.begin n now].countP isEnd = 0 := rfl
          rw [call, beginLiquidation_inFlight_toNat n now (by omega)]
          omega
      | endSuccess =>
          have hone : [BreakerCall.endSuccess].countP isEnd = 1 := rfl
          have hnone : [BreakerCall.endSuccess].countP isBegin = 0 := rfl
          rw [call, endSuccess_inFlight, leaveFlight_inFlight_toNat (by omega)]
          omega
      | endFailure =>
          have hone : [BreakerCall.endFailure].countP isEnd = 1 := rfl
          have hnone : [BreakerCall.endFailure].countP isBegin = 0 := rfl
          rw [call, endFailure_inFlight, leaveFlight_inFlight_toNat (by omega)]
          omega
      | _ => exact hprefix

/-! ## Refused checks

Two breakers are followed side by side, the one that was asked and the one that was not. -/

/-- The two breakers differ at most in amounts that a prune at `now` forgets. -/
def Agrees (now : ℕ) (b b' : CircuitBreaker) : Prop :=
  (∃ r, b' = { b with rolling := r }) ∧
    ∀ later, now ≤ later → b.rolling.prune later = b'.rolling.prune later

/-- A check prunes the window at its reading and changes nothing else. -/
lemma agrees_checkAllow (b : CircuitBreaker) (n st : UInt64) (now : ℕ) :
    Agrees now b (b.checkAllow n st now).1 := by
  rcases b.checkAllow_state n st now with h | h
  · rw [h]
    exact ⟨⟨b.rolling, rfl⟩, fun _ _ => rfl⟩
  · rw [h]
    refine ⟨⟨_, rfl⟩, fun later hlater => ?_⟩
    have hevents : recent b.rolling.window later (recent b.rolling.window now b.rolling.events) =
        recent b.rolling.window later b.rolling.events := recent_recent hlater _
    simp only [RollingWindow.prune]
    exact congrArg (RollingWindow.mk · b.rolling.window) hevents.symm

/-- Where two breakers agree a later check decides the same, and they go on agreeing. -/
lemma agrees_check {now : ℕ} {b b' : CircuitBreaker} (h : Agrees now b b') (n st : UInt64)
    {later : ℕ} (hlater : now ≤ later) :
    (b.checkAllow n st later).2 = (b'.checkAllow n st later).2 ∧
      Agrees now (b.checkAllow n st later).1 (b'.checkAllow n st later).1 := by
  obtain ⟨⟨r, rfl⟩, hprune⟩ := h
  have hsum : r.sum later = b.rolling.sum later := by
    have hsame : b.rolling.prune later = r.prune later := hprune later hlater
    simp only [RollingWindow.sum, hsame]
  simp only [checkAllow, hsum]
  split_ifs
  all_goals first
    | exact ⟨rfl, ⟨_, rfl⟩, hprune⟩
    | exact ⟨rfl, ⟨_, rfl⟩, fun _ _ => rfl⟩

lemma agrees_call {now : ℕ} {b b' : CircuitBreaker} (h : Agrees now b b') {c : BreakerCall}
    (hc : ∀ t ∈ c.reading, now ≤ t) : Agrees now (b.call c) (b'.call c) := by
  cases c with
  | checkAllow n st later => exact (agrees_check h n st (hc later rfl)).2
  | begin n later =>
      obtain ⟨⟨r, rfl⟩, hprune⟩ := h
      have hsame : b.rolling.prune later = r.prune later := hprune later (hc later rfl)
      refine ⟨⟨_, rfl⟩, fun t _ => ?_⟩
      simp only [call, beginLiquidation, RollingWindow.push, hsame]
  | endFailure =>
      obtain ⟨⟨r, rfl⟩, hprune⟩ := h
      simp only [call, endFailure]
      split_ifs <;> exact ⟨⟨r, rfl⟩, hprune⟩
  | _ =>
      obtain ⟨⟨r, rfl⟩, hprune⟩ := h
      exact ⟨⟨r, rfl⟩, hprune⟩

lemma agrees_decisions {now : ℕ} :
    ∀ (later : List BreakerCall) {b b' : CircuitBreaker}, Agrees now b b' →
      (∀ c ∈ later, ∀ t ∈ c.reading, now ≤ t) → b.decisions later = b'.decisions later
  | [], _, _, _, _ => rfl
  | c :: later, b, b', h, hclock => by
      have hc : ∀ t ∈ c.reading, now ≤ t := hclock c List.mem_cons_self
      have hrest := agrees_decisions later (agrees_call h hc)
        fun c' hc' => hclock c' (List.mem_cons_of_mem c hc')
      have hfirst : b.decision c = b'.decision c := by
        cases c with
        | checkAllow n st t => exact congrArg some (agrees_check h n st (hc t rfl)).1
        | _ => rfl
      rw [decisions, decisions, hrest, hfirst]

/-! ## The contract -/

/-- **The breaker's contract.**  After any run of fewer than 2^32 calls in which every end has
its begin: a breaker halted by a row of failures or by `trip` refuses every check until
`reset`; a paused one refuses every check; the count in flight is begins minus ends; and a
refused check changes no decision that any later calls meet. -/
theorem breaker_contract (limits : RiskLimits) (hpause : limits.pauseOnBreaker = true)
    (hmax : 1 ≤ limits.maxConsecutiveFailures.toNat) (calls : List BreakerCall)
    (hlen : calls.length < 2 ^ 32) (hends : EndsFollowBegins calls) :
    (Halted limits.maxConsecutiveFailures.toNat calls → ∀ n st now,
        ∃ r, ((Runs.exec call (new limits) calls).checkAllow n st now).2 = .error r) ∧
      (Paused calls → ∀ n st now,
        ∃ r, ((Runs.exec call (new limits) calls).checkAllow n st now).2 = .error r) ∧
      (Runs.exec call (new limits) calls).inFlight.toNat + calls.countP isEnd =
        calls.countP isBegin ∧
      ∀ n st now r, ((Runs.exec call (new limits) calls).checkAllow n st now).2 = .error r →
        ∀ later, (∀ c ∈ later, ∀ t ∈ c.reading, now ≤ t) →
          ((Runs.exec call (new limits) calls).checkAllow n st now).1.decisions later =
            (Runs.exec call (new limits) calls).decisions later := by
  refine ⟨fun hhalted n st now => ?_, fun hpaused n st now => ?_,
    inFlight_exec limits calls hlen hends, fun n st now _ _ later hclock => ?_⟩
  · exact checkAllow_of_opened (opened_of_halted hpause hmax hlen hhalted) n st now
  -- Nothing behind the pause lifts it.
  · obtain ⟨pre, post, rfl, hpost⟩ := hpaused
    rw [Runs.exec_append, Runs.exec_cons]
    exact checkAllow_of_paused (paused_exec (by rfl) hpost) n st now
  · exact (agrees_decisions later (agrees_checkAllow _ n st now) hclock).symm

/-- Two liquidations begin, `trip` is called, and one of them ends in success. -/
def trippedRun : List BreakerCall :=
  [.begin 50 1, .begin 60 2, .trip "operator", .endSuccess]

theorem breaker_contract_trippedRun :
    ∃ r, ((Runs.exec call (new RiskLimits.default) trippedRun).checkAllow 50 0 3).2 =
      .error r := by
  have hhalted : Halted 10 trippedRun :=
    ⟨[.begin 50 1, .begin 60 2], [.trip "operator"], [.endSuccess], rfl, by decide,
      Or.inl ⟨"operator", rfl⟩⟩
  exact (breaker_contract RiskLimits.default rfl (by decide) trippedRun (by decide)
    (by decide)).1 hhalted 50 0 3

end CircuitBreaker

end Grokbotliq
