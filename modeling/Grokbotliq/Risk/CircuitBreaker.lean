import Grokbotliq.Core.Types
import Grokbotliq.Framework.MachineInt
import Grokbotliq.Framework.SlidingWindow

/-!
# The circuit breaker

One state with the calls of `liq-risk` on it.  `checkAllow` decides whether a liquidation may
start, `begin` takes its place among those in flight, `endSuccess` and `endFailure` give the
place back; `trip`, `reset` and `setPaused` are the operator's.  Instants are nanoseconds.
Admission and the taking of the place are two calls: between them the count of liquidations in
flight does not know of the admitted one.

The sum of the window wraps.  That it is the true sum as long as that fits in 64 bits is
`sum_toNat`, and a breaker whose window is kept within its limit stays in that range, which is the
subject of `Execution/RollingBudget.lean`.
-/

namespace Grokbotliq

open MachineInt

structure RiskLimits where
  maxConcurrentLiquidations : UInt32
  maxNotionalPerLiqUsdMicro : UInt64
  maxNotionalPerMinuteUsdMicro : UInt64
  maxConsecutiveFailures : UInt32
  oracleMaxStalenessSlots : UInt64
  pauseOnBreaker : Bool
  deriving DecidableEq

namespace RiskLimits

def default : RiskLimits where
  maxConcurrentLiquidations := 4
  maxNotionalPerLiqUsdMicro := 500000000000
  maxNotionalPerMinuteUsdMicro := 2000000000000
  maxConsecutiveFailures := 10
  oracleMaxStalenessSlots := 30
  pauseOnBreaker := true

end RiskLimits

/-- Why an execution is refused. -/
inductive RiskReject
  | circuitOpen (reason : String)
  | maxNotional
  | rollingNotional
  | concurrency
  | staleOracle
  | paused
  deriving DecidableEq

/-- Notionals begun, each with its instant, over a window. -/
structure RollingWindow where
  events : List (ℕ × UInt64)
  window : ℕ
  deriving DecidableEq

namespace RollingWindow

/-- Forget what is older than the window; an instant after `now` has age zero. -/
def prune (w : RollingWindow) (now : ℕ) : RollingWindow :=
  { w with events := w.events.filter fun e => now - e.1 ≤ w.window }

/-- The wrapping `u64` sum of what the window holds. -/
def sum (w : RollingWindow) (now : ℕ) : RollingWindow × UInt64 :=
  let w := w.prune now
  (w, w.events.foldl (fun acc e => acc + e.2) 0)

def push (w : RollingWindow) (now : ℕ) (n : UInt64) : RollingWindow :=
  let w := w.prune now
  { w with events := w.events ++ [(now, n)] }

lemma prune_events (w : RollingWindow) (now : ℕ) :
    (w.prune now).events = SlidingWindow.recent w.window now w.events := rfl

lemma toNat_foldl_add :
    ∀ (es : List (ℕ × UInt64)) (acc : UInt64),
      acc.toNat + SlidingWindow.load UInt64.toNat es < 2 ^ 64 →
        (es.foldl (fun acc e => acc + e.2) acc).toNat =
          acc.toNat + SlidingWindow.load UInt64.toNat es
  | [], acc, _ => rfl
  | e :: es, acc, h => by
      rw [SlidingWindow.load_cons] at h
      have hadd : (acc + e.2).toNat = acc.toNat + e.2.toNat := by
        rw [UInt64.toNat_add, Nat.mod_eq_of_lt (by omega)]
      rw [List.foldl_cons, toNat_foldl_add es (acc + e.2) (by omega), hadd,
        SlidingWindow.load_cons, Nat.add_assoc]

/-- Where the true sum fits in a `u64`, `sum` is exact. -/
lemma sum_toNat {w : RollingWindow} {now : ℕ}
    (h : SlidingWindow.load UInt64.toNat (w.prune now).events < 2 ^ 64) :
    (w.sum now).2.toNat = SlidingWindow.load UInt64.toNat (w.prune now).events := by
  have hzero : (0 : UInt64).toNat = 0 := rfl
  rw [sum, toNat_foldl_add (w.prune now).events 0 (by omega), hzero, Nat.zero_add]

end RollingWindow

structure CircuitBreaker where
  limits : RiskLimits
  opened : Bool
  reason : Option String
  consecutiveFailures : UInt32
  inFlight : UInt32
  rolling : RollingWindow
  paused : Bool
  trips : UInt64
  deriving DecidableEq

namespace CircuitBreaker

/-- A closed breaker with a window of sixty seconds. -/
def new (limits : RiskLimits) : CircuitBreaker where
  limits := limits
  opened := false
  reason := none
  consecutiveFailures := 0
  inFlight := 0
  rolling := ⟨[], 60000000000⟩
  paused := false
  trips := 0

def setPaused (b : CircuitBreaker) (paused : Bool) : CircuitBreaker := { b with paused := paused }

def isOpen (b : CircuitBreaker) : Bool := b.opened || b.paused

def trip (b : CircuitBreaker) (reason : String) : CircuitBreaker :=
  { b with opened := true, reason := some reason, trips := b.trips + 1 }

def reset (b : CircuitBreaker) : CircuitBreaker :=
  { b with opened := false, reason := none, consecutiveFailures := 0 }

def checkAllow (b : CircuitBreaker) (notional staleness : UInt64) (now : ℕ) :
    CircuitBreaker × Except RiskReject Unit :=
  if b.paused then (b, .error .paused)
  else if b.opened then (b, .error (.circuitOpen (b.reason.getD "open")))
  else if staleness > b.limits.oracleMaxStalenessSlots then (b, .error .staleOracle)
  else if notional > b.limits.maxNotionalPerLiqUsdMicro then (b, .error .maxNotional)
  else if b.inFlight ≥ b.limits.maxConcurrentLiquidations then (b, .error .concurrency)
  else
    let summed := b.rolling.sum now
    if satAddU64 summed.2 notional > b.limits.maxNotionalPerMinuteUsdMicro then
      ({ b with rolling := summed.1 }, .error .rollingNotional)
    else ({ b with rolling := summed.1 }, .ok ())

/-- `begin`. -/
def beginLiquidation (b : CircuitBreaker) (notional : UInt64) (now : ℕ) : CircuitBreaker :=
  { b with inFlight := b.inFlight + 1, rolling := b.rolling.push now notional }

/-- `in_flight.saturating_sub(1)`. -/
def leaveFlight (b : CircuitBreaker) : CircuitBreaker :=
  { b with inFlight := if b.inFlight = 0 then 0 else b.inFlight - 1 }

def endSuccess (b : CircuitBreaker) : CircuitBreaker :=
  { b.leaveFlight with consecutiveFailures := 0 }

def endFailure (b : CircuitBreaker) : CircuitBreaker :=
  let failures := b.consecutiveFailures + 1
  let left := { b.leaveFlight with consecutiveFailures := failures }
  if b.limits.maxConsecutiveFailures ≤ failures ∧ b.limits.pauseOnBreaker = true then
    left.trip "max_consecutive_failures"
  else left

/-! ## What the calls leave alone -/

/-- All a check changes is the window, and that by pruning it. -/
lemma checkAllow_state (b : CircuitBreaker) (n st : UInt64) (now : ℕ) :
    (b.checkAllow n st now).1 = b ∨
      (b.checkAllow n st now).1 = { b with rolling := b.rolling.prune now } := by
  simp only [checkAllow]
  split_ifs
  all_goals first
    | exact Or.inl rfl
    | exact Or.inr rfl

/-- A check that passes has found the amount to fit beside the remembered ones. -/
lemma checkAllow_ok {b : CircuitBreaker} {n st : UInt64} {now : ℕ}
    (h : (b.checkAllow n st now).2 = .ok ()) :
    satAddU64 (b.rolling.sum now).2 n ≤ b.limits.maxNotionalPerMinuteUsdMicro ∧
      (b.checkAllow n st now).1 = { b with rolling := b.rolling.prune now } := by
  simp only [checkAllow] at h ⊢
  split_ifs at h ⊢ with _ _ _ _ _ hover
  exact ⟨UInt64.not_lt.1 hover, rfl⟩

@[simp] lemma checkAllow_limits (b : CircuitBreaker) (n st : UInt64) (now : ℕ) :
    (b.checkAllow n st now).1.limits = b.limits := by
  rcases b.checkAllow_state n st now with h | h <;> rw [h]

@[simp] lemma checkAllow_inFlight (b : CircuitBreaker) (n st : UInt64) (now : ℕ) :
    (b.checkAllow n st now).1.inFlight = b.inFlight := by
  rcases b.checkAllow_state n st now with h | h <;> rw [h]

@[simp] lemma beginLiquidation_limits (b : CircuitBreaker) (n : UInt64) (now : ℕ) :
    (b.beginLiquidation n now).limits = b.limits := rfl

@[simp] lemma endSuccess_limits (b : CircuitBreaker) : b.endSuccess.limits = b.limits := rfl

@[simp] lemma endSuccess_inFlight (b : CircuitBreaker) :
    b.endSuccess.inFlight = b.leaveFlight.inFlight := rfl

@[simp] lemma endFailure_limits (b : CircuitBreaker) : b.endFailure.limits = b.limits := by
  simp only [endFailure]
  split_ifs <;> rfl

@[simp] lemma endFailure_inFlight (b : CircuitBreaker) :
    b.endFailure.inFlight = b.leaveFlight.inFlight := by
  simp only [endFailure]
  split_ifs <;> rfl

@[simp] lemma endSuccess_rolling (b : CircuitBreaker) : b.endSuccess.rolling = b.rolling := rfl

@[simp] lemma endFailure_rolling (b : CircuitBreaker) : b.endFailure.rolling = b.rolling := by
  simp only [endFailure]
  split_ifs <;> rfl

/-- Leaving takes one off a count that is not zero. -/
lemma leaveFlight_inFlight_toNat {b : CircuitBreaker} (h : 0 < b.inFlight.toNat) :
    b.leaveFlight.inFlight.toNat = b.inFlight.toNat - 1 := by
  have hne : b.inFlight ≠ 0 := by
    intro h0
    rw [h0] at h
    exact absurd h (by decide)
  have hle : (1 : UInt32) ≤ b.inFlight := UInt32.le_iff_toNat_le.2 h
  simp only [leaveFlight, if_neg hne]
  rw [UInt32.toNat_sub_of_le _ _ hle]
  rfl

/-- Beginning adds one to a count that has not reached the top of its range. -/
lemma beginLiquidation_inFlight_toNat {b : CircuitBreaker} (n : UInt64) (now : ℕ)
    (h : b.inFlight.toNat + 1 < 2 ^ 32) :
    (b.beginLiquidation n now).inFlight.toNat = b.inFlight.toNat + 1 := by
  simp only [beginLiquidation, UInt32.toNat_add]
  exact Nat.mod_eq_of_lt h

end CircuitBreaker

end Grokbotliq
