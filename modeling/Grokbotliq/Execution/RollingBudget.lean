import Grokbotliq.Execution.Engine
import Grokbotliq.Framework.Runs

/-!
# The notional budget over a run of executions

One engine, its calls made one after another under a clock that never goes back.  A call reads
the clock twice: its check prunes the window and compares, and its `begin` books the amount at
a later reading.

`Accounted` relates the window to the ghost list of everything begun so far: at any later
reading the window holds exactly the begun amounts of the last sixty seconds, and the begun
amounts are within the budget.  Every call keeps it (`accounted_perform`), and `rolling_budget`
is what it gives over a run: in every closed interval of sixty seconds at most
`max_notional_per_minute` is begun, and the window's `u64` sum is the true sum.
-/

namespace Grokbotliq.Execution

open SlidingWindow MachineInt

/-- A call of `execute` with its two readings of the clock. -/
structure TimedCall where
  tx : PreparedTx
  oracleStalenessSlots : UInt64
  checkedAt : ℕ
  begunAt : ℕ

namespace TimedCall

/-- Every reading is at or after the one before it. -/
def ClockForward : ℕ → List TimedCall → Prop
  | _, [] => True
  | now, c :: cs => now ≤ c.checkedAt ∧ c.checkedAt ≤ c.begunAt ∧ ClockForward c.begunAt cs

/-- The last reading of the clock. -/
def lastReading : ℕ → List TimedCall → ℕ
  | now, [] => now
  | _, c :: cs => lastReading c.begunAt cs

end TimedCall

open TimedCall

namespace ExecutionEngine

def perform (e : ExecutionEngine) (c : TimedCall) : ExecutionEngine :=
  (e.execute c.tx c.oracleStalenessSlots c.checkedAt c.begunAt).1

/-- What the call begins: its notional at its second reading, when the check lets it pass. -/
def begins (e : ExecutionEngine) (c : TimedCall) : List (ℕ × UInt64) :=
  match (e.risk.checkAllow c.tx.notionalUsdMicro c.oracleStalenessSlots c.checkedAt).2 with
  | .ok () => [(c.begunAt, c.tx.notionalUsdMicro)]
  | .error _ => []

/-- Everything a run begins. -/
def begun : ExecutionEngine → List TimedCall → List (ℕ × UInt64)
  | _, [] => []
  | e, c :: cs => e.begins c ++ begun (e.perform c) cs

/-- Both ways a call can go, as far as limits and window are concerned. -/
lemma perform_cases (e : ExecutionEngine) (c : TimedCall) :
    (e.perform c).risk.limits = e.risk.limits ∧
      ((e.begins c = [(c.begunAt, c.tx.notionalUsdMicro)] ∧
          satAddU64 (e.risk.rolling.sum c.checkedAt).2 c.tx.notionalUsdMicro ≤
            e.risk.limits.maxNotionalPerMinuteUsdMicro ∧
          (e.perform c).risk.rolling =
            (e.risk.rolling.prune c.checkedAt).push c.begunAt c.tx.notionalUsdMicro) ∨
        (e.begins c = [] ∧
          ((e.perform c).risk.rolling = e.risk.rolling ∨
            (e.perform c).risk.rolling = e.risk.rolling.prune c.checkedAt))) := by
  -- Refused, the call at most prunes the window; allowed, it begins and is pushed on it.
  cases hcheck : (e.risk.checkAllow c.tx.notionalUsdMicro c.oracleStalenessSlots c.checkedAt).2 with
  | ok u =>
      obtain ⟨hfits, hstate⟩ := CircuitBreaker.checkAllow_ok hcheck
      have hbegins : e.begins c = [(c.begunAt, c.tx.notionalUsdMicro)] := by
        simp only [begins, hcheck]
      have hperform : (e.perform c).risk.limits = e.risk.limits ∧ (e.perform c).risk.rolling =
          (e.risk.rolling.prune c.checkedAt).push c.begunAt c.tx.notionalUsdMicro := by
        simp only [perform, execute, hcheck, hstate]
        split_ifs
        · exact ⟨rfl, rfl⟩
        · simp only [CircuitBreaker.endFailure_limits, CircuitBreaker.endFailure_rolling]
          exact ⟨rfl, rfl⟩
      exact ⟨hperform.1, Or.inl ⟨hbegins, hfits, hperform.2⟩⟩
  | error r =>
      have hbegins : e.begins c = [] := by simp only [begins, hcheck]
      have hperform : (e.perform c).risk =
          (e.risk.checkAllow c.tx.notionalUsdMicro c.oracleStalenessSlots c.checkedAt).1 := by
        simp only [perform, execute, hcheck]
      rw [hperform]
      refine ⟨CircuitBreaker.checkAllow_limits .., Or.inr ⟨hbegins, ?_⟩⟩
      rcases e.risk.checkAllow_state c.tx.notionalUsdMicro c.oracleStalenessSlots c.checkedAt
        with h | h
      · exact Or.inl (by rw [h])
      · exact Or.inr (by rw [h])

end ExecutionEngine

/-! ## The window against everything begun -/

/-- The window's length, in nanoseconds. -/
def windowNanos : ℕ := 60000000000

/-- The engine's window accounts for the amounts `es` begun up to `now`, under the limit `L`. -/
structure Accounted (L : UInt64) (now : ℕ) (es : List (ℕ × UInt64)) (e : ExecutionEngine) :
    Prop where
  limit : e.risk.limits.maxNotionalPerMinuteUsdMicro = L
  window : e.risk.rolling.window = windowNanos
  past : ∀ x ∈ es, x.1 ≤ now
  kept : ∀ later, now ≤ later →
    recent windowNanos later e.risk.rolling.events = recent windowNanos later es
  budget : WithinBudget UInt64.toNat windowNanos L.toNat es

namespace Accounted

variable {L : UInt64} {now : ℕ} {es : List (ℕ × UInt64)} {e : ExecutionEngine}

lemma start (config : ExecConfig) (limits : RiskLimits) (metrics : Metrics) (now : ℕ) :
    Accounted limits.maxNotionalPerMinuteUsdMicro now [] ⟨config, .new limits, metrics⟩ where
  limit := rfl
  window := rfl
  past := fun _ hx => absurd hx List.not_mem_nil
  kept := fun _ _ => rfl
  budget := WithinBudget.nil

lemma pruned_events (h : Accounted L now es e) {later : ℕ} (hlater : now ≤ later) :
    (e.risk.rolling.prune later).events = recent windowNanos later es := by
  rw [RollingWindow.prune_events, h.window]
  exact h.kept later hlater

/-- What is remembered at a later reading is at most the limit, and `sum` computes it. -/
lemma sum_exact (h : Accounted L now es e) {later : ℕ} (hlater : now ≤ later) :
    (e.risk.rolling.sum later).2.toNat =
        load UInt64.toNat (e.risk.rolling.prune later).events ∧
      load UInt64.toNat (e.risk.rolling.prune later).events ≤ L.toNat := by
  have hle : load UInt64.toNat (e.risk.rolling.prune later).events ≤ L.toNat := by
    rw [h.pruned_events hlater]
    exact h.budget.load_recent_le fun x hx => (h.past x hx).trans hlater
  exact ⟨RollingWindow.sum_toNat (hle.trans_lt L.toNat_lt), hle⟩

/-- **One call keeps the account.** -/
lemma perform (h : Accounted L now es e) (hmax : L.toNat < 2 ^ 64 - 1) {c : TimedCall}
    (hchecked : now ≤ c.checkedAt) (hbegun : c.checkedAt ≤ c.begunAt) :
    Accounted L c.begunAt (es ++ e.begins c) (e.perform c) := by
  have hpast : ∀ x ∈ es, x.1 ≤ c.begunAt := fun x hx =>
    ((h.past x hx).trans hchecked).trans hbegun
  obtain ⟨hlimits, ⟨hbegins, hfits, hrolling⟩ | ⟨hbegins, hrolling⟩⟩ := e.perform_cases c
  -- The sum the check compares is the load of the calls begun in the last minute.
  · have hfits' : load UInt64.toNat (recent windowNanos c.checkedAt es) +
        c.tx.notionalUsdMicro.toNat ≤ L.toNat := by
      rw [h.limit, satAddU64_le_iff hmax, (h.sum_exact hchecked).1,
        h.pruned_events hchecked] at hfits
      exact hfits
    rw [hbegins]
    refine ⟨by rw [hlimits, h.limit], by rw [hrolling]; exact h.window, ?_, ?_,
      h.budget.append hbegun hfits'⟩
    · intro x hx
      rcases List.mem_append.1 hx with hx | hx
      · exact hpast x hx
      · rw [List.mem_singleton.1 hx]
    · intro later hlater
      have hevents : (e.perform c).risk.rolling.events =
          recent windowNanos c.begunAt (recent windowNanos c.checkedAt e.risk.rolling.events) ++
            [(c.begunAt, c.tx.notionalUsdMicro)] := by
        rw [hrolling, ← h.window]
        rfl
      rw [hevents, recent_append, recent_recent hlater, recent_recent (hbegun.trans hlater),
        h.kept later ((hchecked.trans hbegun).trans hlater), ← recent_append]
  · rw [hbegins, List.append_nil]
    -- Nothing begins, and pruning takes off what no later window holds.
    have hkept : ∀ later, c.begunAt ≤ later →
        recent windowNanos later e.risk.rolling.events = recent windowNanos later es :=
      fun later hlater => h.kept later ((hchecked.trans hbegun).trans hlater)
    rcases hrolling with hsame | hpruned
    · refine ⟨by rw [hlimits, h.limit], by rw [hsame, h.window], hpast, ?_, h.budget⟩
      rw [hsame]
      exact hkept
    · refine ⟨by rw [hlimits, h.limit], by rw [hpruned]; exact h.window, hpast, ?_, h.budget⟩
      intro later hlater
      rw [hpruned, RollingWindow.prune_events, h.window, recent_recent (hbegun.trans hlater)]
      exact hkept later hlater

/-- A run of calls keeps the account. -/
lemma exec (hmax : L.toNat < 2 ^ 64 - 1) :
    ∀ (calls : List TimedCall) {now : ℕ} {es : List (ℕ × UInt64)} {e : ExecutionEngine},
      Accounted L now es e → ClockForward now calls →
        Accounted L (lastReading now calls) (es ++ e.begun calls)
          (Runs.exec ExecutionEngine.perform e calls)
  | [], _, es, e, h, _ => by
      rw [ExecutionEngine.begun, List.append_nil]
      exact h
  | c :: cs, _, es, e, h, hclock => by
      have hrest := exec hmax cs (h.perform hmax hclock.1 hclock.2.1) hclock.2.2
      rw [List.append_assoc] at hrest
      exact hrest

end Accounted

/-- **The rolling budget.**  For executions made one after another under a clock that never goes
back, in every closed interval of sixty seconds the notionals begun come to at most
`max_notional_per_minute`; and whenever the window is summed after any of them, the `u64` sum is
the true sum of what it holds, and that is at most the limit too. -/
theorem rolling_budget (config : ExecConfig) (limits : RiskLimits) (metrics : Metrics)
    (hmax : limits.maxNotionalPerMinuteUsdMicro.toNat < 2 ^ 64 - 1)
    (calls : List TimedCall) (begin : ℕ) (hclock : ClockForward begin calls) :
    WithinBudget UInt64.toNat windowNanos limits.maxNotionalPerMinuteUsdMicro.toNat
        (ExecutionEngine.begun ⟨config, .new limits, metrics⟩ calls) ∧
      ∀ now, lastReading begin calls ≤ now →
        ((Runs.exec ExecutionEngine.perform ⟨config, .new limits, metrics⟩
              calls).risk.rolling.sum now).2.toNat =
            load UInt64.toNat ((Runs.exec ExecutionEngine.perform ⟨config, .new limits, metrics⟩
              calls).risk.rolling.prune now).events ∧
          load UInt64.toNat ((Runs.exec ExecutionEngine.perform ⟨config, .new limits, metrics⟩
              calls).risk.rolling.prune now).events ≤
            limits.maxNotionalPerMinuteUsdMicro.toNat := by
  have hrun := Accounted.exec hmax calls (Accounted.start config limits metrics begin) hclock
  exact ⟨hrun.budget, fun now hnow => hrun.sum_exact hnow⟩

/-- A call for `notional` micro-dollars, checked and begun at the two instants. -/
def sampleCall (notional : UInt64) (checkedAt begunAt : ℕ) : TimedCall where
  tx := ⟨"sample", .kamino, Pubkey.test 7 1, notional, 0, [], [], none⟩
  oracleStalenessSlots := 0
  checkedAt := checkedAt
  begunAt := begunAt

/-- Of three amounts of 400 000 USD against a limit of one million, the third one must wait for
the window. -/
theorem rolling_budget_sampleCalls :
    WithinBudget UInt64.toNat windowNanos 1000000000000
      (ExecutionEngine.begun
        ⟨⟨true, .balanced⟩,
          .new { RiskLimits.default with maxNotionalPerMinuteUsdMicro := 1000000000000 },
          Metrics.zero⟩
        [sampleCall 400000000000 1 2, sampleCall 400000000000 3 4, sampleCall 400000000000 5 6]) :=
  (rolling_budget ⟨true, .balanced⟩
    { RiskLimits.default with maxNotionalPerMinuteUsdMicro := 1000000000000 } Metrics.zero
    (by decide) _ 0 (by simp [ClockForward, sampleCall])).1

end Grokbotliq.Execution
