import Grokbotliq.Execution.Engine
import Grokbotliq.Risk.Admission

/-!
# The counters of concurrent executions

The calls that share a breaker share the metrics too, and bump them in their own steps.  In any
interleaving the counters are what the calls have done: every execution attempted is in flight
or has ended as a dry run or a failure (`counters_exact`).  A call that nobody gets in between
is `ExecutionEngine::execute` (`alone_eq_execute`).

`Ledger` ties each counter to what the calls have done so far, by their phases alone.  A step
moves one call from its phase to the next and bumps at most the counter of that move, so both
sides change together (`places_of_phase`).
-/

namespace Grokbotliq

namespace Executions

open Execution

variable {ι : Type} [DecidableEq ι] {calls : ι → ExecuteCall} {dryRun : Bool}

/-! ## The counters -/

/-- What a step does to the counters: nothing before the liquidation begins, then one attempt,
then one end. -/
lemma step_metrics (s : Executions ι) (calls : ι → ExecuteCall) (dryRun : Bool) (i : ι)
    (now : ℕ) :
    ((s.step calls dryRun (i, now)).phase = s.phase ∧
      (s.step calls dryRun (i, now)).metrics = s.metrics) ∨
    (s.phase i = .start ∧ (∃ q, q ≠ .running ∧ q ≠ .finished ∧
      (s.step calls dryRun (i, now)).phase = Function.update s.phase i q) ∧
      (s.step calls dryRun (i, now)).metrics = s.metrics) ∨
    (s.phase i = .admitted ∧
      (s.step calls dryRun (i, now)).phase = Function.update s.phase i .running ∧
      (s.step calls dryRun (i, now)).metrics =
        { s.metrics with liquidationsAttempted := s.metrics.liquidationsAttempted + 1 }) ∨
    (s.phase i = .running ∧
      (s.step calls dryRun (i, now)).phase = Function.update s.phase i .finished ∧
      (s.step calls dryRun (i, now)).metrics =
        if dryRun then { s.metrics with dryRunSkips := s.metrics.dryRunSkips + 1 }
        else { s.metrics with liquidationsFailed := s.metrics.liquidationsFailed + 1 }) := by
  cases hphase : s.phase i with
  | start =>
      refine Or.inr (Or.inl ⟨rfl, ?_⟩)
      cases hcheck : (s.breaker.checkAllow (calls i).notionalUsdMicro
          (calls i).oracleStalenessSlots now).2 with
      | ok u => exact ⟨⟨.admitted, by simp [step, hphase, hcheck]⟩, by simp [step, hphase, hcheck]⟩
      | error r =>
          exact ⟨⟨.refused r, by simp [step, hphase, hcheck]⟩, by simp [step, hphase, hcheck]⟩
  | admitted => exact Or.inr (Or.inr (Or.inl ⟨rfl, by simp [step, hphase], by simp [step, hphase]⟩))
  | running =>
      refine Or.inr (Or.inr (Or.inr ⟨rfl, ?_⟩))
      cases dryRun <;> simp [step, hphase]
  | refused r => exact Or.inl (by simp [step, hphase])
  | finished => exact Or.inl (by simp [step, hphase])

section Counters

variable [Fintype ι]

/-- The executions that have ended. -/
def finished (s : Executions ι) : ℕ := Runs.tally s.phase .finished

/-- The counters are those of `metrics` and what the calls have done. -/
structure Ledger (metrics : Metrics) (dryRun : Bool) (s : Executions ι) : Prop where
  attempted : s.metrics.liquidationsAttempted =
    metrics.liquidationsAttempted + UInt64.ofNat (s.running + s.finished)
  skipped : s.metrics.dryRunSkips =
    metrics.dryRunSkips + UInt64.ofNat (if dryRun then s.finished else 0)
  failed : s.metrics.liquidationsFailed =
    metrics.liquidationsFailed + UInt64.ofNat (if dryRun then 0 else s.finished)

omit [DecidableEq ι] in
lemma ledger_start (limits : RiskLimits) (metrics : Metrics) (dryRun : Bool) :
    (start limits metrics : Executions ι).Ledger metrics dryRun := by
  have hrunning : (start limits metrics : Executions ι).running = 0 := by
    simp [start, running, Runs.tally]
  have hfinished : (start limits metrics : Executions ι).finished = 0 := by
    simp [start, finished, Runs.tally]
  refine ⟨?_, ?_, ?_⟩
  · rw [hrunning, hfinished]
    simp [start]
  · rw [hfinished]
    simp [start]
  · rw [hfinished]
    simp [start]

/-- The places of the calls after one has moved to another phase. -/
lemma places_of_phase {s s' : Executions ι} {i : ι} {p q : ExecPhase} (hfrom : s.phase i = p)
    (hphase : s'.phase = Function.update s.phase i q) :
    s'.running + (if p = .running then 1 else 0) = s.running + (if q = .running then 1 else 0) ∧
      s'.finished + (if p = .finished then 1 else 0) =
        s.finished + (if q = .finished then 1 else 0) := by
  subst hfrom
  simp only [running, finished, hphase]
  exact ⟨Runs.tally_update .., Runs.tally_update ..⟩

lemma ofNat_succ (n : ℕ) : UInt64.ofNat (n + 1) = UInt64.ofNat n + 1 := UInt64.ofNat_add n 1

omit [DecidableEq ι] in
/-- What moves neither a call nor a counter keeps the ledger. -/
lemma Ledger.of_eq {metrics : Metrics} {s s' : Executions ι} (h : s.Ledger metrics dryRun)
    (hmetrics : s'.metrics = s.metrics) (hrunning : s'.running = s.running)
    (hfinished : s'.finished = s.finished) : s'.Ledger metrics dryRun := by
  refine ⟨?_, ?_, ?_⟩ <;> rw [hmetrics, hfinished]
  · rw [hrunning, h.attempted]
  · exact h.skipped
  · exact h.failed

lemma Ledger.step {metrics : Metrics} {s : Executions ι} (h : s.Ledger metrics dryRun)
    (letter : ι × ℕ) : (s.step calls dryRun letter).Ledger metrics dryRun := by
  obtain ⟨i, now⟩ := letter
  rcases s.step_metrics calls dryRun i now with ⟨hphase, hmetrics⟩ |
    ⟨hfrom, ⟨q, hrun, hfin, hphase⟩, hmetrics⟩ | ⟨hfrom, hphase, hmetrics⟩ |
    ⟨hfrom, hphase, hmetrics⟩
  · refine h.of_eq hmetrics ?_ ?_
    · rw [running, hphase, running]
    · rw [finished, hphase, finished]
  · obtain ⟨hrunning, hfinished⟩ := places_of_phase hfrom hphase
    simp only [reduceCtorEq, hrun, hfin, if_false, add_zero] at hrunning hfinished
    exact h.of_eq hmetrics hrunning hfinished
  · obtain ⟨hrunning, hfinished⟩ := places_of_phase hfrom hphase
    simp only [reduceCtorEq, if_false, if_true, add_zero] at hrunning hfinished
    refine ⟨?_, ?_, ?_⟩ <;> rw [hmetrics, hfinished]
    · have hsum : (s.step calls dryRun (i, now)).running + s.finished =
          s.running + s.finished + 1 := by omega
      rw [hsum, ofNat_succ, ← UInt64.add_assoc, ← h.attempted]
    · exact h.skipped
    · exact h.failed
  · obtain ⟨hrunning, hfinished⟩ := places_of_phase hfrom hphase
    simp only [reduceCtorEq, if_false, if_true, add_zero] at hrunning hfinished
    -- The call ends: it moves from the running to the finished, whose counter the mode decides.
    have hsum : (s.step calls dryRun (i, now)).running +
        (s.step calls dryRun (i, now)).finished = s.running + s.finished := by omega
    obtain ⟨hattempted, hskipped, hfailed⟩ := h
    cases dryRun with
    | true =>
        simp only [if_true] at hmetrics hskipped hfailed ⊢
        refine ⟨?_, ?_, ?_⟩ <;> rw [hmetrics]
        · rw [hsum]
          exact hattempted
        · simp only [if_true]
          rw [hfinished, ofNat_succ, ← UInt64.add_assoc, ← hskipped]
        · exact hfailed
    | false =>
        simp only [Bool.false_eq_true, if_false] at hmetrics hskipped hfailed ⊢
        refine ⟨?_, ?_, ?_⟩ <;> rw [hmetrics]
        · rw [hsum]
          exact hattempted
        · exact hskipped
        · simp only [Bool.false_eq_true, if_false]
          rw [hfinished, ofNat_succ, ← UInt64.add_assoc, ← hfailed]

/-- **The counters are exact.**  In any interleaving of any calls, whatever the breaker decides:
the attempts are the calls in flight and those ended, and the ended ones are all counted as
dry runs, or all as failures, by the mode of the engine. -/
theorem counters_exact (limits : RiskLimits) (metrics : Metrics) (calls : ι → ExecuteCall)
    (dryRun : Bool) (run : List (ι × ℕ)) :
    (Runs.exec (step calls dryRun) (start limits metrics) run).Ledger metrics dryRun :=
  Runs.exec_invariant (Ledger metrics dryRun) (fun _ letter hs => hs.step letter) run
    (ledger_start limits metrics dryRun)

end Counters

/-! ## A call with the engine to itself -/

/-- What the checks of a transaction read. -/
def callOf (tx : PreparedTx) (oracleStalenessSlots : UInt64) : ExecuteCall :=
  ⟨tx.notionalUsdMicro, oracleStalenessSlots⟩

/-- **A call that runs alone is `execute`.**  Three steps of a call that nobody gets in between,
whatever the clock reads at its end, leave the breaker and the counters that `execute` leaves. -/
theorem alone_eq_execute (e : ExecutionEngine) (tx : PreparedTx) (oracleStalenessSlots : UInt64)
    (checkedAt begunAt endedAt : ℕ) {s : Executions ι} (hbreaker : s.breaker = e.risk)
    (hmetrics : s.metrics = e.metrics) {i : ι} (hstart : s.phase i = .start)
    (hcall : calls i = callOf tx oracleStalenessSlots) :
    (Runs.exec (step calls e.config.dryRun) s
        [(i, checkedAt), (i, begunAt), (i, endedAt)]).breaker =
        (e.execute tx oracleStalenessSlots checkedAt begunAt).1.risk ∧
      (Runs.exec (step calls e.config.dryRun) s
        [(i, checkedAt), (i, begunAt), (i, endedAt)]).metrics =
        (e.execute tx oracleStalenessSlots checkedAt begunAt).1.metrics := by
  simp only [Runs.exec_cons, Runs.exec_nil]
  -- Refused at the first step, the other two do nothing; admitted, they are the rest of the call.
  cases hcheck : (e.risk.checkAllow tx.notionalUsdMicro oracleStalenessSlots checkedAt).2 with
  | error r =>
      have hfirst : s.step calls e.config.dryRun (i, checkedAt) =
          { s with
            breaker := (e.risk.checkAllow tx.notionalUsdMicro oracleStalenessSlots checkedAt).1
            phase := Function.update s.phase i (.refused r) } := by
        simp [step, hstart, hcall, callOf, hbreaker, hcheck]
      rw [hfirst]
      simp [step, ExecutionEngine.execute, hcheck, hmetrics]
  | ok u =>
      have hfirst : s.step calls e.config.dryRun (i, checkedAt) =
          { s with
            breaker := (e.risk.checkAllow tx.notionalUsdMicro oracleStalenessSlots checkedAt).1
            phase := Function.update s.phase i .admitted } := by
        simp [step, hstart, hcall, callOf, hbreaker, hcheck]
      rw [hfirst]
      cases hdry : e.config.dryRun <;>
        simp [step, ExecutionEngine.execute, hcheck, hcall, callOf, hmetrics, hdry]

/-- A dry engine that has not executed anything. -/
def freshEngine : ExecutionEngine := ⟨⟨true, .balanced⟩, .new .default, .zero⟩

def sampleTx : PreparedTx where
  label := "sample"
  protocol := .kamino
  account := .default
  notionalUsdMicro := 1000000
  expectedProfitUsdMicro := 0
  ixs := []
  instructions := []
  fundingStrategy := none

/-- One call on a fresh engine. -/
theorem alone_eq_execute_freshEngine :
    (Runs.exec (step (fun _ : Fin 1 => callOf sampleTx 0) true) (start .default .zero)
        [(0, 5), (0, 6), (0, 7)]).breaker = (freshEngine.execute sampleTx 0 5 6).1.risk ∧
      (Runs.exec (step (fun _ : Fin 1 => callOf sampleTx 0) true) (start .default .zero)
        [(0, 5), (0, 6), (0, 7)]).metrics = (freshEngine.execute sampleTx 0 5 6).1.metrics :=
  alone_eq_execute freshEngine sampleTx 0 5 6 7 rfl rfl rfl rfl

end Executions

end Grokbotliq
