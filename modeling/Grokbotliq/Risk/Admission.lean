import Grokbotliq.Framework.Runs
import Grokbotliq.Risk.CircuitBreaker

/-!
# Concurrent executions on one breaker

Any number of `execute` calls share a breaker, each going through `check_allow`, `begin` and
`end_success` or `end_failure` as separate critical sections.  A letter of a run schedules one
call and carries the clock the step reads.

An admitted call holds no place yet, so the check of another call does not see it.  The limit
on liquidations in flight holds in every state of a run as long as each admission finds a seat
free, admitted calls counted along with running ones (`running_within_limit`); and past the
first admission without a free seat the limit can be exceeded (`exceeded_after_overadmission`).

The invariant `Seated` counts admitted calls as seated.  A call that begins or ends keeps it
without any condition, and an admission keeps it exactly where a seat is free (`seated_step`);
nothing is assumed of the order in which the calls are scheduled.
-/

namespace Grokbotliq

/-- One `execute`: the arguments its checks read. -/
structure ExecuteCall where
  notionalUsdMicro : UInt64
  oracleStalenessSlots : UInt64

/-- How far an `execute` has come. -/
inductive ExecPhase
  | start
  /-- Past `check_allow`, not yet at `begin`. -/
  | admitted
  /-- Past `begin`: in flight. -/
  | running
  | refused (r : RiskReject)
  | finished
  deriving DecidableEq

variable {ι : Type}

/-- The shared breaker and counters, and the phase of every call. -/
structure Executions (ι : Type) where
  breaker : CircuitBreaker
  metrics : Metrics
  phase : ι → ExecPhase

namespace Executions

/-- Every call about to start on a fresh breaker. -/
def start (limits : RiskLimits) (metrics : Metrics) : Executions ι :=
  ⟨CircuitBreaker.new limits, metrics, fun _ => .start⟩

/-- The step would admit the call. -/
def Admits (calls : ι → ExecuteCall) (s : Executions ι) (letter : ι × ℕ) : Prop :=
  s.phase letter.1 = .start ∧
    (s.breaker.checkAllow (calls letter.1).notionalUsdMicro (calls letter.1).oracleStalenessSlots
      letter.2).2 = .ok ()

/-- `limits.max_concurrent_liquidations`. -/
def limit (s : Executions ι) : ℕ := s.breaker.limits.maxConcurrentLiquidations.toNat

/-- The check passes only below the limit. -/
lemma Admits.inFlight_lt {calls : ι → ExecuteCall} {s : Executions ι} {letter : ι × ℕ}
    (h : s.Admits calls letter) : s.breaker.inFlight.toNat < s.limit := by
  have hok := h.2
  by_contra hge
  have hfull : s.breaker.inFlight ≥ s.breaker.limits.maxConcurrentLiquidations :=
    UInt32.le_iff_toNat_le.2 (not_lt.1 hge)
  simp only [CircuitBreaker.checkAllow, if_pos hfull] at hok
  split_ifs at hok

variable [DecidableEq ι]

/-- The next step of call `i`, at time `now`. -/
def step (calls : ι → ExecuteCall) (dryRun : Bool) (s : Executions ι) (letter : ι × ℕ) :
    Executions ι :=
  let (i, now) := letter
  let call := calls i
  match s.phase i with
  | .start =>
    let checked := s.breaker.checkAllow call.notionalUsdMicro call.oracleStalenessSlots now
    match checked.2 with
    | .ok () => { s with breaker := checked.1, phase := Function.update s.phase i .admitted }
    | .error r => { s with breaker := checked.1, phase := Function.update s.phase i (.refused r) }
  | .admitted =>
    { breaker := s.breaker.beginLiquidation call.notionalUsdMicro now
      metrics := { s.metrics with liquidationsAttempted := s.metrics.liquidationsAttempted + 1 }
      phase := Function.update s.phase i .running }
  | .running =>
    if dryRun then
      { breaker := s.breaker.endSuccess
        metrics := { s.metrics with dryRunSkips := s.metrics.dryRunSkips + 1 }
        phase := Function.update s.phase i .finished }
    else
      { breaker := s.breaker.endFailure
        metrics := { s.metrics with liquidationsFailed := s.metrics.liquidationsFailed + 1 }
        phase := Function.update s.phase i .finished }
  | .refused _ => s
  | .finished => s

/-! ## What one step does -/

variable {calls : ι → ExecuteCall} {dryRun : Bool}

/-- All that a scheduled call can do: be admitted, begin, end, or leave every count alone. -/
lemma step_cases (s : Executions ι) (calls : ι → ExecuteCall) (dryRun : Bool) (i : ι) (now : ℕ) :
    (s.Admits calls (i, now) ∧
      (s.step calls dryRun (i, now)).phase = Function.update s.phase i .admitted ∧
      (s.step calls dryRun (i, now)).breaker.inFlight = s.breaker.inFlight) ∨
    (s.phase i = .admitted ∧
      (s.step calls dryRun (i, now)).phase = Function.update s.phase i .running ∧
      (s.step calls dryRun (i, now)).breaker =
        s.breaker.beginLiquidation (calls i).notionalUsdMicro now) ∨
    (s.phase i = .running ∧
      (s.step calls dryRun (i, now)).phase = Function.update s.phase i .finished ∧
      (s.step calls dryRun (i, now)).breaker.inFlight = s.breaker.leaveFlight.inFlight) ∨
    (¬ s.Admits calls (i, now) ∧
      ((s.step calls dryRun (i, now)).phase = s.phase ∨
        ∃ r, s.phase i = .start ∧
          (s.step calls dryRun (i, now)).phase = Function.update s.phase i (.refused r)) ∧
      (s.step calls dryRun (i, now)).breaker.inFlight = s.breaker.inFlight) := by
  cases hphase : s.phase i with
  | start =>
      cases hcheck : (s.breaker.checkAllow (calls i).notionalUsdMicro
          (calls i).oracleStalenessSlots now).2 with
      | ok u =>
          refine Or.inl ⟨⟨hphase, hcheck⟩, ?_, ?_⟩
          · simp [step, hphase, hcheck]
          · simp [step, hphase, hcheck]
      | error r =>
          refine Or.inr (Or.inr (Or.inr ⟨?_, Or.inr ⟨r, rfl, ?_⟩, ?_⟩))
          · rintro ⟨-, hok⟩
            rw [hcheck] at hok
            exact absurd hok (by simp)
          · simp [step, hphase, hcheck]
          · simp [step, hphase, hcheck]
  | admitted =>
      refine Or.inr (Or.inl ⟨rfl, ?_, ?_⟩)
      · simp [step, hphase]
      · simp [step, hphase]
  | running =>
      refine Or.inr (Or.inr (Or.inl ⟨rfl, ?_, ?_⟩))
      · cases dryRun <;> simp [step, hphase]
      · cases dryRun <;> simp [step, hphase]
  | refused r =>
      refine Or.inr (Or.inr (Or.inr ⟨?_, Or.inl ?_, ?_⟩))
      · rintro ⟨hstart, -⟩
        exact absurd (hphase.symm.trans hstart) (by simp)
      · simp [step, hphase]
      · simp [step, hphase]
  | finished =>
      refine Or.inr (Or.inr (Or.inr ⟨?_, Or.inl ?_, ?_⟩))
      · rintro ⟨hstart, -⟩
        exact absurd (hphase.symm.trans hstart) (by simp)
      · simp [step, hphase]
      · simp [step, hphase]

lemma step_limits (s : Executions ι) (letter : ι × ℕ) :
    (s.step calls dryRun letter).breaker.limits = s.breaker.limits := by
  obtain ⟨i, now⟩ := letter
  simp only [step]
  repeat' split
  all_goals simp

/-! ## The limit on liquidations in flight -/

variable [Fintype ι]

/-- The liquidations in flight. -/
def running (s : Executions ι) : ℕ := Runs.tally s.phase .running

/-- The executions that passed their check and have not begun. -/
def admitted (s : Executions ι) : ℕ := Runs.tally s.phase .admitted

/-- An admission happens only while no other call stands between its check and its `begin`,
or while there are seats for all of those too. -/
def SeatFree (calls : ι → ExecuteCall) (s : Executions ι) (letter : ι × ℕ) : Prop :=
  s.Admits calls letter → s.admitted = 0 ∨ s.running + s.admitted < s.limit

/-- The breaker's count is the number of calls in flight, and every seat given out exists. -/
structure Seated (s : Executions ι) : Prop where
  count : s.breaker.inFlight.toNat = s.running
  seats : s.running + s.admitted ≤ s.limit

omit [DecidableEq ι] in
lemma seated_start (limits : RiskLimits) (metrics : Metrics) :
    (start limits metrics : Executions ι).Seated := by
  constructor <;> simp [start, running, admitted, Runs.tally, CircuitBreaker.new]

/-- The seats taken after one call has moved to another phase. -/
lemma seats_of_phase {s s' : Executions ι} {i : ι} {p q : ExecPhase} (hfrom : s.phase i = p)
    (hphase : s'.phase = Function.update s.phase i q) :
    s'.running + (if p = .running then 1 else 0) = s.running + (if q = .running then 1 else 0) ∧
      s'.admitted + (if p = .admitted then 1 else 0) =
        s.admitted + (if q = .admitted then 1 else 0) := by
  subst hfrom
  simp only [running, admitted, hphase]
  exact ⟨Runs.tally_update .., Runs.tally_update ..⟩

theorem seated_step {s : Executions ι} {letter : ι × ℕ} (hs : s.Seated)
    (hseat : s.SeatFree calls letter) : (s.step calls dryRun letter).Seated := by
  obtain ⟨i, now⟩ := letter
  obtain ⟨hcount, hseats⟩ := hs
  have hlimit : (s.step calls dryRun (i, now)).limit = s.limit := by
    rw [limit, step_limits, limit]
  have hmax : s.limit < 2 ^ 32 := UInt32.toNat_lt _
  rcases s.step_cases calls dryRun i now with
    ⟨hpass, hphase, hflight⟩ | ⟨hfrom, hphase, hbreaker⟩ | ⟨hfrom, hphase, hflight⟩ |
    ⟨-, hphase, hflight⟩
  · have hmove := seats_of_phase hpass.1 hphase
    simp only [reduceCtorEq, if_false, if_true, add_zero] at hmove
    -- Either the call is counted in no flight yet, or the condition leaves it a seat.
    have hbelow : s.running + s.admitted < s.limit := by
      rcases hseat hpass with hnone | hfree
      · have hlt := hpass.inFlight_lt
        omega
      · exact hfree
    have hflight' := congrArg UInt32.toNat hflight
    exact ⟨by omega, by omega⟩
  · have hmove := seats_of_phase hfrom hphase
    simp only [reduceCtorEq, if_false, if_true, add_zero] at hmove
    have hflight : (s.step calls dryRun (i, now)).breaker.inFlight.toNat =
        s.breaker.inFlight.toNat + 1 := by
      rw [hbreaker]
      exact CircuitBreaker.beginLiquidation_inFlight_toNat _ _ (by omega)
    exact ⟨by omega, by omega⟩
  · have hmove := seats_of_phase hfrom hphase
    simp only [reduceCtorEq, if_false, if_true, add_zero] at hmove
    -- The call that leaves is one of the running, so the count does not go below zero.
    have hpos : 0 < s.running := Runs.tally_pos hfrom
    have hleave : (s.step calls dryRun (i, now)).breaker.inFlight.toNat =
        s.breaker.inFlight.toNat - 1 := by
      rw [hflight]
      exact CircuitBreaker.leaveFlight_inFlight_toNat (by omega)
    exact ⟨by omega, by omega⟩
  · have hsame : (s.step calls dryRun (i, now)).running = s.running ∧
        (s.step calls dryRun (i, now)).admitted = s.admitted := by
      rcases hphase with hphase | ⟨r, hfrom, hphase⟩
      · simp only [running, admitted, hphase, and_self]
      · simpa using seats_of_phase hfrom hphase
    exact ⟨by rw [hflight, hcount, hsame.1], by omega⟩

/-- **The limit holds while every admission finds a seat.**  For any number of calls with any
arguments and limits, any interleaving of their steps and any clock. -/
theorem running_within_limit (limits : RiskLimits) (metrics : Metrics) (calls : ι → ExecuteCall)
    (dryRun : Bool) (run : List (ι × ℕ))
    (hseat : Runs.Along (step calls dryRun) (SeatFree calls) (start limits metrics) run) :
    Runs.Always (step calls dryRun) (fun s => s.running ≤ s.limit) (start limits metrics) run := by
  have halways : Runs.Always (step calls dryRun) Seated (start limits metrics) run :=
    Runs.always_of_along (fun _ _ hs hfree => seated_step hs hfree) run
      (seated_start limits metrics) hseat
  refine Runs.Always.mono ?_ run halways
  intro s hs
  have hseats := hs.seats
  omega

/-- Two calls that are admitted before either begins, and are then in flight together. -/
theorem running_within_limit_together :
    (Runs.exec (step (fun _ : Fin 2 => ⟨50000000, 0⟩) true)
        (start RiskLimits.default Metrics.zero) [(0, 0), (1, 1), (0, 2), (1, 3)]).running = 2 ∧
      Runs.Always (step (fun _ : Fin 2 => ⟨50000000, 0⟩) true) (fun s => s.running ≤ s.limit)
        (start RiskLimits.default Metrics.zero)
        [(0, 0), (1, 1), (0, 2), (1, 3), (0, 4), (1, 5)] := by
  refine ⟨by decide, running_within_limit RiskLimits.default Metrics.zero _ true _ ?_⟩
  exact ⟨fun _ => Or.inl (by decide), fun _ => Or.inr (by decide), fun _ => Or.inr (by decide),
    fun _ => Or.inr (by decide), fun _ => Or.inl (by decide), fun _ => Or.inl (by decide), trivial⟩

/-! ## Past the limit

Admitted calls need no further permission, so those that were admitted can all be in flight at
once. -/

/-- Admitted calls can all begin, whatever else has happened. -/
lemma running_of_begins (calls : ι → ExecuteCall) (dryRun : Bool) (now : ℕ) :
    ∀ (is : List ι) {s : Executions ι}, is.Nodup → (∀ i ∈ is, s.phase i = .admitted) →
      (Runs.exec (step calls dryRun) s (is.map fun i => (i, now))).running =
        s.running + is.length
  | [], s, _, _ => rfl
  | i :: is, s, hnodup, hadmitted => by
      obtain ⟨hi, hrest⟩ := List.nodup_cons.1 hnodup
      have hfrom : s.phase i = .admitted := hadmitted i List.mem_cons_self
      have hphase : (s.step calls dryRun (i, now)).phase =
          Function.update s.phase i .running := by simp [step, hfrom]
      have hmove := (seats_of_phase hfrom hphase).1
      simp only [reduceCtorEq, if_false, if_true, add_zero] at hmove
      have hstill : ∀ j ∈ is, (s.step calls dryRun (i, now)).phase j = .admitted := by
        intro j hj
        rw [hphase, Function.update_of_ne (ne_of_mem_of_not_mem hj hi)]
        exact hadmitted j (List.mem_cons_of_mem _ hj)
      rw [List.map_cons, Runs.exec_cons, running_of_begins calls dryRun now is hrest hstill, hmove,
        List.length_cons]
      omega

/-- **Past the first admission without a seat the limit can be exceeded**: the run up to and
with that step goes on to a state with too many liquidations in flight. -/
theorem exceeded_after_overadmission (limits : RiskLimits) (metrics : Metrics)
    (calls : ι → ExecuteCall) (dryRun : Bool) (run : List (ι × ℕ))
    (hover : ¬ Runs.Along (step calls dryRun) (SeatFree calls) (start limits metrics) run) :
    ∃ pre post more, run = pre ++ post ∧
      ¬ Runs.Always (step calls dryRun) (fun s => s.running ≤ s.limit) (start limits metrics)
        (pre ++ more) := by
  obtain ⟨pre, ⟨i, now⟩, post, rfl, -, hnot⟩ := Runs.exists_first_of_not_along _ _ hover
  set s := Runs.exec (step calls dryRun) (start limits metrics) pre with hs
  obtain ⟨hpass, hfull⟩ := Classical.not_imp.1 hnot
  have hphase : (s.step calls dryRun (i, now)).phase = Function.update s.phase i .admitted := by
    simp [step, hpass.1, hpass.2]
  have hmove := seats_of_phase hpass.1 hphase
  simp only [reduceCtorEq, if_false, if_true, add_zero] at hmove
  -- everyone admitted begins
  let is := (Finset.univ.filter fun j => (s.step calls dryRun (i, now)).phase j = .admitted).toList
  have hbegun := running_of_begins calls dryRun now is
    (Finset.nodup_toList _) (s := s.step calls dryRun (i, now)) fun j hj => by
      simpa [is] using hj
  have hlen : is.length = (s.step calls dryRun (i, now)).admitted := Finset.length_toList _
  refine ⟨pre ++ [(i, now)], post, is.map fun j => (j, now), by simp, fun halways => ?_⟩
  have hlast := Runs.Always.last _ halways
  rw [Runs.exec_append, Runs.exec_append, ← hs, Runs.exec_cons, Runs.exec_nil] at hlast
  have hlimit : (Runs.exec (step calls dryRun) (s.step calls dryRun (i, now))
      (is.map fun j => (j, now))).limit = s.limit := by
    refine Runs.exec_invariant (fun s' : Executions ι => s'.limit = s.limit) ?_ _ ?_
    · intro s' letter h
      rw [limit, step_limits]
      exact h
    · rw [limit, step_limits, limit]
  omega

/-- With a limit of one, two calls that both check before either begins are both in flight. -/
theorem two_in_flight_with_limit_one :
    ¬ Runs.Always (step (fun _ : Fin 2 => ⟨50000000, 0⟩) false) (fun s => s.running ≤ s.limit)
      (start { RiskLimits.default with maxConcurrentLiquidations := 1 } Metrics.zero)
      [(0, 0), (1, 0), (0, 0), (1, 0)] := by
  intro halways
  have hlast := Runs.Always.last _ halways
  exact absurd hlast (by decide)

end Executions

end Grokbotliq
