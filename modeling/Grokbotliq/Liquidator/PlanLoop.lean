import Grokbotliq.Core.OraclePath
import Grokbotliq.Execution.Engine
import Grokbotliq.Execution.Plan

/-!
# The plan loop

The liquidator takes one event after another off its stream.  A price event goes through the
oracle path; every candidate it wakes is priced, planned and, outside dry mode, handed to the
execution engine.  The best funding path of a candidate may be one the profit gate rejected,
kept for logging, and the loop hands it over like any other: it executes accepted
opportunities only as long as every candidate it wakes has a path that passes the gate
(`executes_accepted_iff`).

`HitPasses` and `TickPasses` look at the state before the turn and at the borrower's economics;
they say nothing of what is executed.  One hit adds at most one call of the engine
(`handleHit_cases`), and from there the statement goes through the hits of an event, the turn and
the run.
-/

namespace Grokbotliq.Liquidator

open Execution

/-! ## Events and fixtures -/

structure AccountUpdate where
  pubkey : Pubkey
  slot : ℕ
  writeVersion : ℕ
  data : List UInt8
  owner : Pubkey
  source : UpdateSource

inductive StreamEvent
  | account (upd : AccountUpdate)
  | slot (slot : ℕ) (parent : Option ℕ) (root : Bool)
  | price (asset : Pubkey) (priceFx : PriceFx) (slot writeVersion : ℕ)

/-- A borrower fixture with its dollar amounts as the integers they are converted to. -/
structure BorrowerFixture where
  account : Pubkey
  grossProfitUsdMicro : Int64
  notionalUsdMicro : UInt64
  capitalUsdMicro : UInt64
  repayAmount : UInt64

structure LoopConfig where
  hash : PdaHash
  /-- The orders of the index's sets.  The loop never writes the index, so each set is met in
  one order throughout. -/
  order : ScanOrder
  profit : ProfitConfig
  borrowers : List BorrowerFixture
  events : List StreamEvent
  maxTicks : UInt64

/-- What planning one hit reads from outside: the clock, twice, and the swap file. -/
structure HitInput where
  checkedAt : ℕ
  begunAt : ℕ
  swapBlob : JupiterQuoteBlob

/-- What one turn of the loop reads from outside. -/
structure TickInput where
  recvTsUs : ℕ
  hit : ℕ → HitInput

/-- A call of `execute`, with the opportunity it was made for. -/
structure Submission where
  hit : TriggerHit
  best : ScoredFundingPath
  tx : PreparedTx
  result : Except ExecError SubmitResult

structure PlanLoop where
  rx : List StreamEvent
  ticksDone : UInt64
  oraclePath : OracleTriggerPath
  store : StateStore (List UInt8)
  risk : CircuitBreaker
  /-- The calls of `execute` so far. -/
  executed : List Submission
  stopped : Bool

/-! ## Planning one hit -/

namespace LoopConfig

/-- The economics a hit is planned under: the borrower's, or defaults where it is unknown. -/
def economics (cfg : LoopConfig) (hit : TriggerHit) : Economics :=
  let (gross, notional, capital) :=
    match cfg.borrowers.find? fun b => b.account = hit.account with
    | some b => (b.grossProfitUsdMicro, b.notionalUsdMicro, b.capitalUsdMicro)
    | none => (2000000, 50000000, 50000000)
  { grossProfitUsdMicro := gross
    swapCostUsdMicro := 100000
    chainCostUsdMicro := 80000
    tipUsdMicro := 50000
    notionalUsdMicro := notional
    inventoryAvailableUsdMicro := capital
    flashFeeBps := 9 }

def amount (cfg : LoopConfig) (hit : TriggerHit) : UInt64 :=
  ((cfg.borrowers.find? fun b => b.account = hit.account).map
    BorrowerFixture.repayAmount).getD 1000000

/-- `{:?}` of a protocol. -/
def protocolName : Protocol → String
  | .kamino => "Kamino"
  | .project0 => "Project0"
  | .save => "Save"

def prepare (cfg : LoopConfig) (hit : TriggerHit) (protocol : Protocol)
    (best : ScoredFundingPath) (swapBlob : JupiterQuoteBlob) : PreparedTx :=
  let planned := buildStrategyIxs cfg.hash protocol best.strategy
    (PlanAccountSet.fromSeed hit.account) (cfg.amount hit) swapBlob
  { label := protocolName protocol ++ "-" ++ best.strategy.asStr
    protocol := protocol
    account := hit.account
    notionalUsdMicro := (cfg.economics hit).notionalUsdMicro
    expectedProfitUsdMicro := best.netProfitUsdMicro
    ixs := strategyIxLabels best.strategy protocol
    instructions := planned.labeled.map LabeledIx.ix
    fundingStrategy := some best.strategy.asStr }

end LoopConfig

namespace PlanLoop

/-- The engine of a loop: breaker and counters are shared with the rest of it. -/
def engine (s : PlanLoop) (dry : Bool) : ExecutionEngine :=
  ⟨⟨dry, .balanced⟩, s.risk, s.oraclePath.metrics⟩

/-- The body of the loop over hits.  A dry loop logs and simulates where the other one
executes; neither looks at the decision of the best path. -/
def handleHit (cfg : LoopConfig) (dry : Bool) (s : PlanLoop) (hit : TriggerHit)
    (input : HitInput) : PlanLoop :=
  match s.oraclePath.index.get hit.account with
  | none => s
  | some m =>
    match ((cfg.economics hit).evaluateFunding cfg.profit m.protocol).best with
    | none => s
    | some best =>
      if dry then s
      else
        let tx := cfg.prepare hit m.protocol best input.swapBlob
        let (engine, result) := (s.engine dry).execute tx 0 input.checkedAt input.begunAt
        { s with
          risk := engine.risk
          oraclePath := { s.oraclePath with metrics := engine.metrics }
          executed := s.executed ++ [⟨hit, best, tx, result⟩] }

def handleHits (cfg : LoopConfig) (dry : Bool) (input : TickInput) :
    ℕ → PlanLoop → List TriggerHit → PlanLoop
  | _, s, [] => s
  | n, s, hit :: hits =>
    handleHits cfg dry input (n + 1) (s.handleHit cfg dry hit (input.hit n)) hits

/-- `apply_account_update`, with the clock it stamps the entry with. -/
def accountEntry (upd : AccountUpdate) (recvTsUs : ℕ) : StoredAccount (List UInt8) where
  slot := upd.slot
  writeVersion := upd.writeVersion
  pubkey := upd.pubkey
  decoded := upd.data
  source := upd.source
  recvTsUs := recvTsUs

def handleEvent (cfg : LoopConfig) (dry : Bool) (input : TickInput) (s : PlanLoop) :
    StreamEvent → PlanLoop
  | .account upd =>
    { s with
      store := (s.store.upsert (accountEntry upd input.recvTsUs)).1
      oraclePath := { s.oraclePath with
        metrics := { s.oraclePath.metrics with
          oracleUpdates := s.oraclePath.metrics.oracleUpdates + 1 } } }
  | .slot _ _ _ => s
  | .price asset priceFx slot writeVersion =>
    let (path, hits) :=
      s.oraclePath.applyOracleUpdate
        ⟨asset, priceFx, slot, writeVersion, .mock, input.recvTsUs, cfg.order⟩
    handleHits cfg dry input 0 { s with oraclePath := path } hits

/-! ## The loop -/

/-- The loop before its first turn. -/
def start (cfg : LoopConfig) (index : CandidateIndex) (store : StateStore (List UInt8))
    (risk : CircuitBreaker) (metrics : Metrics) : PlanLoop where
  rx := cfg.events
  ticksDone := 0
  oraclePath := OracleTriggerPath.new index metrics
  store := store
  risk := risk
  executed := []
  stopped := false

/-- One turn.  An exhausted stream is armed again in a dry loop with ticks left. -/
def step (cfg : LoopConfig) (dry : Bool) (s : PlanLoop) (input : TickInput) : PlanLoop :=
  if s.stopped then s
  else if ¬ s.ticksDone < cfg.maxTicks then { s with stopped := true }
  else
    match s.rx with
    | [] =>
      if dry && s.ticksDone + 1 < cfg.maxTicks then { s with rx := cfg.events }
      else { s with stopped := true }
    | ev :: rest =>
      let s := handleEvent cfg dry input { s with rx := rest } ev
      { s with ticksDone := s.ticksDone + 1 }

/-- The event the next turn handles. -/
def nextEvent (cfg : LoopConfig) (s : PlanLoop) : Option StreamEvent :=
  if s.stopped then none else if ¬ s.ticksDone < cfg.maxTicks then none else s.rx.head?

/-! ## What is executed -/

/-- Every opportunity handed to the engine has an accepted best path. -/
def OnlyAccepted (s : PlanLoop) : Prop := ∀ x ∈ s.executed, x.best.accepted = true

/-- If the hit's candidate is known, one of its funding paths passes the profit gate. -/
def HitPasses (cfg : LoopConfig) (index : CandidateIndex) (hit : TriggerHit) : Prop :=
  ∀ m, index.get hit.account = some m →
    (cfg.economics hit).GateOpens cfg.profit m.protocol

/-- Every candidate the next turn wakes has a funding path that passes the profit gate. -/
def TickPasses (cfg : LoopConfig) (s : PlanLoop) (input : TickInput) : Prop :=
  ∀ asset priceFx slot writeVersion,
    s.nextEvent cfg = some (.price asset priceFx slot writeVersion) →
    ∀ hit ∈ s.oraclePath.hits
        ⟨asset, priceFx, slot, writeVersion, .mock, input.recvTsUs, cfg.order⟩,
      HitPasses cfg s.oraclePath.index hit

variable {cfg : LoopConfig}

lemma handleHit_index (dry : Bool) (s : PlanLoop) (hit : TriggerHit) (input : HitInput) :
    (s.handleHit cfg dry hit input).oraclePath.index = s.oraclePath.index := by
  unfold handleHit
  split
  · rfl
  · split
    · rfl
    · split_ifs <;> rfl

/-- All a hit can do to the calls of `execute`: nothing when its candidate is unknown, one more
call with its best path otherwise. -/
lemma handleHit_cases (s : PlanLoop) (hit : TriggerHit) (input : HitInput) :
    (s.oraclePath.index.get hit.account = none ∧
        (s.handleHit cfg false hit input).executed = s.executed) ∨
      ∃ m x, s.oraclePath.index.get hit.account = some m ∧
        ((cfg.economics hit).evaluateFunding cfg.profit m.protocol).best = some x.best ∧
        (s.handleHit cfg false hit input).executed = s.executed ++ [x] := by
  unfold handleHit
  cases hmeta : s.oraclePath.index.get hit.account with
  | none => exact Or.inl ⟨rfl, rfl⟩
  | some m =>
      obtain ⟨best, hbest⟩ := (cfg.economics hit).exists_best cfg.profit m.protocol
      let tx := cfg.prepare hit m.protocol best input.swapBlob
      let result := ((s.engine false).execute tx 0 input.checkedAt input.begunAt).2
      exact Or.inr ⟨m, ⟨hit, best, tx, result⟩, rfl, hbest, by simp [hbest, tx, result]⟩

lemma onlyAccepted_handleHit (s : PlanLoop) (hit : TriggerHit) (input : HitInput) :
    (s.handleHit cfg false hit input).OnlyAccepted ↔
      s.OnlyAccepted ∧ HitPasses cfg s.oraclePath.index hit := by
  rcases @handleHit_cases cfg s hit input with ⟨hmeta, hsame⟩ | ⟨m, x, hmeta, hbest, happ⟩
  · have hpasses : HitPasses cfg s.oraclePath.index hit := by
      intro m hm
      exact absurd (hmeta.symm.trans hm) (by simp)
    rw [and_iff_left hpasses, OnlyAccepted, hsame, OnlyAccepted]
  · have hpasses : HitPasses cfg s.oraclePath.index hit ↔ x.best.accepted = true := by
      rw [Economics.accepted_iff_gateOpens hbest]
      constructor
      · exact fun hall => hall m hmeta
      · intro hopen m' hm'
        obtain rfl := Option.some.inj (hmeta.symm.trans hm')
        exact hopen
    rw [hpasses, OnlyAccepted, happ, List.forall_mem_append]
    simp [OnlyAccepted]

lemma onlyAccepted_handleHits (input : TickInput) :
    ∀ (hits : List TriggerHit) (n : ℕ) (s : PlanLoop),
      (handleHits cfg false input n s hits).OnlyAccepted ↔
        s.OnlyAccepted ∧ ∀ hit ∈ hits, HitPasses cfg s.oraclePath.index hit
  | [], n, s => by simp [handleHits]
  | hit :: hits, n, s => by
      rw [handleHits, onlyAccepted_handleHits input hits, onlyAccepted_handleHit,
        handleHit_index, List.forall_mem_cons, and_assoc]

lemma onlyAccepted_handleEvent (s : PlanLoop) (input : TickInput) (ev : StreamEvent) :
    (handleEvent cfg false input s ev).OnlyAccepted ↔
      s.OnlyAccepted ∧ ∀ asset priceFx slot writeVersion,
        ev = .price asset priceFx slot writeVersion →
        ∀ hit ∈ s.oraclePath.hits
            ⟨asset, priceFx, slot, writeVersion, .mock, input.recvTsUs, cfg.order⟩,
          HitPasses cfg s.oraclePath.index hit := by
  cases ev with
  | account upd => exact (and_iff_left (by simp)).symm
  | slot n parent root => exact (and_iff_left (by simp)).symm
  | price asset priceFx slot writeVersion =>
      let u : OracleUpdate :=
        ⟨asset, priceFx, slot, writeVersion, .mock, input.recvTsUs, cfg.order⟩
      have hevent : handleEvent cfg false input s (.price asset priceFx slot writeVersion) =
          handleHits cfg false input 0 { s with oraclePath := s.oraclePath.update u }
            (s.oraclePath.hits u) := rfl
      rw [hevent, onlyAccepted_handleHits, OracleTriggerPath.update_index]
      refine and_congr Iff.rfl ⟨fun hall => ?_, fun hall => hall _ _ _ _ rfl⟩
      intro asset' priceFx' slot' writeVersion' heq
      obtain ⟨rfl, rfl, rfl, rfl⟩ := StreamEvent.price.inj heq
      exact hall

/-- The calls of one turn are all for accepted opportunities exactly when every candidate it
wakes passes. -/
lemma onlyAccepted_step (s : PlanLoop) (input : TickInput) :
    (s.step cfg false input).OnlyAccepted ↔ s.OnlyAccepted ∧ s.TickPasses cfg input := by
  by_cases hstopped : s.stopped = true
  · simp [step, TickPasses, nextEvent, hstopped]
  · by_cases hticks : s.ticksDone < cfg.maxTicks
    · cases hrx : s.rx with
      | nil => simp [step, TickPasses, nextEvent, hstopped, hticks, hrx, OnlyAccepted]
      | cons ev rest =>
          have hstep : (s.step cfg false input).OnlyAccepted ↔
              (handleEvent cfg false input { s with rx := rest } ev).OnlyAccepted := by
            simp [step, hstopped, hticks, hrx, OnlyAccepted]
          have hnext : s.nextEvent cfg = some ev := by
            simp [nextEvent, hstopped, hticks, hrx]
          rw [hstep, onlyAccepted_handleEvent, TickPasses, hnext]
          simp only [Option.some.injEq]
          rfl
    · simp [step, TickPasses, nextEvent, hstopped, hticks, OnlyAccepted]

/-- **Only accepted opportunities are executed in a run exactly when every candidate it wakes
has a path that passes the profit gate.**  For any candidates, stores, breakers and streams. -/
theorem executes_accepted_iff (cfg : LoopConfig) (index : CandidateIndex)
    (store : StateStore (List UInt8)) (risk : CircuitBreaker) (metrics : Metrics)
    (run : List TickInput) :
    (Runs.exec (step cfg false) (start cfg index store risk metrics) run).OnlyAccepted ↔
      Runs.Along (step cfg false) (TickPasses cfg) (start cfg index store risk metrics) run := by
  have hstart : (start cfg index store risk metrics).OnlyAccepted :=
    fun _ hx => absurd hx List.not_mem_nil
  rw [Runs.exec_iff_along (fun s input => onlyAccepted_step s input), and_iff_right hstart]

/-! ## Dry loops

They plan and simulate, and the engine is not called. -/

lemma handleHit_dry (s : PlanLoop) (hit : TriggerHit) (input : HitInput) :
    s.handleHit cfg true hit input = s := by
  unfold handleHit
  split
  · rfl
  · split <;> rfl

lemma handleHits_dry (input : TickInput) :
    ∀ (hits : List TriggerHit) (n : ℕ) (s : PlanLoop), handleHits cfg true input n s hits = s
  | [], _, _ => rfl
  | hit :: hits, n, s => by rw [handleHits, handleHit_dry, handleHits_dry input hits]

lemma handleEvent_dry_executed (input : TickInput) (s : PlanLoop) (ev : StreamEvent) :
    (handleEvent cfg true input s ev).executed = s.executed := by
  cases ev with
  | account upd => rfl
  | slot n parent root => rfl
  | price asset priceFx slot writeVersion =>
      show (handleHits cfg true input 0 _ _).executed = s.executed
      rw [handleHits_dry]

lemma step_dry_executed (s : PlanLoop) (input : TickInput) :
    (s.step cfg true input).executed = s.executed := by
  by_cases hstopped : s.stopped = true
  · simp [step, hstopped]
  · by_cases hticks : s.ticksDone < cfg.maxTicks
    · cases hrx : s.rx with
      | nil =>
          simp only [step, hstopped, hticks, hrx]
          split_ifs <;> simp
      | cons ev rest => simp [step, hstopped, hticks, hrx, handleEvent_dry_executed]
    · simp [step, hstopped, hticks]

/-- **A dry loop never executes**, however long it runs. -/
theorem dry_executes_nothing (cfg : LoopConfig) (index : CandidateIndex)
    (store : StateStore (List UInt8)) (risk : CircuitBreaker) (metrics : Metrics)
    (run : List TickInput) :
    (Runs.exec (step cfg true) (start cfg index store risk metrics) run).executed = [] := by
  refine Runs.exec_invariant (fun s : PlanLoop => s.executed = []) ?_ run rfl
  intro s input hs
  rw [step_dry_executed, hs]

/-! ## A rejected opportunity -/

/-- A Kamino candidate whose collateral trigger is at a hundred dollars. -/
def sampleIndex : CandidateIndex :=
  let account := Pubkey.test 1 1
  let asset := Pubkey.test 2 1
  (CandidateIndex.new.upsertCandidate ⟨account, .kamino, .hot, ⟨1040000⟩, [asset]⟩).setTriggers
    account [⟨account, asset, .collateralDown, ⟨100000000000, by decide⟩⟩]

/-- Its liquidation earns twenty cents and costs twenty-three. -/
def sampleConfig : LoopConfig where
  hash := .prefixHash
  order := .asStored
  profit := .default
  borrowers := [⟨Pubkey.test 1 1, 200000, 50000000, 50000000, 1000000⟩]
  events := [
    .price (Pubkey.test 2 1) ⟨110000000000, by decide⟩ 1 1,
    .price (Pubkey.test 2 1) ⟨90000000000, by decide⟩ 2 2]
  maxTicks := 2

/-- The price falls through the trigger, and an opportunity the gate rejects is executed. -/
theorem rejected_opportunity_is_executed :
    ¬ (Runs.exec (step sampleConfig false)
      (start sampleConfig sampleIndex StateStore.new (.new .default) Metrics.zero)
      [⟨1, fun _ => ⟨1, 2, .default⟩⟩, ⟨2, fun _ => ⟨3, 4, .default⟩⟩]).OnlyAccepted := by
  unfold OnlyAccepted
  decide +kernel

end PlanLoop

end Grokbotliq.Liquidator
