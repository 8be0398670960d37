import Grokbotliq.Core.Instruction
import Grokbotliq.Framework.MachineInt
import Grokbotliq.Risk.CircuitBreaker

/-!
# The execution engine

One `execute`: the breaker is asked, the liquidation begins, a bid is computed, and the call
ends as a dry run or as a failure, live submission not being wired.  The engine itself knows
nothing of funding paths and profit gates.

The breaker reads the clock at the check and again when the call begins; both readings are
arguments.  Runs of `execute`, one after another and interleaved, are in
`Execution/RollingBudget.lean`, `Risk/Admission.lean` and `Risk/ExecutionLedger.lean`.
-/

namespace Grokbotliq.Execution

open MachineInt

/-! ## Bids -/

inductive BidProfile
  | conservative
  | balanced
  | aggressive
  | maxCapture
  deriving DecidableEq, Repr

structure BidQuote where
  priorityFeeMicroLamports : UInt64
  jitoTipLamports : UInt64
  profitShareBps : UInt16
  deriving DecidableEq

namespace BidProfile

def profitShareBps : BidProfile → UInt16
  | conservative => 500
  | balanced => 1500
  | aggressive => 3500
  | maxCapture => 6000

def basePriorityMicroLamports : BidProfile → UInt64
  | conservative => 1000
  | balanced => 10000
  | aggressive => 100000
  | maxCapture => 1000000

def baseTipLamports : BidProfile → UInt64
  | conservative => 1000
  | balanced => 10000
  | aggressive => 100000
  | maxCapture => 1000000

/-- The products are taken in `u128`, where they cannot saturate. -/
def computeBid (profile : BidProfile) (expectedProfitUsdMicro : UInt64) : BidQuote :=
  let profitTip := expectedProfitUsdMicro.toNat * profile.profitShareBps.toNat * 5 / 10000
  let bump := min (expectedProfitUsdMicro / 1000000) 10
  { priorityFeeMicroLamports := satMulU64 profile.basePriorityMicroLamports (1 + bump)
    jitoTipLamports := max (truncU64 profitTip) profile.baseTipLamports
    profitShareBps := profile.profitShareBps }

end BidProfile

/-! ## Execution -/

/-- A planned transaction as it is handed to the engine. -/
structure PreparedTx where
  label : String
  protocol : Protocol
  account : Pubkey
  notionalUsdMicro : UInt64
  expectedProfitUsdMicro : Int64
  ixs : List String
  instructions : List Instruction
  fundingStrategy : Option String

structure SubmitResult where
  dryRun : Bool
  accepted : Bool
  bid : BidQuote
  deriving DecidableEq

inductive ExecError
  | risk (r : RiskReject)
  | submit (message : String)
  deriving DecidableEq

structure ExecConfig where
  dryRun : Bool
  bidProfile : BidProfile

/-- The engine: its configuration, and the breaker and counters it shares. -/
structure ExecutionEngine where
  config : ExecConfig
  risk : CircuitBreaker
  metrics : Metrics

/-- `ExecutionEngine::execute`, at the readings of the clock by its check and its `begin`. -/
def ExecutionEngine.execute (e : ExecutionEngine) (tx : PreparedTx)
    (oracleStalenessSlots : UInt64) (checkedAt begunAt : ℕ) :
    ExecutionEngine × Except ExecError SubmitResult :=
  let (risk, allowed) := e.risk.checkAllow tx.notionalUsdMicro oracleStalenessSlots checkedAt
  match allowed with
  | .error r => ({ e with risk := risk }, .error (.risk r))
  | .ok () =>
    let metrics := { e.metrics with liquidationsAttempted := e.metrics.liquidationsAttempted + 1 }
    let risk := risk.beginLiquidation tx.notionalUsdMicro begunAt
    let bid := e.config.bidProfile.computeBid (max tx.expectedProfitUsdMicro 0).toUInt64
    if e.config.dryRun then
      ({ e with
          risk := risk.endSuccess
          metrics := { metrics with dryRunSkips := metrics.dryRunSkips + 1 } },
        .ok ⟨true, true, bid⟩)
    else
      ({ e with
          risk := risk.endFailure
          metrics := { metrics with liquidationsFailed := metrics.liquidationsFailed + 1 } },
        .error (.submit "live submit requires RPC/Jito credentials — see config"))

end Grokbotliq.Execution
