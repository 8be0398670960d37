import Grokbotliq.Framework.MachineInt

/-!
# The profit gate

The five checks an opportunity passes in turn.  Costs add with saturation, the net is a
wrapping `i64` difference, and the return on capital is computed in `u128` and truncated.

The difference wraps as in a release build.  A build that checks overflow panics instead, at the
inputs whose net leaves `i64` (those without `ProfitInput.NetFits`) and nowhere else in the gate, so
a statement about inputs whose net fits is about both builds.
-/

namespace Grokbotliq

open MachineInt

/-- Configurable profitability gates, in USD microunits. -/
structure ProfitConfig where
  minProfitUsdMicro : UInt64
  minRoiBps : UInt64
  maxCostUsdMicro : UInt64
  minNotionalUsdMicro : UInt64
  deriving DecidableEq

def ProfitConfig.default : ProfitConfig where
  minProfitUsdMicro := 500000
  minRoiBps := 10
  maxCostUsdMicro := 2000000
  minNotionalUsdMicro := 10000000

structure ProfitInput where
  grossProfitUsdMicro : Int64
  swapCostUsdMicro : UInt64
  chainCostUsdMicro : UInt64
  capitalUsedUsdMicro : UInt64
  notionalUsdMicro : UInt64
  deriving DecidableEq

inductive ProfitRejectReason
  | belowMinProfit
  | belowMinRoi
  | costTooHigh
  | notionalTooSmall
  | negativeNet
  deriving DecidableEq, Repr

inductive ProfitDecision
  | accept (netProfitUsdMicro : Int64) (roiBps : UInt64)
  | reject (reason : ProfitRejectReason) (netProfitUsdMicro : Int64)
  deriving DecidableEq

namespace ProfitDecision

/-- The net either decision reports. -/
def netProfit : ProfitDecision → Int64
  | accept net _ => net
  | reject _ net => net

/-- `matches!(decision, ProfitDecision::Accept { .. })`. -/
def isAccept : ProfitDecision → Bool
  | accept _ _ => true
  | reject _ _ => false

end ProfitDecision

namespace ProfitInput

def totalCost (input : ProfitInput) : UInt64 :=
  satAddU64 input.swapCostUsdMicro input.chainCostUsdMicro

def net (input : ProfitInput) : Int64 := input.grossProfitUsdMicro - asI64 input.totalCost

/-- Net over capital in basis points; no capital counts as an unbounded return. -/
def roiBps (input : ProfitInput) : UInt64 :=
  if input.capitalUsedUsdMicro = 0 then UInt64.ofNat (2 ^ 64 - 1)
  else truncU64 (input.net.toInt.toNat * 10000 / input.capitalUsedUsdMicro.toNat)

end ProfitInput

/-- `ProfitabilityCalculator::evaluate`. -/
def ProfitConfig.evaluate (config : ProfitConfig) (input : ProfitInput) : ProfitDecision :=
  if config.maxCostUsdMicro < input.totalCost then .reject .costTooHigh input.net
  else if input.notionalUsdMicro < config.minNotionalUsdMicro then
    .reject .notionalTooSmall input.net
  else if input.net ≤ 0 then .reject .negativeNet input.net
  else if input.net.toUInt64 < config.minProfitUsdMicro then .reject .belowMinProfit input.net
  else if input.roiBps < config.minRoiBps then .reject .belowMinRoi input.net
  else .accept input.net input.roiBps

/-- Every decision reports the net it was made on. -/
lemma ProfitConfig.netProfit_evaluate (config : ProfitConfig) (input : ProfitInput) :
    (config.evaluate input).netProfit = input.net := by
  unfold evaluate
  split_ifs <;> rfl

/-- An opportunity is accepted exactly when it passes all five checks. -/
theorem ProfitConfig.isAccept_evaluate (config : ProfitConfig) (input : ProfitInput) :
    (config.evaluate input).isAccept = true ↔
      input.totalCost ≤ config.maxCostUsdMicro ∧
      config.minNotionalUsdMicro ≤ input.notionalUsdMicro ∧
      0 < input.net ∧ config.minProfitUsdMicro ≤ input.net.toUInt64 ∧
      config.minRoiBps ≤ input.roiBps := by
  simp only [← Int64.not_le, ← UInt64.not_lt]
  unfold evaluate
  split_ifs <;> simp_all [ProfitDecision.isAccept]

end Grokbotliq
