import Grokbotliq.Core.Profitability
import Grokbotliq.Execution.Engine

/-!
# What a bid leaves of the profit

The gate bounds the costs from above and the net from below; the engine then takes a share of
the net as a tip, never less than the profile's base tip.  The tip is in lamports, of which the
bid counts five to a micro-dollar.  Nothing holds it to what the gate left free, and
`accepted_keeps_budget_iff` says for which accepted opportunities it is nevertheless within it.

The share of the net is a product cut to 64 bits, so a very large share comes out small; the
condition speaks of the share that is computed (`ShareWithin`), not of the exact one.
-/

namespace Grokbotliq.Execution

open MachineInt

/-- The proxy of `compute_bid`: a dollar is five million lamports. -/
def lamportsPerUsdMicro : ℕ := 5

/-- The costs the gate saw, without saturation. -/
def modelledCost (input : ProfitInput) : ℕ :=
  input.swapCostUsdMicro.toNat + input.chainCostUsdMicro.toNat

/-- With the tip added, the cost is within the budget and the net at least the minimum; both
are compared in lamports. -/
def KeepsBudget (config : ProfitConfig) (input : ProfitInput) (net : Int64) (tip : UInt64) :
    Prop :=
  modelledCost input * lamportsPerUsdMicro + tip.toNat ≤
      config.maxCostUsdMicro.toNat * lamportsPerUsdMicro ∧
    config.minProfitUsdMicro.toNat * lamportsPerUsdMicro + tip.toNat ≤
      net.toInt.toNat * lamportsPerUsdMicro

/-- What the gate leaves free, in micro-dollars: of the cost budget and of the net. -/
def room (config : ProfitConfig) (input : ProfitInput) (net : Int64) : ℕ :=
  min (config.maxCostUsdMicro.toNat - modelledCost input)
    (net.toInt.toNat - config.minProfitUsdMicro.toNat)

/-- The profile's share of the net is within `lamports`.  A share of `2 ^ 64` lamports or more is
counted without its upper bits. -/
def ShareWithin (profile : BidProfile) (net : Int64) (lamports : ℕ) : Prop :=
  let share := net.toInt.toNat * profile.profitShareBps.toNat * lamportsPerUsdMicro
  share < 10000 * (lamports + 1) ∨
    10000 * 2 ^ 64 ≤ share ∧ share < 10000 * (2 ^ 64 + lamports + 1)

/-! ## The tip of an accepted opportunity -/

lemma net_of_accept {config : ProfitConfig} {input : ProfitInput} {net : Int64}
    {roi : UInt64} (h : config.evaluate input = .accept net roi) :
    0 < net ∧ config.minProfitUsdMicro.toNat ≤ net.toInt.toNat := by
  have haccept : (config.evaluate input).isAccept = true := by rw [h]; rfl
  have hnet : input.net = net := by
    have := config.netProfit_evaluate input
    rw [h] at this
    exact this.symm
  obtain ⟨-, -, hpos, hmin, -⟩ := (config.isAccept_evaluate input).1 haccept
  rw [hnet] at hpos hmin
  refine ⟨hpos, ?_⟩
  have hnat : net.toUInt64.toNat = net.toInt.toNat :=
    Int64.toNat_toUInt64_of_le (Int64.le_of_lt hpos)
  rw [← hnat]
  exact UInt64.le_iff_toNat_le.1 hmin

/-- The engine hands `compute_bid` the net itself. -/
lemma toNat_max_toUInt64 {net : Int64} (h : 0 < net) :
    (max net 0).toUInt64.toNat = net.toInt.toNat := by
  have hmax : max net 0 = net := if_neg (Int64.not_le.2 h)
  rw [hmax, Int64.toNat_toUInt64_of_le (Int64.le_of_lt h)]
  rfl

/-- A net is an `i64`, so the share is less than twice `2 ^ 64` lamports. -/
lemma share_lt (profile : BidProfile) (net : Int64) :
    net.toInt.toNat * profile.profitShareBps.toNat * lamportsPerUsdMicro <
      10000 * (2 * 2 ^ 64) := by
  have hnet : net.toInt < 2 ^ 63 := net.toInt_lt
  have hnat : net.toInt.toNat < 2 ^ 63 := by omega
  have hshare : profile.profitShareBps.toNat ≤ 6000 := by cases profile <;> decide
  calc net.toInt.toNat * profile.profitShareBps.toNat * lamportsPerUsdMicro
      ≤ net.toInt.toNat * 6000 * 5 :=
        Nat.mul_le_mul_right _ (Nat.mul_le_mul_left _ hshare)
    _ < 10000 * (2 * 2 ^ 64) := by omega

/-- The tip is within a number of lamports exactly when the base tip and the share are. -/
lemma tip_le_iff (profile : BidProfile) {net : Int64} (hnet : 0 < net) (lamports : ℕ) :
    (profile.computeBid (max net 0).toUInt64).jitoTipLamports.toNat ≤ lamports ↔
      profile.baseTipLamports.toNat ≤ lamports ∧ ShareWithin profile net lamports := by
  have hshare := share_lt profile net
  have htip : (profile.computeBid (max net 0).toUInt64).jitoTipLamports.toNat =
      max (net.toInt.toNat * profile.profitShareBps.toNat * 5 / 10000 % 2 ^ 64)
        profile.baseTipLamports.toNat := by
    simp only [BidProfile.computeBid, toNat_max_toUInt64 hnet, truncU64, UInt64.toNat_max,
      UInt64.toNat_ofNat']
  rw [htip, max_le_iff, and_comm]
  refine and_congr_right fun _ => ?_
  unfold ShareWithin lamportsPerUsdMicro at *
  omega

/-- **When a bid keeps to what the gate left free.**  For an accepted opportunity the tip fits
in the cost budget and leaves the minimum net exactly when the profile's base tip and its share
of the net are within the room the gate left. -/
theorem accepted_keeps_budget_iff (config : ProfitConfig) (input : ProfitInput)
    (profile : BidProfile) {net : Int64} {roi : UInt64}
    (h : config.evaluate input = .accept net roi) :
    KeepsBudget config input net (profile.computeBid (max net 0).toUInt64).jitoTipLamports ↔
      profile.baseTipLamports.toNat ≤ room config input net * lamportsPerUsdMicro ∧
        ShareWithin profile net (room config input net * lamportsPerUsdMicro) := by
  obtain ⟨hpos, hmin⟩ := net_of_accept h
  have hbase : 0 < profile.baseTipLamports.toNat := by cases profile <;> decide
  have htip : profile.baseTipLamports.toNat ≤
      (profile.computeBid (max net 0).toUInt64).jitoTipLamports.toNat :=
    ((tip_le_iff profile hpos _).1 (Nat.le_refl _)).1
  rw [← tip_le_iff profile hpos, KeepsBudget, room, lamportsPerUsdMicro]
  omega

/-- Ten dollars of gross profit at the costs of the plan loop. -/
def tenDollarsGross : ProfitInput where
  grossProfitUsdMicro := 10000000
  swapCostUsdMicro := 100000
  chainCostUsdMicro := 130000
  capitalUsedUsdMicro := 50000000
  notionalUsdMicro := 50000000

lemma evaluate_tenDollarsGross :
    ProfitConfig.default.evaluate tenDollarsGross = .accept 9770000 1954 := by
  decide +kernel

theorem accepted_keeps_budget_balanced :
    KeepsBudget .default tenDollarsGross 9770000
      (BidProfile.balanced.computeBid (max 9770000 0 : Int64).toUInt64).jitoTipLamports := by
  rw [accepted_keeps_budget_iff .default tenDollarsGross .balanced evaluate_tenDollarsGross]
  unfold ShareWithin
  decide +kernel

/-- The same opportunity under the profile that takes sixty percent: the tip alone is worth
5.86 dollars, of a budget of two. -/
theorem accepted_over_budget_maxCapture :
    ProfitConfig.default.evaluate tenDollarsGross = .accept 9770000 1954 ∧
      ¬ KeepsBudget .default tenDollarsGross 9770000
        (BidProfile.maxCapture.computeBid (max 9770000 0 : Int64).toUInt64).jitoTipLamports := by
  refine ⟨evaluate_tenDollarsGross, fun hkeeps => ?_⟩
  have htip : (BidProfile.maxCapture.computeBid
      (max 9770000 0 : Int64).toUInt64).jitoTipLamports = 29310000 := by decide +kernel
  have hbudget := hkeeps.1
  rw [htip] at hbudget
  exact absurd hbudget (by decide)

end Grokbotliq.Execution
