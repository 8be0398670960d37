import Grokbotliq.Core.Profitability

/-!
# When the profit gate is exact

The gate subtracts the costs as an `i64` and keeps the low 64 bits of the return on capital.
Against the same five checks over the integers it is right as long as the costs and the net are
within `i64` and no bits of a return that decides are lost: `evaluate_exact_iff`.

Two things can go wrong, and they are apart.  A cost of `2 ^ 63` or more is cast to a negative
number, so that a loss passes as a profit (`hugeSwap_accepted`); `netFits_and_exact_iff` is about
this one.  A return of `2 ^ 64` basis points or more keeps only its low bits; within the range of
the first the five checks are the exact ones but for that (`isAccept_of_inRange`), so the second
can only turn an acceptance into a rejection.
-/

namespace Grokbotliq

open MachineInt

namespace ProfitInput

/-- Gross less swap and chain costs. -/
def exactNet (input : ProfitInput) : ℤ :=
  input.grossProfitUsdMicro.toInt - input.swapCostUsdMicro.toNat - input.chainCostUsdMicro.toNat

/-- Net over capital in basis points, rounded down; meaningful for some capital only. -/
def exactRoiBps (input : ProfitInput) : ℕ :=
  input.exactNet.toNat * 10000 / input.capitalUsedUsdMicro.toNat

/-- The subtraction of `evaluate` stays within `i64`.  Otherwise it panics, or wraps where
overflow is not checked. -/
def NetFits (input : ProfitInput) : Prop :=
  -2 ^ 63 ≤ input.grossProfitUsdMicro.toInt - (asI64 input.totalCost).toInt ∧
    input.grossProfitUsdMicro.toInt - (asI64 input.totalCost).toInt < 2 ^ 63

/-- The costs are within `i64`, and so is the net. -/
def InRange (input : ProfitInput) : Prop :=
  input.swapCostUsdMicro.toNat + input.chainCostUsdMicro.toNat < 2 ^ 63 ∧
    -2 ^ 63 ≤ input.exactNet

/-! ## The net -/

lemma toInt_asI64_of_lt {x : UInt64} (h : x.toNat < 2 ^ 63) : (asI64 x).toInt = x.toNat := by
  have hbmod : (asI64 x).toInt = (x.toNat : ℤ).bmod (2 ^ 64) := BitVec.toInt_eq_toNat_bmod _
  rw [hbmod]
  exact Int.bmod_eq_of_le (by omega) (by omega)

lemma toInt_asI64_of_ge {x : UInt64} (h : 2 ^ 63 ≤ x.toNat) :
    (asI64 x).toInt = x.toNat - 2 ^ 64 := by
  have hbmod : (asI64 x).toInt = (x.toNat : ℤ).bmod (2 ^ 64) := BitVec.toInt_eq_toNat_bmod _
  have hlt : x.toNat < 2 ^ 64 := x.toNat_lt
  have hshift : (x.toNat : ℤ).bmod (2 ^ 64) = ((x.toNat : ℤ) - 2 ^ 64).bmod (2 ^ 64) := by
    have hself := Int.sub_bmod_right (x.toNat : ℤ) (2 ^ 64)
    exact_mod_cast hself.symm
  rw [hbmod, hshift]
  exact Int.bmod_eq_of_le (by omega) (by omega)

lemma toNat_totalCost (input : ProfitInput) :
    input.totalCost.toNat =
      min (input.swapCostUsdMicro.toNat + input.chainCostUsdMicro.toNat) (2 ^ 64 - 1) := by
  rw [totalCost, satAddU64]
  split_ifs with hfits
  · rw [UInt64.toNat_add, Nat.mod_eq_of_lt hfits]
    omega
  · have htop : (UInt64.ofNat (2 ^ 64 - 1)).toNat = 2 ^ 64 - 1 := rfl
    omega

lemma toInt_net_of_netFits {input : ProfitInput} (h : input.NetFits) :
    input.net.toInt = input.grossProfitUsdMicro.toInt - (asI64 input.totalCost).toInt := by
  obtain ⟨hlow, hhigh⟩ := h
  rw [net, Int64.toInt_sub]
  exact Int.bmod_eq_of_le (by omega) (by omega)

/-- The difference fits and is the exact net when costs and net are within `i64`. -/
theorem netFits_and_exact_iff (input : ProfitInput) :
    (input.NetFits ∧ input.net.toInt = input.exactNet) ↔ input.InRange := by
  have hcost := input.toNat_totalCost
  have hgross := input.grossProfitUsdMicro.toInt_lt
  constructor
  · rintro ⟨hfits, hexact⟩
    rw [toInt_net_of_netFits hfits] at hexact
    have hlow := hfits.1
    rw [hexact] at hlow
    refine ⟨?_, hlow⟩
    -- a cost from `2 ^ 63` on is read as a negative number
    by_contra hbig
    have hge : 2 ^ 63 ≤ input.totalCost.toNat := by omega
    rw [toInt_asI64_of_ge hge] at hexact
    rw [exactNet] at hexact
    omega
  · rintro ⟨hsmall, hlow⟩
    -- Below `2 ^ 63` the cast of the cost is exact, and so is the difference.
    have hcast : (asI64 input.totalCost).toInt =
        input.swapCostUsdMicro.toNat + input.chainCostUsdMicro.toNat := by
      rw [toInt_asI64_of_lt (by omega), hcost]
      omega
    have hdiff : input.grossProfitUsdMicro.toInt - (asI64 input.totalCost).toInt =
        input.exactNet := by
      rw [hcast, exactNet]
      omega
    have hfits : input.NetFits := by
      rw [NetFits, hdiff]
      refine ⟨hlow, ?_⟩
      rw [exactNet]
      omega
    exact ⟨hfits, (toInt_net_of_netFits hfits).trans hdiff⟩

end ProfitInput

/-! ## The decision -/

namespace ProfitConfig

/-- The gates before the return on capital, over the integers. -/
def PassesBeforeRoi (config : ProfitConfig) (input : ProfitInput) : Prop :=
  input.swapCostUsdMicro.toNat + input.chainCostUsdMicro.toNat ≤ config.maxCostUsdMicro.toNat ∧
    config.minNotionalUsdMicro ≤ input.notionalUsdMicro ∧
    0 < input.exactNet ∧ config.minProfitUsdMicro.toNat ≤ input.exactNet

/-- All five gates over the integers; without capital the return is unbounded. -/
def ExactlyAccepts (config : ProfitConfig) (input : ProfitInput) : Prop :=
  config.PassesBeforeRoi input ∧
    (input.capitalUsedUsdMicro = 0 ∨ config.minRoiBps.toNat ≤ input.exactRoiBps)

/-- `evaluate` does not overflow, reports the exact net, and accepts by the exact gates. -/
structure Exact (config : ProfitConfig) (input : ProfitInput) : Prop where
  fits : input.NetFits
  net : (config.evaluate input).netProfit.toInt = input.exactNet
  accept : (config.evaluate input).isAccept = true ↔ config.ExactlyAccepts input

/-- The return on capital decides and is enough, but its low 64 bits are not. -/
def LosesRoi (config : ProfitConfig) (input : ProfitInput) : Prop :=
  config.PassesBeforeRoi input ∧ input.capitalUsedUsdMicro ≠ 0 ∧
    config.minRoiBps.toNat ≤ input.exactRoiBps ∧
    input.exactRoiBps % 2 ^ 64 < config.minRoiBps.toNat

lemma minRoi_le_roiBps_iff {config : ProfitConfig} {input : ProfitInput}
    (hnet : input.net.toInt = input.exactNet) :
    config.minRoiBps ≤ input.roiBps ↔
      input.capitalUsedUsdMicro = 0 ∨ config.minRoiBps.toNat ≤ input.exactRoiBps % 2 ^ 64 := by
  have hmin : config.minRoiBps.toNat < 2 ^ 64 := config.minRoiBps.toNat_lt
  rw [UInt64.le_iff_toNat_le, ProfitInput.roiBps]
  split_ifs with hcapital
  · have htop : (UInt64.ofNat (2 ^ 64 - 1)).toNat = 2 ^ 64 - 1 := rfl
    rw [htop]
    exact iff_of_true (by omega) (Or.inl hcapital)
  · rw [or_iff_right hcapital, truncU64, UInt64.toNat_ofNat', hnet]
    rfl

lemma isAccept_of_inRange {config : ProfitConfig} {input : ProfitInput} (h : input.InRange) :
    (config.evaluate input).isAccept = true ↔
      config.PassesBeforeRoi input ∧ (input.capitalUsedUsdMicro = 0 ∨
        config.minRoiBps.toNat ≤ input.exactRoiBps % 2 ^ 64) := by
  obtain ⟨-, hnet⟩ := input.netFits_and_exact_iff.2 h
  have hcost : input.totalCost ≤ config.maxCostUsdMicro ↔
      input.swapCostUsdMicro.toNat + input.chainCostUsdMicro.toNat ≤
        config.maxCostUsdMicro.toNat := by
    rw [UInt64.le_iff_toNat_le, input.toNat_totalCost, Nat.min_eq_left]
    have hsmall := h.1
    omega
  -- In range the net is exact, and each check is the one over the exact numbers.
  have hpos : 0 < input.net ↔ 0 < input.exactNet := by
    rw [Int64.lt_iff_toInt_lt, hnet]
    rfl
  have hprofit (hnetPos : 0 < input.exactNet) :
      config.minProfitUsdMicro ≤ input.net.toUInt64 ↔
        config.minProfitUsdMicro.toNat ≤ input.exactNet := by
    have hnat : input.net.toUInt64.toNat = input.net.toInt.toNat :=
      Int64.toNat_toUInt64_of_le (Int64.le_of_lt (hpos.2 hnetPos))
    rw [UInt64.le_iff_toNat_le, hnat, hnet]
    omega
  rw [isAccept_evaluate, hcost, hpos, minRoi_le_roiBps_iff hnet, PassesBeforeRoi]
  constructor
  · rintro ⟨hc, hn, hp, hmin, hroi⟩
    exact ⟨⟨hc, hn, hp, (hprofit hp).1 hmin⟩, hroi⟩
  · rintro ⟨⟨hc, hn, hp, hmin⟩, hroi⟩
    exact ⟨hc, hn, hp, (hprofit hp).2 hmin, hroi⟩

/-- **When the gate is exact.**  For every configuration and input: exactly when the costs and
the net are within `i64` and the return on capital, where it decides, does not lose the bits
that make it enough. -/
theorem evaluate_exact_iff (config : ProfitConfig) (input : ProfitInput) :
    config.Exact input ↔ input.InRange ∧ ¬ config.LosesRoi input := by
  have hreported : (config.evaluate input).netProfit.toInt = input.net.toInt :=
    congrArg Int64.toInt (config.netProfit_evaluate input)
  have htruncated : input.exactRoiBps % 2 ^ 64 ≤ input.exactRoiBps := Nat.mod_le _ _
  constructor
  · intro hexact
    have hrange : input.InRange :=
      input.netFits_and_exact_iff.1 ⟨hexact.fits, hreported.symm.trans hexact.net⟩
    refine ⟨hrange, fun hloses => ?_⟩
    obtain ⟨hbefore, hcapital, henough, hlost⟩ := hloses
    have haccepted := hexact.accept.2 ⟨hbefore, Or.inr henough⟩
    rcases ((isAccept_of_inRange hrange).1 haccepted).2 with hzero | hroi
    · exact hcapital hzero
    · omega
  · rintro ⟨hrange, hkeeps⟩
    obtain ⟨hfits, hnet⟩ := input.netFits_and_exact_iff.2 hrange
    refine ⟨hfits, hreported.trans hnet, ?_⟩
    rw [isAccept_of_inRange hrange, ExactlyAccepts]
    apply and_congr_right
    intro hbefore
    -- Without capital there is no return to compare; with it only the truncated quotient can lose.
    by_cases hcapital : input.capitalUsedUsdMicro = 0
    · exact iff_of_true (Or.inl hcapital) (Or.inl hcapital)
    · rw [or_iff_right hcapital, or_iff_right hcapital]
      constructor
      · intro hroi
        exact hroi.trans htruncated
      · intro henough
        by_contra hlost
        exact hkeeps ⟨hbefore, hcapital, henough, Nat.lt_of_not_le hlost⟩

/-- A gate that bounds no costs. -/
def anyCost : ProfitConfig := { default with maxCostUsdMicro := UInt64.ofNat (2 ^ 64 - 1) }

/-- No profit against a swap that costs more than an `i64` holds. -/
def hugeSwap : ProfitInput where
  grossProfitUsdMicro := 0
  swapCostUsdMicro := UInt64.ofNat (2 ^ 63 + 1)
  chainCostUsdMicro := 0
  capitalUsedUsdMicro := 100000000
  notionalUsdMicro := 100000000

/-- The cost is read as a negative number, so the loss is accepted as a profit. -/
theorem hugeSwap_accepted :
    (anyCost.evaluate hugeSwap).isAccept = true ∧
      (anyCost.evaluate hugeSwap).netProfit.toInt = 2 ^ 63 - 1 ∧
      hugeSwap.exactNet = -2 ^ 63 - 1 ∧ ¬ anyCost.Exact hugeSwap := by
  refine ⟨by decide, by decide, by decide, fun hexact => ?_⟩
  exact absurd hexact.net (by decide)

end ProfitConfig

end Grokbotliq
