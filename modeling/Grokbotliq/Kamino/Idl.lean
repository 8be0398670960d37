import Grokbotliq.Core.Types
import Grokbotliq.Framework.Layout

/-!
# Obligation and Reserve in the klend IDL

The two account types and everything they are made of, field by field in the order of
`klend.json`, with the layout that order and the field types prescribe.  An account is an
8-byte discriminator followed by its value.  Nothing here knows of the decoders' offsets.

The widths of the padding are those of the IDL as well, so a value has all the bytes of its
account.  A part that no decoder looks at is a field like any other.
-/

namespace Grokbotliq.Kamino.Idl

instance : Inhabited Pubkey := ⟨Pubkey.default⟩

/-! ## The primitive types -/

def u8 : Layout UInt8 := .uint 1 UInt8.toNat

def u16 : Layout UInt16 := .uint 2 UInt16.toNat

def u32 : Layout UInt32 := .uint 4 UInt32.toNat

def u64 : Layout UInt64 := .uint 8 UInt64.toNat

def u128 : Layout (BitVec 128) := .uint 16 BitVec.toNat

/-- Two's complement. -/
def i64 : Layout Int64 := .uint 8 fun n => n.toUInt64.toNat

def publicKey : Layout Pubkey := .blob 32 Pubkey.bytes Pubkey.size

/-! ## The structures -/

structure LastUpdate where
  slot : UInt64
  stale : UInt8
  priceStatus : UInt8
  alignmentPadding : Vector UInt8 2
  timestamp : UInt32
  deriving Inhabited

def LastUpdate.layout : Layout LastUpdate := .record
  [("slot", u64.of slot), ("stale", u8.of stale), ("priceStatus", u8.of priceStatus),
    ("alignmentPadding", (u8.array 2).of alignmentPadding), ("timestamp", u32.of timestamp)]

structure ObligationCollateral where
  depositReserve : Pubkey
  depositedAmount : UInt64
  marketValueSf : BitVec 128
  borrowedAmountAgainstThisCollateralInElevationGroup : UInt64
  padding : Vector UInt64 9
  deriving Inhabited

def ObligationCollateral.layout : Layout ObligationCollateral := .record
  [("depositReserve", publicKey.of depositReserve), ("depositedAmount", u64.of depositedAmount),
    ("marketValueSf", u128.of marketValueSf),
    ("borrowedAmountAgainstThisCollateralInElevationGroup",
      u64.of borrowedAmountAgainstThisCollateralInElevationGroup),
    ("padding", (u64.array 9).of padding)]

structure BigFractionBytes where
  value : Vector UInt64 4
  padding : Vector UInt64 2
  deriving Inhabited

def BigFractionBytes.layout : Layout BigFractionBytes := .record
  [("value", (u64.array 4).of value), ("padding", (u64.array 2).of padding)]

structure FixedTermBorrowRolloverConfig where
  autoRolloverEnabled : UInt8
  openTermAllowed : UInt8
  migrationToFixedEnabled : UInt8
  fixedTermRolloverWindowDurationDays : UInt8
  maxBorrowRateBps : UInt32
  minDebtTermSeconds : UInt64
  deriving Inhabited

def FixedTermBorrowRolloverConfig.layout : Layout FixedTermBorrowRolloverConfig := .record
  [("autoRolloverEnabled", u8.of autoRolloverEnabled), ("openTermAllowed", u8.of openTermAllowed),
    ("migrationToFixedEnabled", u8.of migrationToFixedEnabled),
    ("fixedTermRolloverWindowDurationDays", u8.of fixedTermRolloverWindowDurationDays),
    ("maxBorrowRateBps", u32.of maxBorrowRateBps),
    ("minDebtTermSeconds", u64.of minDebtTermSeconds)]

structure ObligationLiquidity where
  borrowReserve : Pubkey
  cumulativeBorrowRateBsf : BigFractionBytes
  lastBorrowedAtTimestamp : UInt64
  borrowedAmountSf : BitVec 128
  marketValueSf : BitVec 128
  borrowFactorAdjustedMarketValueSf : BitVec 128
  borrowedAmountOutsideElevationGroups : UInt64
  fixedTermBorrowRolloverConfig : FixedTermBorrowRolloverConfig
  borrowedAmountAtExpiration : UInt64
  padding2 : Vector UInt64 4
  deriving Inhabited

def ObligationLiquidity.layout : Layout ObligationLiquidity := .record
  [("borrowReserve", publicKey.of borrowReserve),
    ("cumulativeBorrowRateBsf", BigFractionBytes.layout.of cumulativeBorrowRateBsf),
    ("lastBorrowedAtTimestamp", u64.of lastBorrowedAtTimestamp),
    ("borrowedAmountSf", u128.of borrowedAmountSf), ("marketValueSf", u128.of marketValueSf),
    ("borrowFactorAdjustedMarketValueSf", u128.of borrowFactorAdjustedMarketValueSf),
    ("borrowedAmountOutsideElevationGroups", u64.of borrowedAmountOutsideElevationGroups),
    ("fixedTermBorrowRolloverConfig",
      FixedTermBorrowRolloverConfig.layout.of fixedTermBorrowRolloverConfig),
    ("borrowedAmountAtExpiration", u64.of borrowedAmountAtExpiration),
    ("padding2", (u64.array 4).of padding2)]

structure ObligationOrder where
  conditionThresholdSf : BitVec 128
  opportunityParameterSf : BitVec 128
  minExecutionBonusBps : UInt16
  maxExecutionBonusBps : UInt16
  conditionType : UInt8
  opportunityType : UInt8
  padding1 : Vector UInt8 10
  padding2 : Vector (BitVec 128) 5
  deriving Inhabited

def ObligationOrder.layout : Layout ObligationOrder := .record
  [("conditionThresholdSf", u128.of conditionThresholdSf),
    ("opportunityParameterSf", u128.of opportunityParameterSf),
    ("minExecutionBonusBps", u16.of minExecutionBonusBps),
    ("maxExecutionBonusBps", u16.of maxExecutionBonusBps), ("conditionType", u8.of conditionType),
    ("opportunityType", u8.of opportunityType), ("padding1", (u8.array 10).of padding1),
    ("padding2", (u128.array 5).of padding2)]

structure BorrowOrder where
  debtLiquidityMint : Pubkey
  remainingDebtAmount : UInt64
  filledDebtDestination : Pubkey
  minDebtTermSeconds : UInt64
  fillableUntilTimestamp : UInt64
  placedAtTimestamp : UInt64
  lastUpdatedAtTimestamp : UInt64
  requestedDebtAmount : UInt64
  maxBorrowRateBps : UInt32
  active : UInt8
  enableAutoRolloverOnFilledBorrows : UInt8
  padding1 : Vector UInt8 2
  endPadding : Vector UInt64 5
  deriving Inhabited

def BorrowOrder.layout : Layout BorrowOrder := .record
  [("debtLiquidityMint", publicKey.of debtLiquidityMint),
    ("remainingDebtAmount", u64.of remainingDebtAmount),
    ("filledDebtDestination", publicKey.of filledDebtDestination),
    ("minDebtTermSeconds", u64.of minDebtTermSeconds),
    ("fillableUntilTimestamp", u64.of fillableUntilTimestamp),
    ("placedAtTimestamp", u64.of placedAtTimestamp),
    ("lastUpdatedAtTimestamp", u64.of lastUpdatedAtTimestamp),
    ("requestedDebtAmount", u64.of requestedDebtAmount),
    ("maxBorrowRateBps", u32.of maxBorrowRateBps), ("active", u8.of active),
    ("enableAutoRolloverOnFilledBorrows", u8.of enableAutoRolloverOnFilledBorrows),
    ("padding1", (u8.array 2).of padding1), ("endPadding", (u64.array 5).of endPadding)]

structure Obligation where
  tag : UInt64
  lastUpdate : LastUpdate
  lendingMarket : Pubkey
  owner : Pubkey
  deposits : Vector ObligationCollateral 8
  lowestReserveDepositLiquidationLtv : UInt64
  depositedValueSf : BitVec 128
  borrows : Vector ObligationLiquidity 5
  borrowFactorAdjustedDebtValueSf : BitVec 128
  borrowedAssetsMarketValueSf : BitVec 128
  allowedBorrowValueSf : BitVec 128
  unhealthyBorrowValueSf : BitVec 128
  paddingDeprecatedAssetTiers : Vector UInt8 13
  elevationGroup : UInt8
  numOfObsoleteDepositReserves : UInt8
  hasDebt : UInt8
  referrer : Pubkey
  borrowingDisabled : UInt8
  autodeleverageTargetLtvPct : UInt8
  lowestReserveDepositMaxLtvPct : UInt8
  numOfObsoleteBorrowReserves : UInt8
  ownershipTransferState : UInt8
  reserved : Vector UInt8 3
  highestBorrowFactorPct : UInt64
  autodeleverageMarginCallStartedTimestamp : UInt64
  obligationOrders : Vector ObligationOrder 2
  headBorrowOrder : BorrowOrder
  pendingOwner : Pubkey
  tailBorrowOrders : Vector BorrowOrder 2
  padding3 : Vector UInt64 29
  deriving Inhabited

def Obligation.layout : Layout Obligation := .record
  [("tag", u64.of tag), ("lastUpdate", LastUpdate.layout.of lastUpdate),
    ("lendingMarket", publicKey.of lendingMarket), ("owner", publicKey.of owner),
    ("deposits", (ObligationCollateral.layout.array 8).of deposits),
    ("lowestReserveDepositLiquidationLtv", u64.of lowestReserveDepositLiquidationLtv),
    ("depositedValueSf", u128.of depositedValueSf),
    ("borrows", (ObligationLiquidity.layout.array 5).of borrows),
    ("borrowFactorAdjustedDebtValueSf", u128.of borrowFactorAdjustedDebtValueSf),
    ("borrowedAssetsMarketValueSf", u128.of borrowedAssetsMarketValueSf),
    ("allowedBorrowValueSf", u128.of allowedBorrowValueSf),
    ("unhealthyBorrowValueSf", u128.of unhealthyBorrowValueSf),
    ("paddingDeprecatedAssetTiers", (u8.array 13).of paddingDeprecatedAssetTiers),
    ("elevationGroup", u8.of elevationGroup),
    ("numOfObsoleteDepositReserves", u8.of numOfObsoleteDepositReserves),
    ("hasDebt", u8.of hasDebt), ("referrer", publicKey.of referrer),
    ("borrowingDisabled", u8.of borrowingDisabled),
    ("autodeleverageTargetLtvPct", u8.of autodeleverageTargetLtvPct),
    ("lowestReserveDepositMaxLtvPct", u8.of lowestReserveDepositMaxLtvPct),
    ("numOfObsoleteBorrowReserves", u8.of numOfObsoleteBorrowReserves),
    ("ownershipTransferState", u8.of ownershipTransferState),
    ("reserved", (u8.array 3).of reserved),
    ("highestBorrowFactorPct", u64.of highestBorrowFactorPct),
    ("autodeleverageMarginCallStartedTimestamp", u64.of autodeleverageMarginCallStartedTimestamp),
    ("obligationOrders", (ObligationOrder.layout.array 2).of obligationOrders),
    ("headBorrowOrder", BorrowOrder.layout.of headBorrowOrder),
    ("pendingOwner", publicKey.of pendingOwner),
    ("tailBorrowOrders", (BorrowOrder.layout.array 2).of tailBorrowOrders),
    ("padding3", (u64.array 29).of padding3)]

structure ReserveLiquidity where
  mintPubkey : Pubkey
  supplyVault : Pubkey
  feeVault : Pubkey
  totalAvailableAmount : UInt64
  borrowedAmountSf : BitVec 128
  marketPriceSf : BitVec 128
  marketPriceLastUpdatedTs : UInt64
  mintDecimals : UInt64
  depositLimitCrossedTimestamp : UInt64
  borrowLimitCrossedTimestamp : UInt64
  cumulativeBorrowRateBsf : BigFractionBytes
  accumulatedProtocolFeesSf : BitVec 128
  accumulatedReferrerFeesSf : BitVec 128
  pendingReferrerFeesSf : BitVec 128
  absoluteReferralRateSf : BitVec 128
  tokenProgram : Pubkey
  rewardsAmountAvailable : UInt64
  padding2 : Vector UInt64 50
  padding3 : Vector (BitVec 128) 32
  deriving Inhabited

def ReserveLiquidity.layout : Layout ReserveLiquidity := .record
  [("mintPubkey", publicKey.of mintPubkey), ("supplyVault", publicKey.of supplyVault),
    ("feeVault", publicKey.of feeVault), ("totalAvailableAmount", u64.of totalAvailableAmount),
    ("borrowedAmountSf", u128.of borrowedAmountSf), ("marketPriceSf", u128.of marketPriceSf),
    ("marketPriceLastUpdatedTs", u64.of marketPriceLastUpdatedTs),
    ("mintDecimals", u64.of mintDecimals),
    ("depositLimitCrossedTimestamp", u64.of depositLimitCrossedTimestamp),
    ("borrowLimitCrossedTimestamp", u64.of borrowLimitCrossedTimestamp),
    ("cumulativeBorrowRateBsf", BigFractionBytes.layout.of cumulativeBorrowRateBsf),
    ("accumulatedProtocolFeesSf", u128.of accumulatedProtocolFeesSf),
    ("accumulatedReferrerFeesSf", u128.of accumulatedReferrerFeesSf),
    ("pendingReferrerFeesSf", u128.of pendingReferrerFeesSf),
    ("absoluteReferralRateSf", u128.of absoluteReferralRateSf),
    ("tokenProgram", publicKey.of tokenProgram),
    ("rewardsAmountAvailable", u64.of rewardsAmountAvailable),
    ("padding2", (u64.array 50).of padding2), ("padding3", (u128.array 32).of padding3)]

structure ReserveCollateral where
  mintPubkey : Pubkey
  mintTotalSupply : UInt64
  supplyVault : Pubkey
  padding1 : Vector (BitVec 128) 32
  padding2 : Vector (BitVec 128) 32
  deriving Inhabited

def ReserveCollateral.layout : Layout ReserveCollateral := .record
  [("mintPubkey", publicKey.of mintPubkey), ("mintTotalSupply", u64.of mintTotalSupply),
    ("supplyVault", publicKey.of supplyVault), ("padding1", (u128.array 32).of padding1),
    ("padding2", (u128.array 32).of padding2)]

structure ReserveFees where
  originationFeeSf : UInt64
  flashLoanFeeSf : UInt64
  padding : Vector UInt8 8
  deriving Inhabited

def ReserveFees.layout : Layout ReserveFees := .record
  [("originationFeeSf", u64.of originationFeeSf), ("flashLoanFeeSf", u64.of flashLoanFeeSf),
    ("padding", (u8.array 8).of padding)]

structure CurvePoint where
  utilizationRateBps : UInt32
  borrowRateBps : UInt32
  deriving Inhabited

def CurvePoint.layout : Layout CurvePoint := .record
  [("utilizationRateBps", u32.of utilizationRateBps), ("borrowRateBps", u32.of borrowRateBps)]

structure BorrowRateCurve where
  points : Vector CurvePoint 11
  deriving Inhabited

def BorrowRateCurve.layout : Layout BorrowRateCurve := .record
  [("points", (CurvePoint.layout.array 11).of points)]

structure PriceHeuristic where
  lower : UInt64
  upper : UInt64
  exp : UInt64
  deriving Inhabited

def PriceHeuristic.layout : Layout PriceHeuristic := .record
  [("lower", u64.of lower), ("upper", u64.of upper), ("exp", u64.of exp)]

structure ScopeConfiguration where
  priceFeed : Pubkey
  priceChain : Vector UInt16 4
  twapChain : Vector UInt16 4
  deriving Inhabited

def ScopeConfiguration.layout : Layout ScopeConfiguration := .record
  [("priceFeed", publicKey.of priceFeed), ("priceChain", (u16.array 4).of priceChain),
    ("twapChain", (u16.array 4).of twapChain)]

structure SwitchboardConfiguration where
  priceAggregator : Pubkey
  twapAggregator : Pubkey
  deriving Inhabited

def SwitchboardConfiguration.layout : Layout SwitchboardConfiguration := .record
  [("priceAggregator", publicKey.of priceAggregator),
    ("twapAggregator", publicKey.of twapAggregator)]

structure PythConfiguration where
  price : Pubkey
  deriving Inhabited

def PythConfiguration.layout : Layout PythConfiguration := .record
  [("price", publicKey.of price)]

structure TokenInfo where
  name : Vector UInt8 32
  heuristic : PriceHeuristic
  maxTwapDivergenceBps : UInt64
  maxAgePriceSeconds : UInt64
  maxAgeTwapSeconds : UInt64
  scopeConfiguration : ScopeConfiguration
  switchboardConfiguration : SwitchboardConfiguration
  pythConfiguration : PythConfiguration
  blockPriceUsage : UInt8
  reserved : Vector UInt8 7
  padding : Vector UInt64 19
  deriving Inhabited

def TokenInfo.layout : Layout TokenInfo := .record
  [("name", (u8.array 32).of name), ("heuristic", PriceHeuristic.layout.of heuristic),
    ("maxTwapDivergenceBps", u64.of maxTwapDivergenceBps),
    ("maxAgePriceSeconds", u64.of maxAgePriceSeconds),
    ("maxAgeTwapSeconds", u64.of maxAgeTwapSeconds),
    ("scopeConfiguration", ScopeConfiguration.layout.of scopeConfiguration),
    ("switchboardConfiguration", SwitchboardConfiguration.layout.of switchboardConfiguration),
    ("pythConfiguration", PythConfiguration.layout.of pythConfiguration),
    ("blockPriceUsage", u8.of blockPriceUsage), ("reserved", (u8.array 7).of reserved),
    ("padding", (u64.array 19).of padding)]

structure WithdrawalCaps where
  configCapacity : Int64
  currentTotal : Int64
  lastIntervalStartTimestamp : UInt64
  configIntervalLengthSeconds : UInt64
  deriving Inhabited

def WithdrawalCaps.layout : Layout WithdrawalCaps := .record
  [("configCapacity", i64.of configCapacity), ("currentTotal", i64.of currentTotal),
    ("lastIntervalStartTimestamp", u64.of lastIntervalStartTimestamp),
    ("configIntervalLengthSeconds", u64.of configIntervalLengthSeconds)]

structure ReserveConfig where
  status : UInt8
  paddingDeprecatedAssetTier : UInt8
  hostFixedInterestRateBps : UInt16
  minDeleveragingBonusBps : UInt16
  blockCtokenUsage : UInt8
  earlyRepayRemainingInterestPct : UInt8
  emergencyMode : UInt8
  interestRateBasis : UInt8
  reserved1 : Vector UInt8 3
  protocolOrderExecutionFeePct : UInt8
  protocolTakeRatePct : UInt8
  protocolLiquidationFeePct : UInt8
  loanToValuePct : UInt8
  liquidationThresholdPct : UInt8
  minLiquidationBonusBps : UInt16
  maxLiquidationBonusBps : UInt16
  badDebtLiquidationBonusBps : UInt16
  deleveragingMarginCallPeriodSecs : UInt64
  deleveragingThresholdDecreaseBpsPerDay : UInt64
  fees : ReserveFees
  borrowRateCurve : BorrowRateCurve
  borrowFactorPct : UInt64
  depositLimit : UInt64
  borrowLimit : UInt64
  tokenInfo : TokenInfo
  depositWithdrawalCap : WithdrawalCaps
  debtWithdrawalCap : WithdrawalCaps
  elevationGroups : Vector UInt8 20
  disableUsageAsCollOutsideEmode : UInt8
  utilizationLimitBlockBorrowingAbovePct : UInt8
  autodeleverageEnabled : UInt8
  proposerAuthorityLocked : UInt8
  borrowLimitOutsideElevationGroup : UInt64
  borrowLimitAgainstThisCollateralInElevationGroup : Vector UInt64 32
  deleveragingBonusIncreaseBpsPerDay : UInt64
  debtMaturityTimestamp : UInt64
  debtTermSeconds : UInt64
  rewardsAmountPerAccrualUnit : UInt64
  permissionedOps : UInt64
  deriving Inhabited

def ReserveConfig.layout : Layout ReserveConfig := .record
  [("status", u8.of status), ("paddingDeprecatedAssetTier", u8.of paddingDeprecatedAssetTier),
    ("hostFixedInterestRateBps", u16.of hostFixedInterestRateBps),
    ("minDeleveragingBonusBps", u16.of minDeleveragingBonusBps),
    ("blockCtokenUsage", u8.of blockCtokenUsage),
    ("earlyRepayRemainingInterestPct", u8.of earlyRepayRemainingInterestPct),
    ("emergencyMode", u8.of emergencyMode), ("interestRateBasis", u8.of interestRateBasis),
    ("reserved1", (u8.array 3).of reserved1),
    ("protocolOrderExecutionFeePct", u8.of protocolOrderExecutionFeePct),
    ("protocolTakeRatePct", u8.of protocolTakeRatePct),
    ("protocolLiquidationFeePct", u8.of protocolLiquidationFeePct),
    ("loanToValuePct", u8.of loanToValuePct),
    ("liquidationThresholdPct", u8.of liquidationThresholdPct),
    ("minLiquidationBonusBps", u16.of minLiquidationBonusBps),
    ("maxLiquidationBonusBps", u16.of maxLiquidationBonusBps),
    ("badDebtLiquidationBonusBps", u16.of badDebtLiquidationBonusBps),
    ("deleveragingMarginCallPeriodSecs", u64.of deleveragingMarginCallPeriodSecs),
    ("deleveragingThresholdDecreaseBpsPerDay", u64.of deleveragingThresholdDecreaseBpsPerDay),
    ("fees", ReserveFees.layout.of fees),
    ("borrowRateCurve", BorrowRateCurve.layout.of borrowRateCurve),
    ("borrowFactorPct", u64.of borrowFactorPct), ("depositLimit", u64.of depositLimit),
    ("borrowLimit", u64.of borrowLimit), ("tokenInfo", TokenInfo.layout.of tokenInfo),
    ("depositWithdrawalCap", WithdrawalCaps.layout.of depositWithdrawalCap),
    ("debtWithdrawalCap", WithdrawalCaps.layout.of debtWithdrawalCap),
    ("elevationGroups", (u8.array 20).of elevationGroups),
    ("disableUsageAsCollOutsideEmode", u8.of disableUsageAsCollOutsideEmode),
    ("utilizationLimitBlockBorrowingAbovePct", u8.of utilizationLimitBlockBorrowingAbovePct),
    ("autodeleverageEnabled", u8.of autodeleverageEnabled),
    ("proposerAuthorityLocked", u8.of proposerAuthorityLocked),
    ("borrowLimitOutsideElevationGroup", u64.of borrowLimitOutsideElevationGroup),
    ("borrowLimitAgainstThisCollateralInElevationGroup",
      (u64.array 32).of borrowLimitAgainstThisCollateralInElevationGroup),
    ("deleveragingBonusIncreaseBpsPerDay", u64.of deleveragingBonusIncreaseBpsPerDay),
    ("debtMaturityTimestamp", u64.of debtMaturityTimestamp),
    ("debtTermSeconds", u64.of debtTermSeconds),
    ("rewardsAmountPerAccrualUnit", u64.of rewardsAmountPerAccrualUnit),
    ("permissionedOps", u64.of permissionedOps)]

structure WithdrawQueue where
  queuedCollateralAmount : UInt64
  nextIssuedTicketSequenceNumber : UInt64
  nextWithdrawableTicketSequenceNumber : UInt64
  deriving Inhabited

def WithdrawQueue.layout : Layout WithdrawQueue := .record
  [("queuedCollateralAmount", u64.of queuedCollateralAmount),
    ("nextIssuedTicketSequenceNumber", u64.of nextIssuedTicketSequenceNumber),
    ("nextWithdrawableTicketSequenceNumber", u64.of nextWithdrawableTicketSequenceNumber)]

structure Reserve where
  version : UInt64
  lastUpdate : LastUpdate
  lendingMarket : Pubkey
  farmCollateral : Pubkey
  farmDebt : Pubkey
  liquidity : ReserveLiquidity
  reserveLiquidityPadding : Vector UInt64 150
  collateral : ReserveCollateral
  reserveCollateralPadding : Vector UInt64 150
  config : ReserveConfig
  configPadding : Vector UInt64 112
  borrowedAmountOutsideElevationGroup : UInt64
  borrowedAmountsAgainstThisReserveInElevationGroups : Vector UInt64 32
  withdrawQueue : WithdrawQueue
  padding : Vector UInt64 204
  deriving Inhabited

def Reserve.layout : Layout Reserve := .record
  [("version", u64.of version), ("lastUpdate", LastUpdate.layout.of lastUpdate),
    ("lendingMarket", publicKey.of lendingMarket), ("farmCollateral", publicKey.of farmCollateral),
    ("farmDebt", publicKey.of farmDebt), ("liquidity", ReserveLiquidity.layout.of liquidity),
    ("reserveLiquidityPadding", (u64.array 150).of reserveLiquidityPadding),
    ("collateral", ReserveCollateral.layout.of collateral),
    ("reserveCollateralPadding", (u64.array 150).of reserveCollateralPadding),
    ("config", ReserveConfig.layout.of config), ("configPadding", (u64.array 112).of configPadding),
    ("borrowedAmountOutsideElevationGroup", u64.of borrowedAmountOutsideElevationGroup),
    ("borrowedAmountsAgainstThisReserveInElevationGroups",
      (u64.array 32).of borrowedAmountsAgainstThisReserveInElevationGroups),
    ("withdrawQueue", WithdrawQueue.layout.of withdrawQueue),
    ("padding", (u64.array 204).of padding)]

/-! ## Accounts -/

/-- The bytes of an account: its discriminator, then its value. -/
def account {α : Type} (discriminator : Vector UInt8 8) (L : Layout α) (a : α) : List UInt8 :=
  discriminator.toList ++ L.encode a

lemma length_account {α : Type} (discriminator : Vector UInt8 8) (L : Layout α) (a : α) :
    (account discriminator L a).length = 8 + L.size := by
  rw [account, List.length_append, L.length_encode, Vector.length_toList]

lemma at_account {α : Type} (discriminator : Vector UInt8 8) (L : Layout α) (a : α) :
    Layout.At (account discriminator L a) 8 L a := by
  have h := Layout.at_append discriminator.toList L a
  rwa [Vector.length_toList] at h

/-- The sizes the accounts have on chain. -/
example : 8 + Obligation.layout.size = 3344 ∧ 8 + Reserve.layout.size = 8624 := ⟨rfl, rfl⟩

end Grokbotliq.Kamino.Idl
