import Grokbotliq.Kamino.Decode

/-!
# The risk fields of a live reserve

What the health computation needs of a reserve: its price, its totals and its thresholds, read
at offsets relative to the parts of the account that hold them.

The decoder checks the length of the account before it reads.  The scaled fractions are left as
the integers they are stored as; `Kamino/LiveHealth.lean` makes rationals of them.
-/

namespace Grokbotliq.Kamino

structure LiveReserveRisk where
  address : Pubkey
  lendingMarket : Pubkey
  liquidityMint : Pubkey
  mintDecimals : UInt8
  loanToValuePct : UInt8
  liquidationThresholdPct : UInt8
  borrowFactorPct : ℕ
  marketPriceSf : ℕ
  totalAvailableAmount : ℕ
  borrowedAmountSf : ℕ
  accumulatedProtocolFeesSf : ℕ
  accumulatedReferrerFeesSf : ℕ
  pendingReferrerFeesSf : ℕ
  collateralMintTotalSupply : ℕ
  pythOracle : Pubkey
  switchboardPrice : Pubkey
  scopePrices : Pubkey
  deriving DecidableEq

def liveReserveDatasize : ℕ := 8624

/-- `Reserve.config`. -/
def liveReserveConfigOffset : ℕ := 4856

def reserveLtvPctOffset : ℕ := liveReserveConfigOffset + 16

def reserveLiqThresholdPctOffset : ℕ := liveReserveConfigOffset + 17

def reserveBorrowFactorPctOffset : ℕ := liveReserveConfigOffset + 152

def reserveMarketPriceSfOffset : ℕ := liveReserveLiquidityOffset + 120

def reserveAvailableOffset : ℕ := liveReserveLiquidityOffset + 96

def reserveBorrowedSfOffset : ℕ := liveReserveLiquidityOffset + 104

def reserveProtocolFeesSfOffset : ℕ := liveReserveLiquidityOffset + 216

def reserveReferrerFeesSfOffset : ℕ := liveReserveLiquidityOffset + 232

def reservePendingReferrerFeesSfOffset : ℕ := liveReserveLiquidityOffset + 248

def reserveCollateralMintSupplyOffset : ℕ := liveReserveCollateralOffset + 32

/-- Reserve risk, price and threshold fields, with the vaults' oracle keys. -/
def decodeReserveLiveRisk (address : Pubkey) (data : List UInt8) :
    Outcome DecodeError LiveReserveRisk := do
  if data.length < min liveReserveDatasize 5256 ∨
      data.length < reserveBorrowFactorPctOffset + 8 then .err .tooShort
  else
    let vaults ← decodeReserveLiveVaults address data
    let marketPriceSf ← readLe data reserveMarketPriceSfOffset 16
    let totalAvailableAmount ← readLe data reserveAvailableOffset 8
    let borrowedAmountSf ← readLe data reserveBorrowedSfOffset 16
    let accumulatedProtocolFeesSf ← readLe data reserveProtocolFeesSfOffset 16
    let accumulatedReferrerFeesSf ← readLe data reserveReferrerFeesSfOffset 16
    let pendingReferrerFeesSf ← readLe data reservePendingReferrerFeesSfOffset 16
    let collateralMintTotalSupply ← readLe data reserveCollateralMintSupplyOffset 8
    let loanToValuePct ← readByte data reserveLtvPctOffset
    let liquidationThresholdPct ← readByte data reserveLiqThresholdPctOffset
    let borrowFactorPct ← readLe data reserveBorrowFactorPctOffset 8
    return {
      address := address
      lendingMarket := vaults.lendingMarket
      liquidityMint := vaults.liquidityMint
      mintDecimals := vaults.mintDecimals
      loanToValuePct := loanToValuePct
      liquidationThresholdPct := liquidationThresholdPct
      borrowFactorPct := if borrowFactorPct = 0 then 100 else borrowFactorPct
      marketPriceSf := marketPriceSf
      totalAvailableAmount := totalAvailableAmount
      borrowedAmountSf := borrowedAmountSf
      accumulatedProtocolFeesSf := accumulatedProtocolFeesSf
      accumulatedReferrerFeesSf := accumulatedReferrerFeesSf
      pendingReferrerFeesSf := pendingReferrerFeesSf
      collateralMintTotalSupply := collateralMintTotalSupply
      pythOracle := vaults.pythOracle
      switchboardPrice := vaults.switchboardPrice
      scopePrices := vaults.scopePrices }

end Grokbotliq.Kamino
