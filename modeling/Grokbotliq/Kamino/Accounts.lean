import Grokbotliq.Core.Instruction

/-!
# Klend instructions

The discriminators, data encodings and account lists of the klend instructions the planner
emits.  Each instruction's data begins with its eight-byte discriminator.

The account lists are written out as the source has them, the optional ones with their
placeholder: an absent farm or referrer is the program's own id, readonly.  How these lists
compare with the IDL is the subject of `Kamino/InstructionIdl.lean` and `Execution/PlanIdl.lean`.
-/

namespace Grokbotliq.Kamino

open Wire

namespace Disc

def refreshReserve : List UInt8 := [2, 218, 138, 235, 79, 201, 25, 102]

def refreshObligation : List UInt8 := [33, 132, 147, 228, 151, 192, 72, 89]

def liquidateV2 : List UInt8 := [162, 161, 35, 143, 30, 187, 185, 103]

def flashBorrow : List UInt8 := [135, 231, 52, 167, 7, 52, 212, 193]

def flashRepay : List UInt8 := [185, 117, 0, 203, 96, 245, 180, 186]

end Disc

/-! ## Data -/

def encodeLiquidateV2Data (liquidityAmount minAcceptableReceived
    maxAllowedLtvOverridePercent : UInt64) : List UInt8 :=
  Disc.liquidateV2 ++ leBytes 8 liquidityAmount.toNat ++ leBytes 8 minAcceptableReceived.toNat ++
    leBytes 8 maxAllowedLtvOverridePercent.toNat

def encodeRefreshReserve : List UInt8 := Disc.refreshReserve

def encodeRefreshObligation : List UInt8 := Disc.refreshObligation

def encodeFlashBorrow (liquidityAmount : UInt64) : List UInt8 :=
  Disc.flashBorrow ++ leBytes 8 liquidityAmount.toNat

def encodeFlashRepay (liquidityAmount : UInt64) (borrowInstructionIndex : UInt8) : List UInt8 :=
  Disc.flashRepay ++ leBytes 8 liquidityAmount.toNat ++ [borrowInstructionIndex]

/-! ## Accounts of `liquidate_v2` -/

inductive MetaRole
  | writable
  | readonly
  | signer
  deriving DecidableEq, Repr

structure AccountMetaDesc where
  name : String
  key : Pubkey
  role : MetaRole
  deriving DecidableEq

/-- The meta a described account becomes on the wire. -/
def AccountMetaDesc.toMeta (m : AccountMetaDesc) : AccountMeta :=
  match m.role with
  | .signer => .newReadonly m.key true
  | .writable => .new m.key false
  | .readonly => .newReadonly m.key false

/-- Flat account list matching IDL liquidationAccounts + farms + farmsProgram. -/
structure LiquidateV2Accounts where
  liquidator : Pubkey
  obligation : Pubkey
  lendingMarket : Pubkey
  lendingMarketAuthority : Pubkey
  repayReserve : Pubkey
  repayReserveLiquidityMint : Pubkey
  repayReserveLiquiditySupply : Pubkey
  withdrawReserve : Pubkey
  withdrawReserveLiquidityMint : Pubkey
  withdrawReserveCollateralMint : Pubkey
  withdrawReserveCollateralSupply : Pubkey
  withdrawReserveLiquiditySupply : Pubkey
  withdrawReserveLiquidityFeeReceiver : Pubkey
  userSourceLiquidity : Pubkey
  userDestinationCollateral : Pubkey
  userDestinationLiquidity : Pubkey
  collateralTokenProgram : Pubkey
  repayLiquidityTokenProgram : Pubkey
  withdrawLiquidityTokenProgram : Pubkey
  instructionSysvarAccount : Pubkey
  collateralObligationFarmUserState : Option Pubkey
  collateralReserveFarmState : Option Pubkey
  debtObligationFarmUserState : Option Pubkey
  debtReserveFarmState : Option Pubkey
  farmsProgram : Pubkey
  depositReserves : List Pubkey

/-- An absent farm account becomes the placeholder, readonly. -/
def optFarm (name : String) (key : Option Pubkey) (placeholder : Pubkey) : AccountMetaDesc :=
  match key with
  | some k => ⟨name, k, .writable⟩
  | none => ⟨name, placeholder, .readonly⟩

def LiquidateV2Accounts.metas (a : LiquidateV2Accounts) : List AccountMetaDesc :=
  -- the klend program id, not the farms program, stands in for absent optional accounts
  let placeholder := Programs.klend
  [ ⟨"liquidator", a.liquidator, .signer⟩,
    ⟨"obligation", a.obligation, .writable⟩,
    ⟨"lending_market", a.lendingMarket, .readonly⟩,
    ⟨"lending_market_authority", a.lendingMarketAuthority, .readonly⟩,
    ⟨"repay_reserve", a.repayReserve, .writable⟩,
    ⟨"repay_reserve_liquidity_mint", a.repayReserveLiquidityMint, .readonly⟩,
    ⟨"repay_reserve_liquidity_supply", a.repayReserveLiquiditySupply, .writable⟩,
    ⟨"withdraw_reserve", a.withdrawReserve, .writable⟩,
    ⟨"withdraw_reserve_liquidity_mint", a.withdrawReserveLiquidityMint, .readonly⟩,
    ⟨"withdraw_reserve_collateral_mint", a.withdrawReserveCollateralMint, .writable⟩,
    ⟨"withdraw_reserve_collateral_supply", a.withdrawReserveCollateralSupply, .writable⟩,
    ⟨"withdraw_reserve_liquidity_supply", a.withdrawReserveLiquiditySupply, .writable⟩,
    ⟨"withdraw_reserve_liquidity_fee_receiver", a.withdrawReserveLiquidityFeeReceiver,
      .writable⟩,
    ⟨"user_source_liquidity", a.userSourceLiquidity, .writable⟩,
    ⟨"user_destination_collateral", a.userDestinationCollateral, .writable⟩,
    ⟨"user_destination_liquidity", a.userDestinationLiquidity, .writable⟩,
    ⟨"collateral_token_program", a.collateralTokenProgram, .readonly⟩,
    ⟨"repay_liquidity_token_program", a.repayLiquidityTokenProgram, .readonly⟩,
    ⟨"withdraw_liquidity_token_program", a.withdrawLiquidityTokenProgram, .readonly⟩,
    ⟨"instruction_sysvar_account", a.instructionSysvarAccount, .readonly⟩,
    optFarm "collateral_obligation_farm_user_state" a.collateralObligationFarmUserState
      placeholder,
    optFarm "collateral_reserve_farm_state" a.collateralReserveFarmState placeholder,
    optFarm "debt_obligation_farm_user_state" a.debtObligationFarmUserState placeholder,
    optFarm "debt_reserve_farm_state" a.debtReserveFarmState placeholder,
    ⟨"farms_program", a.farmsProgram, .readonly⟩ ] ++
  a.depositReserves.map fun r => ⟨"deposit_reserve", r, .readonly⟩

/-! ## Flash loans -/

/-- Readonly klend program id in place of an absent optional referrer account. -/
def absentReferrerMeta : AccountMeta := .newReadonly Programs.klend false

def referrerMeta (key : Option Pubkey) : AccountMeta :=
  match key with
  | some k => .new k false
  | none => absentReferrerMeta

structure FlashBorrowAccounts where
  userTransferAuthority : Pubkey
  lendingMarketAuthority : Pubkey
  lendingMarket : Pubkey
  reserve : Pubkey
  reserveLiquidityMint : Pubkey
  reserveSourceLiquidity : Pubkey
  userDestinationLiquidity : Pubkey
  reserveLiquidityFeeReceiver : Pubkey
  referrerTokenState : Option Pubkey
  referrerAccount : Option Pubkey

def FlashBorrowAccounts.metas (a : FlashBorrowAccounts) : List AccountMeta :=
  [ .newReadonly a.userTransferAuthority true,
    .newReadonly a.lendingMarketAuthority false,
    .newReadonly a.lendingMarket false,
    .new a.reserve false,
    .newReadonly a.reserveLiquidityMint false,
    .new a.reserveSourceLiquidity false,
    .new a.userDestinationLiquidity false,
    .new a.reserveLiquidityFeeReceiver false,
    referrerMeta a.referrerTokenState,
    referrerMeta a.referrerAccount,
    .newReadonly Programs.sysvarInstructions false,
    .newReadonly Programs.token false ]

def FlashBorrowAccounts.buildIx (a : FlashBorrowAccounts) (amount : UInt64) : Instruction :=
  ⟨Programs.klend, a.metas, encodeFlashBorrow amount⟩

structure FlashRepayAccounts where
  userTransferAuthority : Pubkey
  lendingMarketAuthority : Pubkey
  lendingMarket : Pubkey
  reserve : Pubkey
  reserveLiquidityMint : Pubkey
  reserveDestinationLiquidity : Pubkey
  userSourceLiquidity : Pubkey
  reserveLiquidityFeeReceiver : Pubkey
  referrerTokenState : Option Pubkey
  referrerAccount : Option Pubkey

def FlashRepayAccounts.metas (a : FlashRepayAccounts) : List AccountMeta :=
  [ .newReadonly a.userTransferAuthority true,
    .newReadonly a.lendingMarketAuthority false,
    .newReadonly a.lendingMarket false,
    .new a.reserve false,
    .newReadonly a.reserveLiquidityMint false,
    .new a.reserveDestinationLiquidity false,
    .new a.userSourceLiquidity false,
    .new a.reserveLiquidityFeeReceiver false,
    referrerMeta a.referrerTokenState,
    referrerMeta a.referrerAccount,
    .newReadonly Programs.sysvarInstructions false,
    .newReadonly Programs.token false ]

def FlashRepayAccounts.buildIx (a : FlashRepayAccounts) (amount : UInt64)
    (borrowIxIndex : UInt8) : Instruction :=
  ⟨Programs.klend, a.metas, encodeFlashRepay amount borrowIxIndex⟩

end Grokbotliq.Kamino
