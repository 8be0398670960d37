import Grokbotliq.Core.Types
import Grokbotliq.Framework.MaxByKey
import Grokbotliq.Framework.Outcome

/-!
# Live klend obligations

The decoder of an on-chain obligation account: its header fields at fixed offsets and the two
slot arrays, eight deposits and five borrows, of which the empty slots are skipped.  Slicing
past the end of the account panics, so a decoder that checks the length first is one whose
outcome is never `panic`.

The offsets are those of the source, written as it writes them.  That they are the offsets of the
fields they are named after is shown in `Kamino/DecodeIdl.lean`, and that nothing is read past the
end in `Kamino/DecodeSafety.lean`; here stand the decoders and the one bound that the plans need,
thirteen positions at most.
-/

namespace Grokbotliq.Kamino

open Wire

inductive DecodeError
  | tooShort
  | badMagic
  | badVersion
  deriving DecidableEq, Repr

/-- The text of the error. -/
def DecodeError.display : DecodeError → String
  | tooShort => "account too short"
  | badMagic => "bad magic"
  | badVersion => "unsupported version"

/-- `&data[from..to]`. -/
def slice (data : List UInt8) (start stop : ℕ) : Outcome DecodeError (List UInt8) :=
  if start ≤ stop ∧ stop ≤ data.length then .ok ((data.drop start).take (stop - start))
  else .panic

/-- A little-endian integer of `width` bytes. -/
def readLe (data : List UInt8) (start width : ℕ) : Outcome DecodeError ℕ := do
  let bytes ← slice data start (start + width)
  return ofLeBytes bytes

def readPubkey (data : List UInt8) (start : ℕ) : Outcome DecodeError Pubkey := do
  let bytes ← slice data start (start + 32)
  match Pubkey.fromBytes bytes with
  | some k => return k
  | none => .err .tooShort

def readByte (data : List UInt8) (i : ℕ) : Outcome DecodeError UInt8 :=
  match data[i]? with
  | some b => .ok b
  | none => .panic

/-! ## The header -/

structure LiveObligationHeader where
  address : Pubkey
  lendingMarket : Pubkey
  owner : Pubkey
  depositedValueSf : ℕ
  borrowFactorAdjustedDebtValueSf : ℕ
  borrowedAssetsMarketValueSf : ℕ
  allowedBorrowValueSf : ℕ
  unhealthyBorrowValueSf : ℕ
  hasDebt : Bool
  elevationGroup : UInt8
  referrer : Pubkey
  deriving DecidableEq

def liveReferrerOffset : ℕ := 2288

def decodeObligationLiveHeader (address : Pubkey) (data : List UInt8) :
    Outcome DecodeError LiveObligationHeader := do
  if data.length < 2288 then .err .tooShort
  else
    let lendingMarket ← readPubkey data 32
    let owner ← readPubkey data 64
    let depositedValueSf ← readLe data 1192 16
    let borrowFactorAdjustedDebtValueSf ← readLe data 2208 16
    let borrowedAssetsMarketValueSf ← readLe data 2224 16
    let allowedBorrowValueSf ← readLe data 2240 16
    let unhealthyBorrowValueSf ← readLe data 2256 16
    let elevationGroup ← readByte data 2285
    let hasDebt ← readByte data 2287
    let referrer ←
      if liveReferrerOffset + 32 ≤ data.length then readPubkey data liveReferrerOffset
      else pure Pubkey.default
    return {
      address := address
      lendingMarket := lendingMarket
      owner := owner
      depositedValueSf := depositedValueSf
      borrowFactorAdjustedDebtValueSf := borrowFactorAdjustedDebtValueSf
      borrowedAssetsMarketValueSf := borrowedAssetsMarketValueSf
      allowedBorrowValueSf := allowedBorrowValueSf
      unhealthyBorrowValueSf := unhealthyBorrowValueSf
      hasDebt := hasDebt != 0
      elevationGroup := elevationGroup
      referrer := referrer }

/-! ## The positions -/

def obligationCollateralSize : ℕ := 136

def obligationLiquiditySize : ℕ := 200

def liveDepositsOffset : ℕ := 96

def liveBorrowsOffset : ℕ := 1208

def liveMaxDeposits : ℕ := 8

def liveMaxBorrows : ℕ := 5

structure LiveDepositPosition where
  reserve : Pubkey
  depositedAmount : ℕ
  marketValueSf : ℕ
  deriving DecidableEq

structure LiveBorrowPosition where
  reserve : Pubkey
  borrowedAmountSf : ℕ
  marketValueSf : ℕ
  deriving DecidableEq

structure LiveObligationPositions where
  header : LiveObligationHeader
  deposits : List LiveDepositPosition
  borrows : List LiveBorrowPosition
  deriving DecidableEq

/-- Slot `i` of the deposits; an empty slot gives nothing. -/
def depositSlot (data : List UInt8) (i : ℕ) :
    Outcome DecodeError (Option LiveDepositPosition) := do
  let off := liveDepositsOffset + i * obligationCollateralSize
  let reserve ← readPubkey data off
  let depositedAmount ← readLe data (off + 32) 8
  let marketValueSf ← readLe data (off + 40) 16
  if depositedAmount = 0 ∧ reserve.bytes = List.replicate 32 0 then return none
  else if 0 < depositedAmount ∨ 0 < marketValueSf then
    return some ⟨reserve, depositedAmount, marketValueSf⟩
  else return none

/-- Slot `i` of the borrows; an empty slot gives nothing. -/
def borrowSlot (data : List UInt8) (i : ℕ) : Outcome DecodeError (Option LiveBorrowPosition) := do
  let off := liveBorrowsOffset + i * obligationLiquiditySize
  let reserve ← readPubkey data off
  let borrowedAmountSf ← readLe data (off + 88) 16
  let marketValueSf ← readLe data (off + 104) 16
  if borrowedAmountSf = 0 ∧ reserve.bytes = List.replicate 32 0 then return none
  else if 0 < borrowedAmountSf ∨ 0 < marketValueSf then
    return some ⟨reserve, borrowedAmountSf, marketValueSf⟩
  else return none

/-- The occupied ones of `count` slots from `i` on. -/
def collectSlots {α : Type} (slot : ℕ → Outcome DecodeError (Option α)) :
    ℕ → ℕ → Outcome DecodeError (List α)
  | _, 0 => .ok []
  | i, count + 1 => do
    let here ← slot i
    let rest ← collectSlots slot (i + 1) count
    return here.toList ++ rest

def decodeObligationLivePositions (address : Pubkey) (data : List UInt8) :
    Outcome DecodeError LiveObligationPositions := do
  let header ← decodeObligationLiveHeader address data
  if data.length < liveBorrowsOffset + liveMaxBorrows * obligationLiquiditySize then
    .err .tooShort
  else
    let deposits ← collectSlots (depositSlot data) 0 liveMaxDeposits
    let borrows ← collectSlots (borrowSlot data) 0 liveMaxBorrows
    return ⟨header, deposits, borrows⟩

/-- The reserves of the most valuable borrow and of the most valuable deposit. -/
def pickLiquidateReserves (pos : LiveObligationPositions) : Option (Pubkey × Pubkey) := do
  let repay ← maxByKey LiveBorrowPosition.marketValueSf pos.borrows
  let withdraw ← maxByKey LiveDepositPosition.marketValueSf pos.deposits
  return (repay.reserve, withdraw.reserve)

/-- Reserve vault metas. -/
structure LiveReserveVaults where
  address : Pubkey
  lendingMarket : Pubkey
  farmCollateral : Pubkey
  farmDebt : Pubkey
  liquidityMint : Pubkey
  liquiditySupply : Pubkey
  feeVault : Pubkey
  mintDecimals : UInt8
  tokenProgram : Pubkey
  collateralMint : Pubkey
  collateralSupply : Pubkey
  pythOracle : Pubkey
  switchboardPrice : Pubkey
  switchboardTwap : Pubkey
  scopePrices : Pubkey
  deriving DecidableEq

def liveReserveLiquidityOffset : ℕ := 128

def liveReserveCollateralOffset : ℕ := 2560

def decodeReserveLiveVaults (address : Pubkey) (data : List UInt8) :
    Outcome DecodeError LiveReserveVaults := do
  if data.length < liveReserveCollateralOffset + 72 then .err .tooShort
  else
    let lendingMarket ← readPubkey data 32
    let farmCollateral ← readPubkey data 64
    let farmDebt ← readPubkey data 96
    let liq := liveReserveLiquidityOffset
    let liquidityMint ← readPubkey data liq
    let liquiditySupply ← readPubkey data (liq + 32)
    let feeVault ← readPubkey data (liq + 64)
    let mintDecimals ← readByte data (liq + 144)
    let tokenProgram ← readPubkey data (liq + 280)
    let col := liveReserveCollateralOffset
    let collateralMint ← readPubkey data col
    let collateralSupply ← readPubkey data (col + 40)
    if data.length < 5256 then .err .tooShort
    else
      let scopePrices ← readPubkey data 5112
      let switchboardPrice ← readPubkey data 5160
      let switchboardTwap ← readPubkey data 5192
      let pythOracle ← readPubkey data 5224
      return {
        address := address
        lendingMarket := lendingMarket
        farmCollateral := farmCollateral
        farmDebt := farmDebt
        liquidityMint := liquidityMint
        liquiditySupply := liquiditySupply
        feeVault := feeVault
        mintDecimals := mintDecimals
        tokenProgram := tokenProgram
        collateralMint := collateralMint
        collateralSupply := collateralSupply
        pythOracle := pythOracle
        switchboardPrice := switchboardPrice
        switchboardTwap := switchboardTwap
        scopePrices := scopePrices }

/-! ## How many positions there can be -/

lemma length_of_collectSlots {α : Type} {slot : ℕ → Outcome DecodeError (Option α)} :
    ∀ (count i : ℕ) {xs : List α}, collectSlots slot i count = .ok xs → xs.length ≤ count
  | 0, i, xs, h => by
      obtain rfl : [] = xs := by simpa [collectSlots] using h
      exact Nat.le_refl 0
  | count + 1, i, xs, h => by
      obtain ⟨here, -, hrest⟩ := Outcome.bind_eq_ok.1 h
      obtain ⟨rest, hcollect, hxs⟩ := Outcome.bind_eq_ok.1 hrest
      obtain rfl : here.toList ++ rest = xs := by simpa using hxs
      have hlen := length_of_collectSlots count (i + 1) hcollect
      have hhere : here.toList.length ≤ 1 := by cases here <;> simp
      rw [List.length_append]
      omega

/-- At most eight deposits and five borrows. -/
lemma length_of_decodePositions {address : Pubkey} {data : List UInt8}
    {pos : LiveObligationPositions} (h : decodeObligationLivePositions address data = .ok pos) :
    pos.deposits.length ≤ liveMaxDeposits ∧ pos.borrows.length ≤ liveMaxBorrows := by
  obtain ⟨header, -, hbody⟩ := Outcome.bind_eq_ok.1 h
  by_cases hshort : data.length < liveBorrowsOffset + liveMaxBorrows * obligationLiquiditySize
  · rw [if_pos hshort] at hbody
    exact absurd hbody (by simp)
  · rw [if_neg hshort] at hbody
    obtain ⟨deposits, hdeposits, hbody⟩ := Outcome.bind_eq_ok.1 hbody
    obtain ⟨borrows, hborrows, hpos⟩ := Outcome.bind_eq_ok.1 hbody
    obtain rfl : LiveObligationPositions.mk header deposits borrows = pos := by simpa using hpos
    exact ⟨length_of_collectSlots _ _ hdeposits, length_of_collectSlots _ _ hborrows⟩

/-! ## An obligation with three reserves -/

/-- An account with deposits in two reserves and a borrow in a third; all else is zero. -/
def threeReserves : List UInt8 :=
  List.replicate 96 0 ++
  (Pubkey.test 3 1).bytes ++ leBytes 8 5 ++ List.replicate 96 0 ++
  (Pubkey.test 3 2).bytes ++ leBytes 8 6 ++ List.replicate 96 0 ++
  List.replicate 840 0 ++
  (Pubkey.test 3 3).bytes ++ List.replicate 56 0 ++ leBytes 16 7 ++ List.replicate 96 0 ++
  List.replicate 880 0

def threeReservesPositions : LiveObligationPositions where
  header :=
    { address := Pubkey.test 1 1
      lendingMarket := Pubkey.default
      owner := Pubkey.default
      depositedValueSf := 0
      borrowFactorAdjustedDebtValueSf := 0
      borrowedAssetsMarketValueSf := 0
      allowedBorrowValueSf := 0
      unhealthyBorrowValueSf := 0
      hasDebt := false
      elevationGroup := 0
      referrer := Pubkey.default }
  deposits := [⟨Pubkey.test 3 1, 5, 0⟩, ⟨Pubkey.test 3 2, 6, 0⟩]
  borrows := [⟨Pubkey.test 3 3, 7, 0⟩]

lemma decode_threeReserves :
    decodeObligationLivePositions (Pubkey.test 1 1) threeReserves =
      .ok threeReservesPositions := by
  decide +kernel

/-- The vaults of a reserve of that obligation. -/
def sampleVaults (reserve : UInt64) : LiveReserveVaults where
  address := Pubkey.test 3 reserve
  lendingMarket := Pubkey.default
  farmCollateral := Pubkey.default
  farmDebt := Pubkey.default
  liquidityMint := Pubkey.test 4 reserve
  liquiditySupply := Pubkey.test 5 reserve
  feeVault := Pubkey.test 6 reserve
  mintDecimals := 6
  tokenProgram := Pubkey.default
  collateralMint := Pubkey.test 7 reserve
  collateralSupply := Pubkey.test 8 reserve
  pythOracle := Pubkey.default
  switchboardPrice := Pubkey.default
  switchboardTwap := Pubkey.default
  scopePrices := Pubkey.test 9 reserve

end Grokbotliq.Kamino
