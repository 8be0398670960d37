import Grokbotliq.Kamino.Idl
import Grokbotliq.Kamino.ReserveRisk

/-!
# The decoders read the IDL's layout

The decoders slice accounts at offsets written down as numbers.  Here they meet the layout the
IDL prescribes: on the bytes of any `Obligation` or `Reserve` they return the fields of that
value (`positionsOf`, `vaultsOf`, `riskOf`).  Each offset is compared with the one `Layout.At`
adds up along the path to the field of that name.

The reads are lemmas about `Layout.At`, one for each width, and the decoders are gone through read
by read.  The slot loops need one step more: what is empty is decided by the slot's own fields, so
that the occupied slots of an array are collected in order whatever the others hold
(`collectSlots_eq`).
-/

namespace Grokbotliq.Kamino

open Wire Layout Idl

/-! ## What the decoders should return -/

def headerOf (address : Pubkey) (o : Obligation) : LiveObligationHeader where
  address := address
  lendingMarket := o.lendingMarket
  owner := o.owner
  depositedValueSf := o.depositedValueSf.toNat
  borrowFactorAdjustedDebtValueSf := o.borrowFactorAdjustedDebtValueSf.toNat
  borrowedAssetsMarketValueSf := o.borrowedAssetsMarketValueSf.toNat
  allowedBorrowValueSf := o.allowedBorrowValueSf.toNat
  unhealthyBorrowValueSf := o.unhealthyBorrowValueSf.toNat
  hasDebt := o.hasDebt != 0
  elevationGroup := o.elevationGroup
  referrer := o.referrer

/-- A deposit slot in use: it has an amount, or a value and a reserve. -/
def depositOf (d : ObligationCollateral) : Option LiveDepositPosition :=
  if d.depositedAmount ≠ 0 ∨ (d.marketValueSf ≠ 0 ∧ d.depositReserve ≠ Pubkey.default) then
    some ⟨d.depositReserve, d.depositedAmount.toNat, d.marketValueSf.toNat⟩
  else none

/-- A borrow slot in use: it has an amount, or a value and a reserve. -/
def borrowOf (b : ObligationLiquidity) : Option LiveBorrowPosition :=
  if b.borrowedAmountSf ≠ 0 ∨ (b.marketValueSf ≠ 0 ∧ b.borrowReserve ≠ Pubkey.default) then
    some ⟨b.borrowReserve, b.borrowedAmountSf.toNat, b.marketValueSf.toNat⟩
  else none

def positionsOf (address : Pubkey) (o : Obligation) : LiveObligationPositions where
  header := headerOf address o
  deposits := o.deposits.toList.filterMap depositOf
  borrows := o.borrows.toList.filterMap borrowOf

def vaultsOf (address : Pubkey) (r : Reserve) : LiveReserveVaults where
  address := address
  lendingMarket := r.lendingMarket
  farmCollateral := r.farmCollateral
  farmDebt := r.farmDebt
  liquidityMint := r.liquidity.mintPubkey
  liquiditySupply := r.liquidity.supplyVault
  feeVault := r.liquidity.feeVault
  mintDecimals := r.liquidity.mintDecimals.toUInt8
  tokenProgram := r.liquidity.tokenProgram
  collateralMint := r.collateral.mintPubkey
  collateralSupply := r.collateral.supplyVault
  pythOracle := r.config.tokenInfo.pythConfiguration.price
  switchboardPrice := r.config.tokenInfo.switchboardConfiguration.priceAggregator
  switchboardTwap := r.config.tokenInfo.switchboardConfiguration.twapAggregator
  scopePrices := r.config.tokenInfo.scopeConfiguration.priceFeed

def riskOf (address : Pubkey) (r : Reserve) : LiveReserveRisk where
  address := address
  lendingMarket := r.lendingMarket
  liquidityMint := r.liquidity.mintPubkey
  mintDecimals := r.liquidity.mintDecimals.toUInt8
  loanToValuePct := r.config.loanToValuePct
  liquidationThresholdPct := r.config.liquidationThresholdPct
  borrowFactorPct := if r.config.borrowFactorPct = 0 then 100 else r.config.borrowFactorPct.toNat
  marketPriceSf := r.liquidity.marketPriceSf.toNat
  totalAvailableAmount := r.liquidity.totalAvailableAmount.toNat
  borrowedAmountSf := r.liquidity.borrowedAmountSf.toNat
  accumulatedProtocolFeesSf := r.liquidity.accumulatedProtocolFeesSf.toNat
  accumulatedReferrerFeesSf := r.liquidity.accumulatedReferrerFeesSf.toNat
  pendingReferrerFeesSf := r.liquidity.pendingReferrerFeesSf.toNat
  collateralMintTotalSupply := r.collateral.mintTotalSupply.toNat
  pythOracle := r.config.tokenInfo.pythConfiguration.price
  switchboardPrice := r.config.tokenInfo.switchboardConfiguration.priceAggregator
  scopePrices := r.config.tokenInfo.scopeConfiguration.priceFeed

/-! ## Reading what stands at an offset -/

variable {α : Type} {data : List UInt8} {off : ℕ} {a : α}

lemma slice_of_at {L : Layout α} (h : At data off L a) :
    slice data off (off + L.size) = .ok (L.encode a) := by
  have hle : off ≤ off + L.size ∧ off + L.size ≤ data.length :=
    ⟨Nat.le_add_right _ _, h.le_length⟩
  rw [slice, if_pos hle, Nat.add_sub_cancel_left, h.take_drop]

lemma readPubkey_of_at {f : α → Pubkey} (h : At data off (publicKey.of f) a) :
    readPubkey data off = .ok (f a) := by
  have hslice : slice data off (off + 32) = .ok (f a).bytes := slice_of_at h
  rw [readPubkey, hslice, Outcome.ok_bind, Pubkey.fromBytes_bytes]
  rfl

lemma readLe_of_at (w : ℕ) (toNat : α → ℕ) (h : At data off (.uint w toNat) a)
    (hlt : toNat a < 256 ^ w) : readLe data off w = .ok (toNat a) := by
  have hslice : slice data off (off + w) = .ok (leBytes w (toNat a)) := slice_of_at h
  rw [readLe, hslice, Outcome.ok_bind, ofLeBytes_leBytes_of_lt hlt]
  rfl

lemma readU64_of_at {f : α → UInt64} (h : At data off (u64.of f) a) :
    readLe data off 8 = .ok (f a).toNat :=
  readLe_of_at 8 (fun a => (f a).toNat) h (f a).toNat_lt

lemma readU128_of_at {f : α → BitVec 128} (h : At data off (u128.of f) a) :
    readLe data off 16 = .ok (f a).toNat :=
  readLe_of_at 16 (fun a => (f a).toNat) h (f a).isLt

/-- The byte at the offset of an integer is its low byte. -/
lemma readByte_of_at (w : ℕ) (toNat : α → ℕ) (h : At data off (.uint (w + 1) toNat) a) :
    readByte data off = .ok (UInt8.ofNat (toNat a % 256)) := by
  have hbytes : (data.drop off).take (w + 1) = leBytes (w + 1) (toNat a) := h.take_drop
  have hhead : data[off]? = some (UInt8.ofNat (toNat a % 256)) := by
    have htake : ((data.drop off).take (w + 1)).head? = (data.drop off).head? := by
      rw [List.head?_take, if_neg w.succ_ne_zero]
    rw [← List.head?_drop, ← htake, hbytes]
    rfl
  rw [readByte, hhead]

lemma readU8_of_at {f : α → UInt8} (h : At data off (u8.of f) a) :
    readByte data off = .ok (f a) := by
  have hbyte := readByte_of_at 0 (fun a => (f a).toNat) h
  have hlow : UInt8.ofNat ((f a).toNat % 256) = f a := by
    rw [Nat.mod_eq_of_lt (f a).toNat_lt, UInt8.ofNat_toNat]
  rwa [hlow] at hbyte

/-- The low byte of a 64-bit integer. -/
lemma readLow_of_at {f : α → UInt64} (h : At data off (u64.of f) a) :
    readByte data off = .ok (f a).toUInt8 := by
  have hbyte := readByte_of_at 7 (fun a => (f a).toNat) h
  have hlow : UInt8.ofNat ((f a).toNat % 256) = (f a).toUInt8 := by
    rw [← UInt8.toNat_inj]
    simp
  rwa [hlow] at hbyte

/-! ## Obligations

An empty slot is told by two tests in turn, and together they ask for what `depositOf` and
`borrowOf` do (`occupied_eq`). -/

variable (discriminator : Vector UInt8 8)

lemma decodeObligationLiveHeader_account (address : Pubkey) (o : Obligation) :
    decodeObligationLiveHeader address (account discriminator Obligation.layout o) =
      .ok (headerOf address o) := by
  set data := account discriminator Obligation.layout o with hdata
  have h : At data 8 Obligation.layout o := at_account discriminator Obligation.layout o
  have hlen : data.length = 3344 := length_account discriminator Obligation.layout o
  -- One read for each field of the header, at the offset the layout gives it.
  have hlendingMarket : readPubkey data 32 = .ok o.lendingMarket :=
    readPubkey_of_at (h.field "lendingMarket" rfl)
  have howner : readPubkey data 64 = .ok o.owner := readPubkey_of_at (h.field "owner" rfl)
  have hdeposited : readLe data 1192 16 = .ok o.depositedValueSf.toNat :=
    readU128_of_at (h.field "depositedValueSf" rfl)
  have hadjusted : readLe data 2208 16 = .ok o.borrowFactorAdjustedDebtValueSf.toNat :=
    readU128_of_at (h.field "borrowFactorAdjustedDebtValueSf" rfl)
  have hborrowed : readLe data 2224 16 = .ok o.borrowedAssetsMarketValueSf.toNat :=
    readU128_of_at (h.field "borrowedAssetsMarketValueSf" rfl)
  have hallowed : readLe data 2240 16 = .ok o.allowedBorrowValueSf.toNat :=
    readU128_of_at (h.field "allowedBorrowValueSf" rfl)
  have hunhealthy : readLe data 2256 16 = .ok o.unhealthyBorrowValueSf.toNat :=
    readU128_of_at (h.field "unhealthyBorrowValueSf" rfl)
  have helevation : readByte data 2285 = .ok o.elevationGroup :=
    readU8_of_at (h.field "elevationGroup" rfl)
  have hhasDebt : readByte data 2287 = .ok o.hasDebt := readU8_of_at (h.field "hasDebt" rfl)
  have hreferrer : readPubkey data 2288 = .ok o.referrer :=
    readPubkey_of_at (h.field "referrer" rfl)
  simp [decodeObligationLiveHeader, liveReferrerOffset, hlen, hlendingMarket, howner, hdeposited,
    hadjusted, hborrowed, hallowed, hunhealthy, helevation, hhasDebt, hreferrer, headerOf]

/-- The slots of an array are those the decoder collects, in order. -/
lemma collectSlots_eq {β γ : Type} {slot : ℕ → Outcome DecodeError (Option γ)}
    (keep : β → Option γ) (xs : List β) (i : ℕ)
    (h : ∀ j (hj : j < xs.length), slot (i + j) = .ok (keep xs[j])) :
    collectSlots slot i xs.length = .ok (xs.filterMap keep) := by
  induction xs generalizing i with
  | nil => rfl
  | cons x xs ih =>
      have hhere : slot i = .ok (keep x) := h 0 (Nat.zero_lt_succ _)
      have hrest : collectSlots slot (i + 1) xs.length = .ok (xs.filterMap keep) := by
        refine ih (i + 1) fun j hj => ?_
        have hnext := h (j + 1) (Nat.succ_lt_succ hj)
        rwa [← Nat.add_assoc, Nat.add_right_comm] at hnext
      rw [List.length_cons, collectSlots, hhere, Outcome.ok_bind, hrest, Outcome.ok_bind,
        List.filterMap_cons]
      cases keep x <;> rfl

/-- A slot passed over when its amount and reserve are zero, and otherwise kept when its amount or
its value is not, is kept in the cases that `depositOf` and `borrowOf` name. -/
lemma occupied_eq {γ : Type} (noAmount noValue noReserve : Prop) [Decidable noAmount]
    [Decidable noValue] [Decidable noReserve] (x : γ) :
    (if noAmount ∧ noReserve then pure none
      else if ¬noAmount ∨ ¬noValue then pure (some x)
      else pure none : Outcome DecodeError (Option γ)) =
      .ok (if ¬noAmount ∨ (¬noValue ∧ ¬noReserve) then some x else none) := by
  by_cases hamount : noAmount
  · by_cases hvalue : noValue <;> by_cases hreserve : noReserve <;>
      simp [hamount, hvalue, hreserve]
  · simp [hamount]

lemma depositSlot_account (o : Obligation) (i : ℕ) (hi : i < 8) :
    depositSlot (account discriminator Obligation.layout o) i = .ok (depositOf o.deposits[i]) := by
  set data := account discriminator Obligation.layout o with hdata
  have h : At data 8 Obligation.layout o := at_account discriminator Obligation.layout o
  have hslot := (h.field "deposits" rfl).inside.elem i hi
  have hreserve : readPubkey data (96 + i * 136) = .ok o.deposits[i].depositReserve :=
    readPubkey_of_at (hslot.field "depositReserve" rfl)
  have hamount : readLe data (96 + i * 136 + 32) 8 = .ok o.deposits[i].depositedAmount.toNat :=
    readU64_of_at (hslot.field "depositedAmount" rfl)
  have hvalue : readLe data (96 + i * 136 + 40) 16 = .ok o.deposits[i].marketValueSf.toNat :=
    readU128_of_at (hslot.field "marketValueSf" rfl)
  have hpos : ∀ n : ℕ, 0 < n ↔ ¬n = 0 := fun n => Nat.pos_iff_ne_zero
  have hzero : ∀ n : UInt64, n.toNat = 0 ↔ n = 0 := fun n => UInt64.toNat_inj (b := 0)
  have hzero' : ∀ n : BitVec 128, n.toNat = 0 ↔ n = 0 := fun n => BitVec.toNat_inj (y := 0)
  simp only [depositSlot, liveDepositsOffset, obligationCollateralSize, hreserve, hamount, hvalue,
    Outcome.ok_bind, Pubkey.bytes_eq_zero_iff, hpos, hzero, hzero']
  exact occupied_eq ..

lemma borrowSlot_account (o : Obligation) (i : ℕ) (hi : i < 5) :
    borrowSlot (account discriminator Obligation.layout o) i = .ok (borrowOf o.borrows[i]) := by
  set data := account discriminator Obligation.layout o with hdata
  have h : At data 8 Obligation.layout o := at_account discriminator Obligation.layout o
  have hslot := (h.field "borrows" rfl).inside.elem i hi
  have hreserve : readPubkey data (1208 + i * 200) = .ok o.borrows[i].borrowReserve :=
    readPubkey_of_at (hslot.field "borrowReserve" rfl)
  have hamount : readLe data (1208 + i * 200 + 88) 16 = .ok o.borrows[i].borrowedAmountSf.toNat :=
    readU128_of_at (hslot.field "borrowedAmountSf" rfl)
  have hvalue : readLe data (1208 + i * 200 + 104) 16 = .ok o.borrows[i].marketValueSf.toNat :=
    readU128_of_at (hslot.field "marketValueSf" rfl)
  have hpos : ∀ n : ℕ, 0 < n ↔ ¬n = 0 := fun n => Nat.pos_iff_ne_zero
  have hzero : ∀ n : BitVec 128, n.toNat = 0 ↔ n = 0 := fun n => BitVec.toNat_inj (y := 0)
  simp only [borrowSlot, liveBorrowsOffset, obligationLiquiditySize, hreserve, hamount, hvalue,
    Outcome.ok_bind, Pubkey.bytes_eq_zero_iff, hpos, hzero]
  exact occupied_eq ..

/-- Every slot in use is returned, in slot order, and no other. -/
lemma decodeObligationLivePositions_account (address : Pubkey) (o : Obligation) :
    decodeObligationLivePositions address (account discriminator Obligation.layout o) =
      .ok (positionsOf address o) := by
  have hlen : (account discriminator Obligation.layout o).length = 3344 :=
    length_account discriminator Obligation.layout o
  have hheader := decodeObligationLiveHeader_account discriminator address o
  set data := account discriminator Obligation.layout o with hdata
  -- Slot by slot, what the decoder keeps of the two arrays.
  have hdeposits : collectSlots (depositSlot data) 0 o.deposits.toList.length =
      .ok (o.deposits.toList.filterMap depositOf) := by
    refine collectSlots_eq depositOf o.deposits.toList 0 fun j hj => ?_
    rw [Nat.zero_add, depositSlot_account discriminator o j (by simpa using hj),
      Vector.getElem_toList]
  have hborrows : collectSlots (borrowSlot data) 0 o.borrows.toList.length =
      .ok (o.borrows.toList.filterMap borrowOf) := by
    refine collectSlots_eq borrowOf o.borrows.toList 0 fun j hj => ?_
    rw [Nat.zero_add, borrowSlot_account discriminator o j (by simpa using hj),
      Vector.getElem_toList]
  rw [Vector.length_toList] at hdeposits hborrows
  simp [decodeObligationLivePositions, hheader, hlen, liveBorrowsOffset, liveMaxBorrows,
    obligationLiquiditySize, liveMaxDeposits, hdeposits, hborrows, positionsOf]

/-! ## Reserves -/

lemma decodeReserveLiveVaults_account (address : Pubkey) (r : Reserve) :
    decodeReserveLiveVaults address (account discriminator Reserve.layout r) =
      .ok (vaultsOf address r) := by
  set data := account discriminator Reserve.layout r with hdata
  have h : At data 8 Reserve.layout r := at_account discriminator Reserve.layout r
  have hlen : data.length = 8624 := length_account discriminator Reserve.layout r
  have hlendingMarket : readPubkey data 32 = .ok r.lendingMarket :=
    readPubkey_of_at (h.field "lendingMarket" rfl)
  have hfarmCollateral : readPubkey data 64 = .ok r.farmCollateral :=
    readPubkey_of_at (h.field "farmCollateral" rfl)
  have hfarmDebt : readPubkey data 96 = .ok r.farmDebt :=
    readPubkey_of_at (h.field "farmDebt" rfl)
  -- The liquidity and the collateral are nested structures, read at the sum of the offsets.
  have hliq := (h.field "liquidity" rfl).inside
  have hmint : readPubkey data 128 = .ok r.liquidity.mintPubkey :=
    readPubkey_of_at (hliq.field "mintPubkey" rfl)
  have hsupply : readPubkey data 160 = .ok r.liquidity.supplyVault :=
    readPubkey_of_at (hliq.field "supplyVault" rfl)
  have hfeeVault : readPubkey data 192 = .ok r.liquidity.feeVault :=
    readPubkey_of_at (hliq.field "feeVault" rfl)
  have hdecimals : readByte data 272 = .ok r.liquidity.mintDecimals.toUInt8 :=
    readLow_of_at (hliq.field "mintDecimals" rfl)
  have htokenProgram : readPubkey data 408 = .ok r.liquidity.tokenProgram :=
    readPubkey_of_at (hliq.field "tokenProgram" rfl)
  have hcol := (h.field "collateral" rfl).inside
  have hcolMint : readPubkey data 2560 = .ok r.collateral.mintPubkey :=
    readPubkey_of_at (hcol.field "mintPubkey" rfl)
  have hcolSupply : readPubkey data 2600 = .ok r.collateral.supplyVault :=
    readPubkey_of_at (hcol.field "supplyVault" rfl)
  -- The oracles are three structures deep in the configuration.
  have htoken := ((h.field "config" rfl).inside.field "tokenInfo" rfl).inside
  have hscope : readPubkey data 5112 = .ok r.config.tokenInfo.scopeConfiguration.priceFeed :=
    readPubkey_of_at ((htoken.field "scopeConfiguration" rfl).inside.field "priceFeed" rfl)
  have hswitchboard := (htoken.field "switchboardConfiguration" rfl).inside
  have hprice : readPubkey data 5160 =
      .ok r.config.tokenInfo.switchboardConfiguration.priceAggregator :=
    readPubkey_of_at (hswitchboard.field "priceAggregator" rfl)
  have htwap : readPubkey data 5192 =
      .ok r.config.tokenInfo.switchboardConfiguration.twapAggregator :=
    readPubkey_of_at (hswitchboard.field "twapAggregator" rfl)
  have hpyth : readPubkey data 5224 = .ok r.config.tokenInfo.pythConfiguration.price :=
    readPubkey_of_at ((htoken.field "pythConfiguration" rfl).inside.field "price" rfl)
  simp [decodeReserveLiveVaults, liveReserveCollateralOffset, liveReserveLiquidityOffset, hlen,
    hlendingMarket, hfarmCollateral, hfarmDebt, hmint, hsupply, hfeeVault, hdecimals,
    htokenProgram, hcolMint, hcolSupply, hscope, hprice, htwap, hpyth, vaultsOf]

lemma decodeReserveLiveRisk_account (address : Pubkey) (r : Reserve) :
    decodeReserveLiveRisk address (account discriminator Reserve.layout r) =
      .ok (riskOf address r) := by
  have hvaults := decodeReserveLiveVaults_account discriminator address r
  set data := account discriminator Reserve.layout r with hdata
  have h : At data 8 Reserve.layout r := at_account discriminator Reserve.layout r
  have hlen : data.length = 8624 := length_account discriminator Reserve.layout r
  have hliq := (h.field "liquidity" rfl).inside
  have hprice : readLe data reserveMarketPriceSfOffset 16 = .ok r.liquidity.marketPriceSf.toNat :=
    readU128_of_at (hliq.field "marketPriceSf" rfl)
  have havailable : readLe data reserveAvailableOffset 8 =
      .ok r.liquidity.totalAvailableAmount.toNat :=
    readU64_of_at (hliq.field "totalAvailableAmount" rfl)
  have hborrowed : readLe data reserveBorrowedSfOffset 16 =
      .ok r.liquidity.borrowedAmountSf.toNat :=
    readU128_of_at (hliq.field "borrowedAmountSf" rfl)
  have hprotocol : readLe data reserveProtocolFeesSfOffset 16 =
      .ok r.liquidity.accumulatedProtocolFeesSf.toNat :=
    readU128_of_at (hliq.field "accumulatedProtocolFeesSf" rfl)
  have hreferrer : readLe data reserveReferrerFeesSfOffset 16 =
      .ok r.liquidity.accumulatedReferrerFeesSf.toNat :=
    readU128_of_at (hliq.field "accumulatedReferrerFeesSf" rfl)
  have hpending : readLe data reservePendingReferrerFeesSfOffset 16 =
      .ok r.liquidity.pendingReferrerFeesSf.toNat :=
    readU128_of_at (hliq.field "pendingReferrerFeesSf" rfl)
  have hsupply : readLe data reserveCollateralMintSupplyOffset 8 =
      .ok r.collateral.mintTotalSupply.toNat :=
    readU64_of_at ((h.field "collateral" rfl).inside.field "mintTotalSupply" rfl)
  have hconfig := (h.field "config" rfl).inside
  have hltv : readByte data reserveLtvPctOffset = .ok r.config.loanToValuePct :=
    readU8_of_at (hconfig.field "loanToValuePct" rfl)
  have hthreshold : readByte data reserveLiqThresholdPctOffset =
      .ok r.config.liquidationThresholdPct :=
    readU8_of_at (hconfig.field "liquidationThresholdPct" rfl)
  have hfactor : readLe data reserveBorrowFactorPctOffset 8 = .ok r.config.borrowFactorPct.toNat :=
    readU64_of_at (hconfig.field "borrowFactorPct" rfl)
  have hlong : ¬(data.length < min liveReserveDatasize 5256 ∨
      data.length < reserveBorrowFactorPctOffset + 8) := by
    rw [hlen]
    decide
  -- The one field the decoder changes: a borrow factor of zero is read as a hundred per cent.
  have hzero : r.config.borrowFactorPct.toNat = 0 ↔ r.config.borrowFactorPct = 0 :=
    UInt64.toNat_inj (b := 0)
  rw [decodeReserveLiveRisk, if_neg hlong]
  simp only [hvaults, hprice, havailable, hborrowed, hprotocol, hreferrer, hpending, hsupply, hltv,
    hthreshold, hfactor, Outcome.ok_bind, hzero]
  rfl

/-! ## The two accounts -/

/-- **The decoders return the IDL's fields.** -/
theorem decoders_return_idl_fields (discriminator : Vector UInt8 8) (address : Pubkey) :
    (∀ o : Obligation,
      decodeObligationLivePositions address (account discriminator Obligation.layout o) =
        .ok (positionsOf address o)) ∧
    (∀ r : Reserve, r.liquidity.mintDecimals < 256 →
      decodeReserveLiveVaults address (account discriminator Reserve.layout r) =
        .ok (vaultsOf address r) ∧
      decodeReserveLiveRisk address (account discriminator Reserve.layout r) =
        .ok (riskOf address r) ∧
      (vaultsOf address r).mintDecimals.toNat = r.liquidity.mintDecimals.toNat ∧
      (riskOf address r).mintDecimals.toNat = r.liquidity.mintDecimals.toNat) := by
  refine ⟨decodeObligationLivePositions_account discriminator address, fun r hdecimals => ?_⟩
  have hlow : r.liquidity.mintDecimals.toUInt8.toNat = r.liquidity.mintDecimals.toNat := by
    rw [UInt64.toNat_toUInt8]
    exact Nat.mod_eq_of_lt (UInt64.lt_iff_toNat_lt.1 hdecimals)
  exact ⟨decodeReserveLiveVaults_account discriminator address r,
    decodeReserveLiveRisk_account discriminator address r, hlow, hlow⟩

/-- A reserve whose fields all differ. -/
def sampleReserve : Reserve :=
  { (default : Reserve) with
    version := 1
    lastUpdate := ⟨300000000, 1, 63, .replicate 2 0, 1700000000⟩
    lendingMarket := .test 20 1
    farmCollateral := .test 20 2
    farmDebt := .test 20 3
    liquidity := { (default : ReserveLiquidity) with
      mintPubkey := .test 20 4
      supplyVault := .test 20 5
      feeVault := .test 20 6
      totalAvailableAmount := 1000001
      borrowedAmountSf := 1000002
      marketPriceSf := 1000003
      marketPriceLastUpdatedTs := 1000004
      mintDecimals := 6
      accumulatedProtocolFeesSf := 1000005
      accumulatedReferrerFeesSf := 1000006
      pendingReferrerFeesSf := 1000007
      absoluteReferralRateSf := 1000008
      tokenProgram := .test 20 7
      rewardsAmountAvailable := 1000009 }
    collateral := { (default : ReserveCollateral) with
      mintPubkey := .test 20 8
      mintTotalSupply := 1000010
      supplyVault := .test 20 9 }
    config := { (default : ReserveConfig) with
      loanToValuePct := 74
      liquidationThresholdPct := 79
      borrowFactorPct := 125
      tokenInfo := { (default : TokenInfo) with
        scopeConfiguration := { (default : ScopeConfiguration) with priceFeed := .test 20 10 }
        switchboardConfiguration := ⟨.test 20 11, .test 20 12⟩
        pythConfiguration := ⟨.test 20 13⟩ } } }

/-- What the decoders return for it, field by field. -/
theorem decoders_return_idl_fields_sampleReserve :
    decodeReserveLiveVaults (.test 1 1)
        (account (Vector.replicate 8 1) Reserve.layout sampleReserve) =
      .ok {
        address := .test 1 1
        lendingMarket := .test 20 1
        farmCollateral := .test 20 2
        farmDebt := .test 20 3
        liquidityMint := .test 20 4
        liquiditySupply := .test 20 5
        feeVault := .test 20 6
        mintDecimals := 6
        tokenProgram := .test 20 7
        collateralMint := .test 20 8
        collateralSupply := .test 20 9
        pythOracle := .test 20 13
        switchboardPrice := .test 20 11
        switchboardTwap := .test 20 12
        scopePrices := .test 20 10 } ∧
    decodeReserveLiveRisk (.test 1 1)
        (account (Vector.replicate 8 1) Reserve.layout sampleReserve) =
      .ok {
        address := .test 1 1
        lendingMarket := .test 20 1
        liquidityMint := .test 20 4
        mintDecimals := 6
        loanToValuePct := 74
        liquidationThresholdPct := 79
        borrowFactorPct := 125
        marketPriceSf := 1000003
        totalAvailableAmount := 1000001
        borrowedAmountSf := 1000002
        accumulatedProtocolFeesSf := 1000005
        accumulatedReferrerFeesSf := 1000006
        pendingReferrerFeesSf := 1000007
        collateralMintTotalSupply := 1000010
        pythOracle := .test 20 13
        switchboardPrice := .test 20 11
        scopePrices := .test 20 10 } := by
  obtain ⟨hvaults, hrisk, -, -⟩ :=
    (decoders_return_idl_fields (Vector.replicate 8 1) (Pubkey.test 1 1)).2 sampleReserve
      (by decide)
  exact ⟨hvaults, hrisk⟩

end Grokbotliq.Kamino
