import Grokbotliq.Framework.Wire
import Grokbotliq.Save.SdkLayout

/-!
# The SDK's instruction data

`LendingInstruction` of the vendored `solend_sdk`: one byte of tag and the fields after it,
`pack` writing them and `unpack` reading them and ignoring what follows.  The two are exact
inverses up to that rest (`unpack_eq_some_iff`): a buffer unpacks to an instruction exactly if
it begins with what the instruction packs to.

Read so, the data of a Save flash plan are what the plan's labels say
(`unpack_flashPlan`); the three calls that move funds are the SDK's, accounts and all, where the
market's authority is the one the SDK derives (`calls_eq_sdk_iff`).

Every field reader is exact: it accepts the encodings of its values and nothing else.  Exactness
goes through `bind`, so a record is read back by composing its fields; `unpack_pack_append` and
`pack_of_unpackRest` are the two directions of `unpack_eq_some_iff`.
-/

namespace Grokbotliq.Save.Sdk

open Wire

/-! ## Instructions -/

structure ReserveFees where
  borrowFeeWad : UInt64
  flashLoanFeeWad : UInt64
  hostFeePercentage : UInt8
  deriving DecidableEq

structure ReserveConfig where
  optimalUtilizationRate : UInt8
  loanToValueRatio : UInt8
  liquidationBonus : UInt8
  liquidationThreshold : UInt8
  minBorrowRate : UInt8
  optimalBorrowRate : UInt8
  maxBorrowRate : UInt8
  fees : ReserveFees
  depositLimit : UInt64
  borrowLimit : UInt64
  feeReceiver : Pubkey
  protocolLiquidationFee : UInt8
  protocolTakeRate : UInt8
  deriving DecidableEq

/-- `[u8; 32]`. -/
abbrev Bytes32 := { bs : List UInt8 // bs.length = 32 }

inductive LendingInstruction
  | initLendingMarket (owner : Pubkey) (quoteCurrency : Bytes32)
  | setLendingMarketOwner (newOwner : Pubkey)
  | initReserve (liquidityAmount : UInt64) (config : ReserveConfig)
  | refreshReserve
  | depositReserveLiquidity (liquidityAmount : UInt64)
  | redeemReserveCollateral (collateralAmount : UInt64)
  | initObligation
  | refreshObligation
  | depositObligationCollateral (collateralAmount : UInt64)
  | withdrawObligationCollateral (collateralAmount : UInt64)
  | borrowObligationLiquidity (liquidityAmount : UInt64)
  | repayObligationLiquidity (liquidityAmount : UInt64)
  | liquidateObligation (liquidityAmount : UInt64)
  | flashLoan (amount : UInt64)
  | depositReserveLiquidityAndObligationCollateral (liquidityAmount : UInt64)
  | withdrawObligationCollateralAndRedeemReserveCollateral (collateralAmount : UInt64)
  | updateReserveConfig (config : ReserveConfig)
  | liquidateObligationAndRedeemReserveCollateral (liquidityAmount : UInt64)
  | redeemFees
  | flashBorrowReserveLiquidity (liquidityAmount : UInt64)
  | flashRepayReserveLiquidity (liquidityAmount : UInt64) (borrowInstructionIndex : UInt8)
  deriving DecidableEq

/-! ## Unpacking -/

def unpackU64 : Reader UInt64 := readFixed 8 fun bs => UInt64.ofNat (ofLeBytes bs.1)

def unpackU8 : Reader UInt8 := readByte

def unpackBytes32 : Reader Bytes32 := readFixed 32 id

def unpackPubkey : Reader Pubkey := readFixed 32 fun bs => ⟨bs.1, bs.2⟩

/-- The fields of a `ReserveConfig`, as two of the instructions have them. -/
def unpackReserveConfig : Reader ReserveConfig := do
  let optimalUtilizationRate ← unpackU8
  let loanToValueRatio ← unpackU8
  let liquidationBonus ← unpackU8
  let liquidationThreshold ← unpackU8
  let minBorrowRate ← unpackU8
  let optimalBorrowRate ← unpackU8
  let maxBorrowRate ← unpackU8
  let borrowFeeWad ← unpackU64
  let flashLoanFeeWad ← unpackU64
  let hostFeePercentage ← unpackU8
  let depositLimit ← unpackU64
  let borrowLimit ← unpackU64
  let feeReceiver ← unpackPubkey
  let protocolLiquidationFee ← unpackU8
  let protocolTakeRate ← unpackU8
  pure
    { optimalUtilizationRate, loanToValueRatio, liquidationBonus, liquidationThreshold
      minBorrowRate, optimalBorrowRate, maxBorrowRate
      fees := { borrowFeeWad, flashLoanFeeWad, hostFeePercentage }
      depositLimit, borrowLimit, feeReceiver, protocolLiquidationFee, protocolTakeRate }

/-- What follows a tag. -/
def unpackRest (tag : UInt8) : Reader LendingInstruction :=
  match tag.toNat with
  | 0 => do
    let owner ← unpackPubkey
    let quoteCurrency ← unpackBytes32
    pure (.initLendingMarket owner quoteCurrency)
  | 1 => do
    let newOwner ← unpackPubkey
    pure (.setLendingMarketOwner newOwner)
  | 2 => do
    let liquidityAmount ← unpackU64
    let config ← unpackReserveConfig
    pure (.initReserve liquidityAmount config)
  | 3 => pure .refreshReserve
  | 4 => do
    let liquidityAmount ← unpackU64
    pure (.depositReserveLiquidity liquidityAmount)
  | 5 => do
    let collateralAmount ← unpackU64
    pure (.redeemReserveCollateral collateralAmount)
  | 6 => pure .initObligation
  | 7 => pure .refreshObligation
  | 8 => do
    let collateralAmount ← unpackU64
    pure (.depositObligationCollateral collateralAmount)
  | 9 => do
    let collateralAmount ← unpackU64
    pure (.withdrawObligationCollateral collateralAmount)
  | 10 => do
    let liquidityAmount ← unpackU64
    pure (.borrowObligationLiquidity liquidityAmount)
  | 11 => do
    let liquidityAmount ← unpackU64
    pure (.repayObligationLiquidity liquidityAmount)
  | 12 => do
    let liquidityAmount ← unpackU64
    pure (.liquidateObligation liquidityAmount)
  | 13 => do
    let amount ← unpackU64
    pure (.flashLoan amount)
  | 14 => do
    let liquidityAmount ← unpackU64
    pure (.depositReserveLiquidityAndObligationCollateral liquidityAmount)
  | 15 => do
    let collateralAmount ← unpackU64
    pure (.withdrawObligationCollateralAndRedeemReserveCollateral collateralAmount)
  | 16 => do
    let config ← unpackReserveConfig
    pure (.updateReserveConfig config)
  | 17 => do
    let liquidityAmount ← unpackU64
    pure (.liquidateObligationAndRedeemReserveCollateral liquidityAmount)
  | 18 => pure .redeemFees
  | 19 => do
    let liquidityAmount ← unpackU64
    pure (.flashBorrowReserveLiquidity liquidityAmount)
  | 20 => do
    let liquidityAmount ← unpackU64
    let borrowInstructionIndex ← unpackU8
    pure (.flashRepayReserveLiquidity liquidityAmount borrowInstructionIndex)
  | _ => failure

/-- `LendingInstruction::unpack`; all its errors are `InstructionUnpackError`. -/
def unpack (input : List UInt8) : Option LendingInstruction :=
  match input with
  | [] => none
  | tag :: rest => ((unpackRest tag).run rest).map Prod.fst

/-! ## Packing -/

def leU64 (n : UInt64) : List UInt8 := leBytes 8 n.toNat

def ReserveConfig.pack (c : ReserveConfig) : List UInt8 :=
  [c.optimalUtilizationRate, c.loanToValueRatio, c.liquidationBonus, c.liquidationThreshold,
    c.minBorrowRate, c.optimalBorrowRate, c.maxBorrowRate] ++
  leU64 c.fees.borrowFeeWad ++ leU64 c.fees.flashLoanFeeWad ++ [c.fees.hostFeePercentage] ++
  leU64 c.depositLimit ++ leU64 c.borrowLimit ++ c.feeReceiver.bytes ++
  [c.protocolLiquidationFee, c.protocolTakeRate]

def LendingInstruction.pack : LendingInstruction → List UInt8
  | .initLendingMarket owner quoteCurrency => 0 :: (owner.bytes ++ quoteCurrency.1)
  | .setLendingMarketOwner newOwner => 1 :: newOwner.bytes
  | .initReserve liquidityAmount config => 2 :: (leU64 liquidityAmount ++ config.pack)
  | .refreshReserve => [3]
  | .depositReserveLiquidity liquidityAmount => 4 :: leU64 liquidityAmount
  | .redeemReserveCollateral collateralAmount => 5 :: leU64 collateralAmount
  | .initObligation => [6]
  | .refreshObligation => [7]
  | .depositObligationCollateral collateralAmount => 8 :: leU64 collateralAmount
  | .withdrawObligationCollateral collateralAmount => 9 :: leU64 collateralAmount
  | .borrowObligationLiquidity liquidityAmount => 10 :: leU64 liquidityAmount
  | .repayObligationLiquidity liquidityAmount => 11 :: leU64 liquidityAmount
  | .liquidateObligation liquidityAmount => 12 :: leU64 liquidityAmount
  | .flashLoan amount => 13 :: leU64 amount
  | .depositReserveLiquidityAndObligationCollateral liquidityAmount =>
    14 :: leU64 liquidityAmount
  | .withdrawObligationCollateralAndRedeemReserveCollateral collateralAmount =>
    15 :: leU64 collateralAmount
  | .updateReserveConfig config => 16 :: config.pack
  | .liquidateObligationAndRedeemReserveCollateral liquidityAmount =>
    17 :: leU64 liquidityAmount
  | .redeemFees => [18]
  | .flashBorrowReserveLiquidity liquidityAmount => 19 :: leU64 liquidityAmount
  | .flashRepayReserveLiquidity liquidityAmount borrowInstructionIndex =>
    20 :: (leU64 liquidityAmount ++ [borrowInstructionIndex])

/-! ## The fields -/

lemma exact_unpackU64 : Exact unpackU64 leU64 := by
  refine exact_fixed (fun n => length_leBytes 8 n.toNat) (fun bs => ?_) (fun n => ?_)
  · have hlt : ofLeBytes bs.1 < 2 ^ 64 := by
      have hbound := ofLeBytes_lt bs.1
      rw [bs.2] at hbound
      exact hbound
    have hle := leBytes_ofLeBytes bs.1
    rw [bs.2] at hle
    rw [leU64, UInt64.toNat_ofNat_of_lt' hlt, hle]
  · change UInt64.ofNat (ofLeBytes (leBytes 8 n.toNat)) = n
    rw [ofLeBytes_leBytes_of_lt n.toNat_lt, UInt64.ofNat_toNat]

lemma exact_unpackU8 : Exact unpackU8 fun b => [b] := exact_byte

lemma exact_unpackBytes32 : Exact unpackBytes32 Subtype.val :=
  exact_fixed (fun bs => bs.2) (fun _ => rfl) (fun _ => rfl)

lemma exact_unpackPubkey : Exact unpackPubkey Pubkey.bytes :=
  exact_fixed (fun k => k.size) (fun _ => rfl) (fun _ => rfl)

lemma run_pure_iff {α : Type} {a b : α} {input rest : List UInt8} :
    (pure a : Reader α).run input = some (b, rest) ↔ b = a ∧ rest = input := by
  rw [StateT.run_pure]
  change some (a, input) = some (b, rest) ↔ _
  rw [Option.some.injEq, Prod.mk.injEq]
  exact and_congr eq_comm eq_comm

lemma exact_unpackReserveConfig : Exact unpackReserveConfig ReserveConfig.pack := by
  intro input c rest
  simp only [unpackReserveConfig, exact_unpackU8.bind_iff, exact_unpackU64.bind_iff,
    exact_unpackPubkey.bind_iff, run_pure_iff]
  constructor
  · rintro ⟨_, _, rfl, _, _, rfl, _, _, rfl, _, _, rfl, _, _, rfl, _, _, rfl, _, _, rfl, _, _,
      rfl, _, _, rfl, _, _, rfl, _, _, rfl, _, _, rfl, _, _, rfl, _, _, rfl, _, _, rfl, rfl, rfl⟩
    simp [ReserveConfig.pack]
  · rintro rfl
    refine ⟨_, _, ?_, _, _, rfl, _, _, rfl, _, _, rfl, _, _, rfl, _, _, rfl, _, _, rfl, _, _,
      rfl, _, _, rfl, _, _, rfl, _, _, rfl, _, _, rfl, _, _, rfl, _, _, rfl, _, _, rfl, rfl, rfl⟩
    simp [ReserveConfig.pack]

/-! ## Instructions -/

lemma eq_ofNat_of_toNat {tag : UInt8} {n : ℕ} (h : tag.toNat = n) : tag = UInt8.ofNat n := by
  rw [← h, UInt8.ofNat_toNat]

/-- A tag with nothing after it. -/
lemma pack_of_plain {tag : UInt8} {n : ℕ} (htag : tag.toNat = n) {i i' : LendingInstruction}
    (hpack : i.pack = [UInt8.ofNat n]) {input rest : List UInt8}
    (h : (pure i : Reader LendingInstruction).run input = some (i', rest)) :
    tag :: input = i'.pack ++ rest := by
  obtain ⟨rfl, rfl⟩ := run_pure_iff.1 h
  rw [hpack, eq_ofNat_of_toNat htag]
  rfl

/-- A tag with one amount after it. -/
lemma pack_of_amount {tag : UInt8} {n : ℕ} (htag : tag.toNat = n)
    {ctor : UInt64 → LendingInstruction} {i : LendingInstruction}
    (hpack : ∀ amount, (ctor amount).pack = UInt8.ofNat n :: leU64 amount)
    {input rest : List UInt8}
    (h : (do
      let amount ← unpackU64
      pure (ctor amount) : Reader LendingInstruction).run input = some (i, rest)) :
    tag :: input = i.pack ++ rest := by
  obtain ⟨amount, mid, rfl, hrun⟩ := exact_unpackU64.bind_iff.1 h
  obtain ⟨rfl, rfl⟩ := run_pure_iff.1 hrun
  rw [hpack, eq_ofNat_of_toNat htag]
  rfl

/-- What is read after a tag is what was packed after it. -/
lemma pack_of_unpackRest {tag : UInt8} {input rest : List UInt8} {i : LendingInstruction}
    (h : (unpackRest tag).run input = some (i, rest)) : tag :: input = i.pack ++ rest := by
  unfold unpackRest at h
  split at h
  · next htag =>
      obtain rfl := eq_ofNat_of_toNat htag
      simp only [exact_unpackPubkey.bind_iff, exact_unpackBytes32.bind_iff, run_pure_iff] at h
      obtain ⟨owner, _, rfl, quoteCurrency, _, rfl, rfl, rfl⟩ := h
      simp [LendingInstruction.pack]
  · next htag =>
      obtain rfl := eq_ofNat_of_toNat htag
      simp only [exact_unpackPubkey.bind_iff, run_pure_iff] at h
      obtain ⟨newOwner, _, rfl, rfl, rfl⟩ := h
      rfl
  · next htag =>
      obtain rfl := eq_ofNat_of_toNat htag
      simp only [exact_unpackU64.bind_iff, exact_unpackReserveConfig.bind_iff, run_pure_iff] at h
      obtain ⟨amount, _, rfl, config, _, rfl, rfl, rfl⟩ := h
      simp [LendingInstruction.pack]
  · next htag => exact pack_of_plain htag rfl h
  · next htag => exact pack_of_amount htag (fun _ => rfl) h
  · next htag => exact pack_of_amount htag (fun _ => rfl) h
  · next htag => exact pack_of_plain htag rfl h
  · next htag => exact pack_of_plain htag rfl h
  · next htag => exact pack_of_amount htag (fun _ => rfl) h
  · next htag => exact pack_of_amount htag (fun _ => rfl) h
  · next htag => exact pack_of_amount htag (fun _ => rfl) h
  · next htag => exact pack_of_amount htag (fun _ => rfl) h
  · next htag => exact pack_of_amount htag (fun _ => rfl) h
  · next htag => exact pack_of_amount htag (fun _ => rfl) h
  · next htag => exact pack_of_amount htag (fun _ => rfl) h
  · next htag => exact pack_of_amount htag (fun _ => rfl) h
  · next htag =>
      obtain rfl := eq_ofNat_of_toNat htag
      simp only [exact_unpackReserveConfig.bind_iff, run_pure_iff] at h
      obtain ⟨config, _, rfl, rfl, rfl⟩ := h
      rfl
  · next htag => exact pack_of_amount htag (fun _ => rfl) h
  · next htag => exact pack_of_plain htag rfl h
  · next htag => exact pack_of_amount htag (fun _ => rfl) h
  · next htag =>
      obtain rfl := eq_ofNat_of_toNat htag
      simp only [exact_unpackU64.bind_iff, exact_unpackU8.bind_iff, run_pure_iff] at h
      obtain ⟨amount, _, rfl, index, _, rfl, rfl, rfl⟩ := h
      simp [LendingInstruction.pack]
  · exact absurd h (by simp [StateT.run_failure])

lemma run_amount {ctor : UInt64 → LendingInstruction} (amount : UInt64) (rest : List UInt8) :
    (do
      let amount ← unpackU64
      pure (ctor amount) : Reader LendingInstruction).run (leU64 amount ++ rest) =
      some (ctor amount, rest) :=
  exact_unpackU64.bind_iff.2 ⟨amount, rest, rfl, rfl⟩

/-- What an instruction packs to unpacks to it, whatever follows. -/
lemma unpack_pack_append (i : LendingInstruction) (rest : List UInt8) :
    unpack (i.pack ++ rest) = some i := by
  have hread : ∀ {tag : UInt8} {fields : List UInt8},
      (unpackRest tag).run (fields ++ rest) = some (i, rest) →
        unpack (tag :: fields ++ rest) = some i := by
    intro tag fields h
    rw [List.cons_append, unpack, h]
    rfl
  cases i with
  | initLendingMarket owner quoteCurrency =>
      refine hread (exact_unpackPubkey.bind_iff.2 ⟨owner, quoteCurrency.1 ++ rest, ?_,
        exact_unpackBytes32.bind_iff.2 ⟨quoteCurrency, rest, rfl, rfl⟩⟩)
      rw [List.append_assoc]
  | setLendingMarketOwner newOwner =>
      exact hread (exact_unpackPubkey.bind_iff.2 ⟨newOwner, rest, rfl, rfl⟩)
  | initReserve liquidityAmount config =>
      refine hread (exact_unpackU64.bind_iff.2 ⟨liquidityAmount, config.pack ++ rest, ?_,
        exact_unpackReserveConfig.bind_iff.2 ⟨config, rest, rfl, rfl⟩⟩)
      rw [List.append_assoc]
  | updateReserveConfig config =>
      exact hread (exact_unpackReserveConfig.bind_iff.2 ⟨config, rest, rfl, rfl⟩)
  | flashRepayReserveLiquidity liquidityAmount index =>
      refine hread (exact_unpackU64.bind_iff.2 ⟨liquidityAmount, [index] ++ rest, ?_,
        exact_unpackU8.bind_iff.2 ⟨index, rest, rfl, rfl⟩⟩)
      rw [List.append_assoc]
  | refreshReserve => rfl
  | initObligation => rfl
  | refreshObligation => rfl
  | redeemFees => rfl
  | depositReserveLiquidity amount => exact hread (run_amount amount rest)
  | redeemReserveCollateral amount => exact hread (run_amount amount rest)
  | depositObligationCollateral amount => exact hread (run_amount amount rest)
  | withdrawObligationCollateral amount => exact hread (run_amount amount rest)
  | borrowObligationLiquidity amount => exact hread (run_amount amount rest)
  | repayObligationLiquidity amount => exact hread (run_amount amount rest)
  | liquidateObligation amount => exact hread (run_amount amount rest)
  | flashLoan amount => exact hread (run_amount amount rest)
  | depositReserveLiquidityAndObligationCollateral amount => exact hread (run_amount amount rest)
  | withdrawObligationCollateralAndRedeemReserveCollateral amount =>
      exact hread (run_amount amount rest)
  | liquidateObligationAndRedeemReserveCollateral amount => exact hread (run_amount amount rest)
  | flashBorrowReserveLiquidity amount => exact hread (run_amount amount rest)

/-- **`unpack` is the inverse of `pack`.**  A buffer unpacks to an instruction exactly if it
begins with what the instruction packs to; so packing loses nothing, no two instructions share
a buffer, and every buffer accepted is a packed instruction and an ignored rest. -/
theorem unpack_eq_some_iff (input : List UInt8) (i : LendingInstruction) :
    unpack input = some i ↔ i.pack <+: input := by
  constructor
  · intro h
    cases input with
    | nil => exact absurd h (by simp [unpack])
    | cons tag fields =>
        rw [unpack, Option.map_eq_some_iff] at h
        obtain ⟨⟨i', rest⟩, hrun, rfl⟩ := h
        exact ⟨rest, (pack_of_unpackRest hrun).symm⟩
  · rintro ⟨rest, rfl⟩
    exact unpack_pack_append i rest

/-! ## The calls of a flash plan

The SDK derives the market's authority, the plan is handed one. -/

/-- The authority of a market, as the SDK derives it. -/
def lendingMarketAuthority (h : PdaHash) (programId lendingMarketPubkey : Pubkey) : Pubkey :=
  (h.findProgramAddress [lendingMarketPubkey.bytes] programId).1

def flashBorrowReserveLiquidity (h : PdaHash) (programId : Pubkey) (liquidityAmount : UInt64)
    (sourceLiquidityPubkey destinationLiquidityPubkey reservePubkey
      lendingMarketPubkey : Pubkey) : Instruction where
  programId := programId
  accounts := [
    .new sourceLiquidityPubkey false,
    .new destinationLiquidityPubkey false,
    .new reservePubkey false,
    .newReadonly lendingMarketPubkey false,
    .newReadonly (lendingMarketAuthority h programId lendingMarketPubkey) false,
    .newReadonly Programs.sysvarInstructions false,
    .newReadonly Programs.token false]
  data := (LendingInstruction.flashBorrowReserveLiquidity liquidityAmount).pack

def flashRepayReserveLiquidity (programId : Pubkey) (liquidityAmount : UInt64)
    (borrowInstructionIndex : UInt8) (sourceLiquidityPubkey destinationLiquidityPubkey
      reserveLiquidityFeeReceiverPubkey hostFeeReceiverPubkey reservePubkey lendingMarketPubkey
      userTransferAuthorityPubkey : Pubkey) : Instruction where
  programId := programId
  accounts := [
    .new sourceLiquidityPubkey false,
    .new destinationLiquidityPubkey false,
    .new reserveLiquidityFeeReceiverPubkey false,
    .new hostFeeReceiverPubkey false,
    .new reservePubkey false,
    .newReadonly lendingMarketPubkey false,
    .newReadonly userTransferAuthorityPubkey true,
    .newReadonly Programs.sysvarInstructions false,
    .newReadonly Programs.token false]
  data :=
    (LendingInstruction.flashRepayReserveLiquidity liquidityAmount borrowInstructionIndex).pack

def liquidateObligationAndRedeemReserveCollateral (h : PdaHash) (programId : Pubkey)
    (liquidityAmount : UInt64) (sourceLiquidityPubkey destinationCollateralPubkey
      destinationLiquidityPubkey repayReservePubkey repayReserveLiquiditySupplyPubkey
      withdrawReservePubkey withdrawReserveCollateralMintPubkey
      withdrawReserveCollateralSupplyPubkey withdrawReserveLiquiditySupplyPubkey
      withdrawReserveLiquidityFeeReceiverPubkey obligationPubkey lendingMarketPubkey
      userTransferAuthorityPubkey : Pubkey) : Instruction where
  programId := programId
  accounts := [
    .new sourceLiquidityPubkey false,
    .new destinationCollateralPubkey false,
    .new destinationLiquidityPubkey false,
    .new repayReservePubkey false,
    .new repayReserveLiquiditySupplyPubkey false,
    .new withdrawReservePubkey false,
    .new withdrawReserveCollateralMintPubkey false,
    .new withdrawReserveCollateralSupplyPubkey false,
    .new withdrawReserveLiquiditySupplyPubkey false,
    .new withdrawReserveLiquidityFeeReceiverPubkey false,
    .new obligationPubkey false,
    .newReadonly lendingMarketPubkey false,
    .newReadonly (lendingMarketAuthority h programId lendingMarketPubkey) false,
    .newReadonly userTransferAuthorityPubkey true,
    .newReadonly Programs.token false]
  data :=
    (LendingInstruction.liquidateObligationAndRedeemReserveCollateral liquidityAmount).pack

/-- What the SDK makes of an instruction, if it is for the lending program. -/
def read (l : LabeledIx) : Option LendingInstruction :=
  if l.ix.programId = Programs.save then unpack l.ix.data else none

lemma read_of_pack {l : LabeledIx} (hprogram : l.ix.programId = Programs.save)
    {i : LendingInstruction} (hdata : l.ix.data = i.pack) : read l = some i := by
  rw [read, if_pos hprogram, hdata, unpack_eq_some_iff]

variable (accounts : SaveFlashPlanAccounts) (amount : UInt64) (cuLimit : UInt32)
  (cuPrice : UInt64)

/-- The borrow stands behind the budget, the reserves' refreshes and the obligation's. -/
lemma read_borrow_of_flashPlan (swaps : List LabeledIx) :
    ((buildFlashAtomicPlan accounts amount swaps cuLimit cuPrice).labeled.map
      read)[accounts.refreshReserves.length + 3]? =
        some (some (.flashBorrowReserveLiquidity amount)) := by
  have hprelude : ((preludeIxs accounts.obligation accounts.refreshReserves cuLimit
      cuPrice).map read).length = accounts.refreshReserves.length + 3 := by
    simp [preludeIxs, computeBudgetIxs]
  have hborrow : read ⟨"FlashBorrowReserveLiquidity", accounts.flashBorrow.buildIx amount⟩ =
      some (.flashBorrowReserveLiquidity amount) := read_of_pack rfl rfl
  rw [labeled_buildFlashAtomicPlan, flashHead, List.append_assoc, List.append_assoc,
    List.map_append, ← hprelude, List.getElem?_append_right le_rfl, Nat.sub_self]
  simp [hborrow]

/-- A byte holds the position as long as there are fewer than 253 refreshes before it. -/
lemma toNat_position_iff (n : ℕ) : (UInt8.ofNat (n + 3)).toNat = n + 3 ↔ n < 253 := by
  rw [UInt8.toNat_ofNat']
  omega

/-- **A flash plan as the SDK reads it.**  Around the swaps stand the compute budget, one refresh
for each reserve, the refresh of the obligation, the borrow, the liquidation and the repayment,
each with the plan's amount.  The repayment carries the borrow's position narrowed to a byte,
which is the position exactly if fewer than 253 reserves are refreshed. -/
theorem unpack_flashPlan (swaps : List LabeledIx) :
    (∃ head last,
      (buildFlashAtomicPlan accounts amount swaps cuLimit cuPrice).labeled =
        head ++ swaps ++ [last] ∧
      (head ++ [last]).map read =
        [none, none] ++ accounts.refreshReserves.map (fun _ => some .refreshReserve) ++
          [some .refreshObligation, some (.flashBorrowReserveLiquidity amount),
            some (.liquidateObligationAndRedeemReserveCollateral amount),
            some (.flashRepayReserveLiquidity amount
              (UInt8.ofNat (accounts.refreshReserves.length + 3)))]) ∧
      ((buildFlashAtomicPlan accounts amount swaps cuLimit cuPrice).labeled.map
        read)[accounts.refreshReserves.length + 3]? =
          some (some (.flashBorrowReserveLiquidity amount)) ∧
      ((UInt8.ofNat (accounts.refreshReserves.length + 3)).toNat =
        accounts.refreshReserves.length + 3 ↔ accounts.refreshReserves.length < 253) := by
  refine ⟨⟨flashHead accounts amount cuLimit cuPrice, flashLast accounts amount cuLimit cuPrice,
    labeled_buildFlashAtomicPlan accounts amount cuLimit cuPrice swaps, ?_⟩,
    read_borrow_of_flashPlan accounts amount cuLimit cuPrice swaps, toNat_position_iff _⟩
  have hbudget : (computeBudgetIxs cuLimit cuPrice).map read = [none, none] := by
    have hother : Programs.computeBudget ≠ Programs.save := by decide
    simp [computeBudgetIxs, read, computeUnitLimit, computeUnitPrice, hother]
  have hreserves : (accounts.refreshReserves.map refreshReserveIx).map read =
      accounts.refreshReserves.map fun _ => some .refreshReserve := by
    rw [List.map_map]
    exact List.map_congr_left fun reserve _ => read_of_pack rfl rfl
  -- What stands before the borrow: two compute-budget instructions, the reserves, the obligation.
  have hposition : (preludeIxs accounts.obligation accounts.refreshReserves cuLimit
      cuPrice).length = accounts.refreshReserves.length + 3 := by
    simp [preludeIxs, computeBudgetIxs]
  have hborrow : read ⟨"FlashBorrowReserveLiquidity", accounts.flashBorrow.buildIx amount⟩ =
      some (.flashBorrowReserveLiquidity amount) := read_of_pack rfl rfl
  have hliquidate : read (liquidateIx accounts.liquidate amount) =
      some (.liquidateObligationAndRedeemReserveCollateral amount) := read_of_pack rfl rfl
  have hrepay : read (flashLast accounts amount cuLimit cuPrice) =
      some (.flashRepayReserveLiquidity amount
        (UInt8.ofNat (accounts.refreshReserves.length + 3))) := by
    refine read_of_pack rfl ?_
    rw [← hposition]
    rfl
  have hobligation : read (refreshObligationIx accounts.obligation) =
      some .refreshObligation := read_of_pack rfl rfl
  rw [own_eq, List.map_append, List.map_append, hbudget, hreserves, List.map_cons, hobligation,
    List.map_cons, List.map_cons, List.map_cons, hborrow, hliquidate, hrepay, List.map_nil]

/-- **When the three calls are the SDK's.**  The borrow, the liquidation and the repayment of a
flash plan are, accounts and data, what the SDK builds for the same accounts, exactly if the
borrow's and the liquidation's authority is the one it derives from their market. -/
theorem calls_eq_sdk_iff (h : PdaHash) (borrowIxIndex : UInt8) :
    (accounts.flashBorrow.buildIx amount =
        flashBorrowReserveLiquidity h Programs.save amount accounts.flashBorrow.sourceLiquidity
          accounts.flashBorrow.destinationLiquidity accounts.flashBorrow.reserve
          accounts.flashBorrow.lendingMarket ∧
      accounts.liquidate.buildIx amount =
        liquidateObligationAndRedeemReserveCollateral h Programs.save amount
          accounts.liquidate.sourceLiquidity accounts.liquidate.destinationCollateral
          accounts.liquidate.destinationLiquidity accounts.liquidate.repayReserve
          accounts.liquidate.repayReserveLiquiditySupply accounts.liquidate.withdrawReserve
          accounts.liquidate.withdrawReserveCollateralMint
          accounts.liquidate.withdrawReserveCollateralSupply
          accounts.liquidate.withdrawReserveLiquiditySupply
          accounts.liquidate.withdrawReserveFeeReceiver accounts.liquidate.obligation
          accounts.liquidate.lendingMarket accounts.liquidate.userTransferAuthority ∧
      accounts.flashRepay.buildIx amount borrowIxIndex =
        flashRepayReserveLiquidity Programs.save amount borrowIxIndex
          accounts.flashRepay.sourceLiquidity accounts.flashRepay.destinationLiquidity
          accounts.flashRepay.feeReceiver accounts.flashRepay.hostFeeReceiver
          accounts.flashRepay.reserve accounts.flashRepay.lendingMarket
          accounts.flashRepay.userTransferAuthority) ↔
      accounts.flashBorrow.lendingMarketAuthority =
          lendingMarketAuthority h Programs.save accounts.flashBorrow.lendingMarket ∧
        accounts.liquidate.lendingMarketAuthority =
          lendingMarketAuthority h Programs.save accounts.liquidate.lendingMarket := by
  constructor
  · rintro ⟨hborrow, hliquidate, -⟩
    -- The authorities are account 4 of the borrow and account 12 of the liquidation.
    have hfourth := congrArg (fun ix => ix.accountAt 4) hborrow
    have htwelfth := congrArg (fun ix => ix.accountAt 12) hliquidate
    exact ⟨Option.some.inj hfourth, Option.some.inj htwelfth⟩
  · rintro ⟨hborrow, hliquidate⟩
    refine ⟨?_, ?_, rfl⟩
    · rw [FlashBorrowAccounts.buildIx, FlashBorrowAccounts.metas, hborrow]
      rfl
    · rw [SaveLiquidateAccounts.buildIx, SaveLiquidateAccounts.metas, hliquidate]
      rfl

end Grokbotliq.Save.Sdk
