import Grokbotliq.Execution.PlanAtas
import Grokbotliq.Kamino.InstructionIdl

/-!
# Klend plans read back under the IDL

The three account lists the planner writes by hand, and what `klend.json` makes of them: which
account of the set stands in the position of each role, with which flags, and which arguments
the data holds.  The two flash-loan lists put the classic token program where the liquidation
puts the repay mint's own, so a plan means what it should exactly when these are the same
(`plan_parses_iff`, `flash_agrees_iff`).

An instruction parses (`ParsesAs`) when its program is klend, every position of the IDL has the
set's account for its role with the IDL's flags, any further accounts are as stated, and what
follows the discriminator is the arguments.  The lists are fixed, so this is a comparison position
by position; only the program of the repay mint and the index of the borrow depend on the set.
-/

namespace Grokbotliq

namespace Kamino

variable {ρ : Type} {value : ρ → Option Pubkey} {account : IdlAccount ρ} {m : AccountMeta}

lemma IdlAccount.holds_some {key : Pubkey} (hvalue : value account.role = some key)
    (hsigner : m.isSigner = account.isSigner) (hkey : m.pubkey = key)
    (hmut : m.isWritable = account.isMut) : account.Holds value m := by
  refine ⟨hsigner, ?_⟩
  rw [hvalue]
  exact ⟨hkey, hmut⟩

/-- An optional account is the set's, writable, or the readonly klend program id. -/
lemma IdlAccount.holds_optional {key : Option Pubkey} {role : ρ} (hvalue : value role = key)
    (hsigner : m.isSigner = false)
    (hkey : m = key.elim (.newReadonly Programs.klend false) fun k => .new k false) :
    IdlAccount.Holds value ⟨role, true, false, true⟩ m := by
  refine ⟨hsigner, ?_⟩
  rw [hvalue, hkey]
  cases key
  case none => exact ⟨rfl, rfl, rfl⟩
  case some k => exact ⟨rfl, rfl⟩

end Kamino

namespace Execution

open Kamino

namespace PlanAccountSet

variable (a : PlanAccountSet)

/-! ## What the set holds for each role

A mint or vault that the set does not have is a placeholder derived from its reserve, a missing
destination is the liquidator's liquidity account, and without a fee receiver of the repay
reserve the loan has that of the withdraw reserve. -/

def liquidateV2Role : LiquidateV2Role → Option Pubkey
  | .liquidator => some a.liquidator
  | .obligation => some a.obligation
  | .lendingMarket => some a.lendingMarket
  | .lendingMarketAuthority => some a.lendingMarketAuthority
  | .repayReserve => some a.repayReserve
  | .repayReserveLiquidityMint => some (a.repayLiquidityMint.getD (synth a.repayReserve 100))
  | .repayReserveLiquiditySupply => some (a.repayLiquiditySupply.getD (synth a.repayReserve 101))
  | .withdrawReserve => some a.withdrawReserve
  | .withdrawReserveLiquidityMint =>
    some (a.withdrawLiquidityMint.getD (synth a.withdrawReserve 102))
  | .withdrawReserveCollateralMint =>
    some (a.withdrawCollateralMint.getD (synth a.withdrawReserve 103))
  | .withdrawReserveCollateralSupply =>
    some (a.withdrawCollateralSupply.getD (synth a.withdrawReserve 104))
  | .withdrawReserveLiquiditySupply =>
    some (a.withdrawLiquiditySupply.getD (synth a.withdrawReserve 105))
  | .withdrawReserveLiquidityFeeReceiver =>
    some (a.withdrawFeeReceiver.getD (synth a.withdrawReserve 106))
  | .userSourceLiquidity => some a.userLiquidity
  | .userDestinationCollateral => some a.userCollateral
  | .userDestinationLiquidity => some (a.userDestinationLiquidity.getD a.userLiquidity)
  | .collateralTokenProgram => some a.withdrawTp
  | .repayLiquidityTokenProgram => some a.repayTp
  | .withdrawLiquidityTokenProgram => some a.withdrawTp
  | .instructionSysvarAccount => some Programs.sysvarInstructions
  | .collateralObligationFarmUserState => a.collateralObligationFarmUserState
  | .collateralReserveFarmState => a.collateralReserveFarmState
  | .debtObligationFarmUserState => a.debtObligationFarmUserState
  | .debtReserveFarmState => a.debtReserveFarmState
  | .farmsProgram => some Programs.kfarms

/-- The loan is taken from the repay reserve; it has no referrer of its own. -/
def flashBorrowRole : FlashBorrowRole → Option Pubkey
  | .userTransferAuthority => some a.liquidator
  | .lendingMarketAuthority => some a.lendingMarketAuthority
  | .lendingMarket => some a.lendingMarket
  | .reserve => some a.repayReserve
  | .reserveLiquidityMint => some (a.repayLiquidityMint.getD (synth a.repayReserve 100))
  | .reserveSourceLiquidity => some (a.repayLiquiditySupply.getD (synth a.repayReserve 101))
  | .userDestinationLiquidity => some a.userLiquidity
  | .reserveLiquidityFeeReceiver =>
    some ((a.repayFeeReceiver.or a.withdrawFeeReceiver).getD (synth a.withdrawReserve 106))
  | .referrerTokenState => none
  | .referrerAccount => none
  | .sysvarInfo => some Programs.sysvarInstructions
  | .tokenProgram => some a.repayTp

def flashRepayRole : FlashRepayRole → Option Pubkey
  | .userTransferAuthority => some a.liquidator
  | .lendingMarketAuthority => some a.lendingMarketAuthority
  | .lendingMarket => some a.lendingMarket
  | .reserve => some a.repayReserve
  | .reserveLiquidityMint => some (a.repayLiquidityMint.getD (synth a.repayReserve 100))
  | .reserveDestinationLiquidity => some (a.repayLiquiditySupply.getD (synth a.repayReserve 101))
  | .userSourceLiquidity => some a.userLiquidity
  | .reserveLiquidityFeeReceiver =>
    some ((a.repayFeeReceiver.or a.withdrawFeeReceiver).getD (synth a.withdrawReserve 106))
  | .referrerTokenState => none
  | .referrerAccount => none
  | .sysvarInfo => some Programs.sysvarInstructions
  | .tokenProgram => some a.repayTp

lemma optFarm_toMeta (name : String) (key : Option Pubkey) :
    (optFarm name key Programs.klend).toMeta =
      key.elim (.newReadonly Programs.klend false) fun k => .new k false := by
  cases key <;> rfl

/-- The twenty-five positions of the liquidation. -/
lemma liquidate_accounts :
    List.Forall₂ (IdlAccount.Holds a.liquidateV2Role)
      liquidateObligationAndRedeemReserveCollateralV2Idl.positions
      ((a.kaminoLiquidateAccounts.metas.map AccountMetaDesc.toMeta).take 25) := by
  have hfixed {account : IdlAccount LiquidateV2Role} {m : AccountMeta}
      (h : (a.liquidateV2Role account.role = some m.pubkey ∧ m.isSigner = account.isSigner) ∧
        m.isWritable = account.isMut) : account.Holds a.liquidateV2Role m :=
    IdlAccount.holds_some h.1.1 h.1.2 rfl h.2
  have hfarm {role : LiquidateV2Role} (name : String) :
      IdlAccount.Holds a.liquidateV2Role ⟨role, true, false, true⟩
        (optFarm name (a.liquidateV2Role role) Programs.klend).toMeta := by
    rw [optFarm_toMeta]
    exact IdlAccount.holds_optional rfl (by cases a.liquidateV2Role role <;> rfl) rfl
  -- one position after another: the farms are optional, all others are there
  repeat' first
    | exact List.Forall₂.nil
    | refine List.Forall₂.cons (hfixed ⟨⟨rfl, rfl⟩, rfl⟩) ?_
    | refine List.Forall₂.cons (hfarm _) ?_

/-- A flash borrow's twelve positions, the token program being the classic one. -/
lemma flashBorrow_accounts (h : a.repayTp = Programs.token) :
    List.Forall₂ (IdlAccount.Holds a.flashBorrowRole) flashBorrowReserveLiquidityIdl.positions
      a.kaminoFlashPair.1.metas := by
  have hfixed {account : IdlAccount FlashBorrowRole} {m : AccountMeta}
      (h : (a.flashBorrowRole account.role = some m.pubkey ∧ m.isSigner = account.isSigner) ∧
        m.isWritable = account.isMut) : account.Holds a.flashBorrowRole m :=
    IdlAccount.holds_some h.1.1 h.1.2 rfl h.2
  have hreferrer {role : FlashBorrowRole} (hnone : a.flashBorrowRole role = none) :
      IdlAccount.Holds a.flashBorrowRole ⟨role, true, false, true⟩ absentReferrerMeta :=
    IdlAccount.holds_optional hnone rfl rfl
  have hprogram : IdlAccount.Holds a.flashBorrowRole ⟨.tokenProgram, false, false, false⟩
      (.newReadonly Programs.token false) :=
    IdlAccount.holds_some (congrArg some h) rfl rfl rfl
  repeat' first
    | exact List.Forall₂.nil
    | refine List.Forall₂.cons (hfixed ⟨⟨rfl, rfl⟩, rfl⟩) ?_
    | refine List.Forall₂.cons (hreferrer rfl) ?_
    | refine List.Forall₂.cons hprogram ?_

/-- A repay's role as the borrow's: the two lists differ in the words for the two vaults. -/
def borrowRoleOf : FlashRepayRole → FlashBorrowRole
  | .userTransferAuthority => .userTransferAuthority
  | .lendingMarketAuthority => .lendingMarketAuthority
  | .lendingMarket => .lendingMarket
  | .reserve => .reserve
  | .reserveLiquidityMint => .reserveLiquidityMint
  | .reserveDestinationLiquidity => .reserveSourceLiquidity
  | .userSourceLiquidity => .userDestinationLiquidity
  | .reserveLiquidityFeeReceiver => .reserveLiquidityFeeReceiver
  | .referrerTokenState => .referrerTokenState
  | .referrerAccount => .referrerAccount
  | .sysvarInfo => .sysvarInfo
  | .tokenProgram => .tokenProgram

lemma flashRepayRole_eq (role : FlashRepayRole) :
    a.flashRepayRole role = a.flashBorrowRole (borrowRoleOf role) := by cases role <;> rfl

/-- The repay lists the accounts of the borrow. -/
lemma flashRepay_accounts (h : a.repayTp = Programs.token) :
    List.Forall₂ (IdlAccount.Holds a.flashRepayRole) flashRepayReserveLiquidityIdl.positions
      a.kaminoFlashPair.2.metas := by
  have hpositions : flashBorrowReserveLiquidityIdl.positions =
      flashRepayReserveLiquidityIdl.positions.map fun account =>
        ⟨borrowRoleOf account.role, account.isMut, account.isSigner, account.isOptional⟩ := rfl
  have hborrow := a.flashBorrow_accounts h
  rw [hpositions, List.forall₂_map_left_iff] at hborrow
  refine hborrow.imp fun account m hholds => ?_
  rw [IdlAccount.Holds, a.flashRepayRole_eq]
  exact hholds

end PlanAccountSet

/-! ## The three instructions -/

section Instructions

variable (a : PlanAccountSet) (amount : UInt64)

/-- The deposit reserves come after the accounts of the IDL. -/
lemma parsesAs_liquidate {ix : Instruction} (hprogram : ix.programId = Programs.klend)
    (haccounts : ix.accounts = a.kaminoLiquidateAccounts.metas.map AccountMetaDesc.toMeta)
    (hdata : ix.data = encodeLiquidateV2Data amount 0 0) :
    ParsesAs liquidateObligationAndRedeemReserveCollateralV2Idl a.liquidateV2Role
      (a.depositReservesExtra.map fun r => .newReadonly r false) [amount.toNat, 0, 0] ix where
  program := hprogram
  accounts := by
    rw [haccounts]
    exact a.liquidate_accounts
  extra := by
    rw [haccounts]
    show (a.depositReservesExtra.map _).map AccountMetaDesc.toMeta = _
    rw [List.map_map]
    rfl
  args := by
    have hreads := reads_args [(.u64, amount.toNat), (.u64, 0), (.u64, 0)] (by
      simpa [IdlType.width] using amount.toNat_lt)
    rw [hdata]
    exact hreads.run_eq

lemma parsesAs_flashBorrow (h : a.repayTp = Programs.token) :
    ParsesAs flashBorrowReserveLiquidityIdl a.flashBorrowRole [] [amount.toNat]
      (a.kaminoFlashPair.1.buildIx amount) where
  program := rfl
  accounts := a.flashBorrow_accounts h
  extra := rfl
  args := by
    have hreads := reads_args [(.u64, amount.toNat)] (by
      simpa [IdlType.width] using amount.toNat_lt)
    exact hreads.run_eq

lemma parsesAs_flashRepay (h : a.repayTp = Programs.token) (index : UInt8) :
    ParsesAs flashRepayReserveLiquidityIdl a.flashRepayRole [] [amount.toNat, index.toNat]
      (a.kaminoFlashPair.2.buildIx amount index) where
  program := rfl
  accounts := a.flashRepay_accounts h
  extra := rfl
  args := by
    have hreads := reads_args [(.u64, amount.toNat), (.u8, index.toNat)] (by
      simpa [IdlType.width] using ⟨amount.toNat_lt, index.toNat_lt⟩)
    have hdata : (a.kaminoFlashPair.2.buildIx amount index).data.drop 8 =
        [((IdlType.u64, amount.toNat) : IdlType × ℕ), (.u8, index.toNat)].flatMap
          fun arg => Wire.leBytes arg.1.width arg.2 := by
      have hbyte : Wire.leBytes 1 index.toNat = [index] := by simp [Wire.leBytes]
      show Wire.leBytes 8 amount.toNat ++ [index] =
        Wire.leBytes 8 amount.toNat ++ (Wire.leBytes 1 index.toNat ++ [])
      rw [hbyte, List.append_nil]
    rw [hdata]
    exact hreads.run_eq

/-- A borrow that parses names the repay mint's program, which its list does not ask for. -/
lemma repayTp_of_parsesAs {extra : List AccountMeta} {args : List ℕ}
    (h : ParsesAs flashBorrowReserveLiquidityIdl a.flashBorrowRole extra args
      (a.kaminoFlashPair.1.buildIx amount)) : a.repayTp = Programs.token := by
  have hprogram : accountOf flashBorrowReserveLiquidityIdl .tokenProgram
      (a.kaminoFlashPair.1.buildIx amount) = some a.repayTp := h.accountOf_eq
    ⟨⟨.tokenProgram, false, false, false⟩, by simp [flashBorrowReserveLiquidityIdl,
      IdlInstruction.positions, IdlAccountItem.flatten], rfl⟩ rfl
  exact (Option.some.inj hprogram).symm

end Instructions

/-! ## Whole plans

The liquidation and the two flash-loan instructions are read under the IDL; what a plan refreshes
is the subject of `Execution/PlanRefresh.lean`. -/

/-- Every liquidation, borrow and repay of the plan means what it should, and the repay's index
is the position of the borrow. -/
structure PlanParses (a : PlanAccountSet) (amount : UInt64) (plan : Plan) : Prop where
  liquidate : ∀ l ∈ plan, IsLiquidateV2 l →
    ParsesAs liquidateObligationAndRedeemReserveCollateralV2Idl a.liquidateV2Role
      (a.depositReservesExtra.map fun r => .newReadonly r false) [amount.toNat, 0, 0] l.ix
  borrow : ∀ l ∈ plan, IsFlashBorrow l →
    ParsesAs flashBorrowReserveLiquidityIdl a.flashBorrowRole [] [amount.toNat] l.ix
  repay : ∀ l ∈ plan, IsFlashRepay l → ∃ i, OnlyAt IsFlashBorrow plan i ∧
    ParsesAs flashRepayReserveLiquidityIdl a.flashRepayRole [] [amount.toNat, i] l.ix

/-- The reserves a flash plan refreshes before its borrow, each once. -/
def PlanAccountSet.reservesToRefresh (a : PlanAccountSet) : List Pubkey :=
  firstOccurrences [] (if a.refreshReserveMetas = [] then a.flashReserves.1 ++ a.flashReserves.2
    else a.refreshReserveMetas.map RefreshReserveAccounts.reserve)

section Plans

variable (h : PdaHash) (a : PlanAccountSet) (amount : UInt64)

/-- Two budget instructions, the reserves, the obligation, the token accounts. -/
lemma length_preludeIxs_flash
    (flash : Option (Kamino.FlashBorrowAccounts × Kamino.FlashRepayAccounts)) :
    ((a.kaminoParams h a.flashReserves amount flash).preludeIxs h).length =
      3 + (a.reservesToRefresh.length + (a.liquidatorEnsureAtas h).length) := by
  have hkeys : (a.kaminoParams h a.flashReserves amount flash).uniqueRefreshReserveKeys =
      a.reservesToRefresh := by
    rw [KaminoTxBuildParams.uniqueRefreshReserveKeys, PlanAccountSet.reservesToRefresh, ite_not]
    exact (apply_ite (firstOccurrences []) _ _ _).symm
  rw [KaminoTxBuildParams.preludeIxs, ensureAtaIxs_eq_map, KaminoTxBuildParams.refreshIxs, hkeys]
  simp only [computeBudgetIxs, List.length_append, List.length_map, List.length_cons,
    List.length_nil]
  omega

/-- The flash plan parses exactly where both flash-loan instructions do. -/
lemma planParses_flash_iff :
    let p := a.kaminoParams h a.flashReserves amount (some a.kaminoFlashPair)
    PlanParses a amount (flashHead h p a.kaminoFlashPair.1 ++
        [flashLast h p a.kaminoFlashPair.2]) ↔
      a.repayTp = Programs.token ∧
        a.reservesToRefresh.length + (a.liquidatorEnsureAtas h).length < 253 := by
  intro p
  -- The borrow stands right behind the prelude, which is where the repayment points.
  have hborrowAt := onlyAt_flashBorrow h p a.kaminoFlashPair.1 a.kaminoFlashPair.2
  have hlength : (p.preludeIxs h).length =
      3 + (a.reservesToRefresh.length + (a.liquidatorEnsureAtas h).length) :=
    length_preludeIxs_flash h a amount (some a.kaminoFlashPair)
  constructor
  · intro hplan
    have hprogram : a.repayTp = Programs.token :=
      repayTp_of_parsesAs a amount (hplan.borrow (flashBorrowIx a.kaminoFlashPair.1 amount)
        (by rw [skeleton_at_borrow]; simp [p, PlanAccountSet.kaminoParams])
        (isFlashBorrow_flashBorrowIx _ _))
    refine ⟨hprogram, ?_⟩
    obtain ⟨i, hi, hparses⟩ := hplan.repay (flashLast h p a.kaminoFlashPair.2) (by simp)
      (isFlashRepay_flashRepayIx _ _ _)
    -- the index read back is the byte the repay carries
    have hargs := hparses.args.symm.trans (parsesAs_flashRepay a amount hprogram
      (UInt8.ofNat (p.preludeIxs h).length)).args
    have hindex : i = (p.preludeIxs h).length % 256 := by
      simpa using (Prod.mk.inj (Option.some.inj hargs)).1
    -- A byte names the position of the borrow only while that position fits in it.
    have hlt : (p.preludeIxs h).length < 256 := by
      have hpos := hi.unique hborrowAt
      omega
    omega
  · rintro ⟨hprogram, hroom⟩
    have hindex : (UInt8.ofNat (p.preludeIxs h).length).toNat = (p.preludeIxs h).length := by
      rw [UInt8.toNat_ofNat', Nat.mod_eq_of_lt (by omega)]
    refine ⟨fun l hl hkind => ?_, fun l hl hkind => ?_, fun l hl hkind => ?_⟩
    · obtain rfl := (kinds_flash h p _ _ hl).2.1 hkind
      exact parsesAs_liquidate a amount rfl rfl rfl
    · obtain rfl := (kinds_flash h p _ _ hl).1 hkind
      exact parsesAs_flashBorrow a amount hprogram
    · obtain rfl := (kinds_flash h p _ _ hl).2.2 hkind
      have hrepay := parsesAs_flashRepay a amount hprogram (UInt8.ofNat (p.preludeIxs h).length)
      rw [hindex] at hrepay
      exact ⟨_, hborrowAt, hrepay⟩

/-- The inventory plan, which takes no loan, always parses. -/
lemma planParses_inventory :
    let p := a.kaminoParams h a.inventoryReserves amount none
    PlanParses a amount (p.preludeIxs h ++ [p.liquidateIx]) := by
  intro p
  refine ⟨fun l hl hkind => ?_, fun l hl hkind => ?_, fun l hl hkind => ?_⟩
  · obtain rfl := (kinds_inventory h p hl).2.2 hkind
    exact parsesAs_liquidate a amount rfl rfl rfl
  · exact absurd hkind (kinds_inventory h p hl).1
  · exact absurd hkind (kinds_inventory h p hl).2.1

/-- **When a klend plan means under the IDL what it should.**  For every account set and amount:
exactly when the repay mint's token program is the one the flash-loan lists have, and the borrow
stands early enough for its index to fit in a byte. -/
theorem plan_parses_iff (blob : JupiterQuoteBlob) :
    ∃ head last inventoryHead,
      (buildStrategyIxs h .kamino .kaminoFlashBorrow a amount blob).labeled =
        head ++ blob.instructions ++ [last] ∧
      (buildStrategyIxs h .kamino .inventory a amount blob).labeled =
        inventoryHead ++ blob.instructions ∧
      (PlanParses a amount (head ++ [last]) ∧ PlanParses a amount inventoryHead ↔
        a.repayTp = Programs.token ∧
          a.reservesToRefresh.length + (a.liquidatorEnsureAtas h).length < 253) := by
  let p := a.kaminoParams h a.flashReserves amount (some a.kaminoFlashPair)
  let q := a.kaminoParams h a.inventoryReserves amount none
  refine ⟨flashHead h p a.kaminoFlashPair.1, flashLast h p a.kaminoFlashPair.2,
    q.preludeIxs h ++ [q.liquidateIx], ?_, rfl, ?_⟩
  · show (buildFlashTx h p blob.instructions).getD [] = _
    rw [buildFlashTx_eq h p a.kaminoFlashPair.1 a.kaminoFlashPair.2 rfl, Option.getD_some]
  · rw [and_iff_left (planParses_inventory h a amount)]
    exact planParses_flash_iff h a amount

/-- The flash plan of a set whose repay mint belongs to Token-2022: the loan's instructions do
not parse. -/
theorem token2022_plan_does_not_parse :
    let set : PlanAccountSet :=
      { PlanAccountSet.fromSeed (Pubkey.test 1 1) with
        repayTokenProgram := some Programs.token2022 }
    ¬ PlanParses set 1000000 (buildStrategyIxs .prefixHash .kamino .kaminoFlashBorrow set 1000000
      JupiterQuoteBlob.default).labeled := by
  intro set hplan
  have hprogram : set.repayTp = Programs.token := by
    refine repayTp_of_parsesAs set 1000000 (hplan.borrow
      (flashBorrowIx set.kaminoFlashPair.1 1000000) ?_ (isFlashBorrow_flashBorrowIx _ _))
    let p := set.kaminoParams .prefixHash set.flashReserves 1000000 (some set.kaminoFlashPair)
    show flashBorrowIx set.kaminoFlashPair.1 1000000 ∈ (buildFlashTx .prefixHash p []).getD []
    rw [buildFlashTx_eq .prefixHash p set.kaminoFlashPair.1 set.kaminoFlashPair.2 rfl,
      Option.getD_some, flashHead]
    simp [p, PlanAccountSet.kaminoParams]
  exact absurd hprogram (by decide)

end Plans

/-! ## The loan and the liquidation -/

/-- The roles in which borrow, repay and liquidation must name the same account. -/
def sharedRoles : List (FlashBorrowRole × FlashRepayRole × LiquidateV2Role) :=
  [(.reserve, .reserve, .repayReserve),
    (.reserveLiquidityMint, .reserveLiquidityMint, .repayReserveLiquidityMint),
    (.reserveSourceLiquidity, .reserveDestinationLiquidity, .repayReserveLiquiditySupply),
    (.userDestinationLiquidity, .userSourceLiquidity, .userSourceLiquidity),
    (.lendingMarket, .lendingMarket, .lendingMarket),
    (.lendingMarketAuthority, .lendingMarketAuthority, .lendingMarketAuthority),
    (.tokenProgram, .tokenProgram, .repayLiquidityTokenProgram)]

/-- Read under the IDL, the three instructions agree on every shared role. -/
def LoanAgrees (borrow repay liquidate : Instruction) : Prop :=
  ∀ roles ∈ sharedRoles, ∃ key,
    accountOf flashBorrowReserveLiquidityIdl roles.1 borrow = some key ∧
    accountOf flashRepayReserveLiquidityIdl roles.2.1 repay = some key ∧
    accountOf liquidateObligationAndRedeemReserveCollateralV2Idl roles.2.2 liquidate = some key

/-- The lists agree on all but the token program, which the loan's have fixed. -/
lemma loanAgrees_iff (a : PlanAccountSet) (amount : UInt64) (index : UInt8) {ix : Instruction}
    {extra : List AccountMeta} {args : List ℕ}
    (hix : ParsesAs liquidateObligationAndRedeemReserveCollateralV2Idl a.liquidateV2Role extra
      args ix) :
    LoanAgrees (a.kaminoFlashPair.1.buildIx amount) (a.kaminoFlashPair.2.buildIx amount index)
      ix ↔ a.repayTp = Programs.token := by
  have hliquidate {role : LiquidateV2Role} {key : Pubkey}
      (hkey : a.liquidateV2Role role = some key) :
      accountOf liquidateObligationAndRedeemReserveCollateralV2Idl role ix = some key := by
    refine hix.accountOf_eq ?_ hkey
    cases role <;> decide
  constructor
  · intro hagrees
    obtain ⟨key, hborrow, -, hkey⟩ := hagrees
      (.tokenProgram, .tokenProgram, .repayLiquidityTokenProgram) (by simp [sharedRoles])
    -- The borrow names the token program itself, whatever the reserve is under.
    have hprogram : some Programs.token = some key := hborrow
    rw [hliquidate rfl, ← hprogram] at hkey
    exact Option.some.inj hkey
  · intro hprogram roles hroles
    simp only [sharedRoles, List.mem_cons, List.not_mem_nil, or_false] at hroles
    rcases hroles with rfl | rfl | rfl | rfl | rfl | rfl | rfl
    all_goals first
      | exact ⟨_, rfl, rfl, hliquidate rfl⟩
      | exact ⟨_, rfl, rfl, hliquidate (congrArg some hprogram)⟩

lemma tokenProgramOf_eq_token {r : LiveReserveVaults} :
    PlanAccountSet.tokenProgramOf r = Programs.token ↔
      r.tokenProgram = Programs.token ∨ r.tokenProgram = Pubkey.default := by
  rw [PlanAccountSet.tokenProgramOf, ← r.tokenProgram.bytes_eq_zero_iff]
  split_ifs with hbytes
  · exact iff_of_true rfl (Or.inr hbytes)
  · exact ⟨Or.inl, fun h => h.resolve_right hbytes⟩

/-- **When the loan and the liquidation agree.**  In the flash plan of every live account set
there is one borrow, one liquidation and one repay, and they agree on reserve, mint, vault, user
account, market, authority and token program exactly when the repay reserve's token program is
the classic one or missing. -/
theorem flash_agrees_iff (h : PdaHash) (address liquidator : Pubkey)
    (positions : LiveObligationPositions) (repay withdraw : LiveReserveVaults)
    (authority : Pubkey) (overlay : List RefreshReserveAccounts) (filter : Option (List Pubkey))
    (amount : UInt64) (blob : JupiterQuoteBlob) :
    let set := shadowSet h address liquidator positions repay withdraw authority overlay filter
    ∃ head last i j borrow liquidate,
      (buildStrategyIxs h .kamino .kaminoFlashBorrow set amount blob).labeled =
        head ++ blob.instructions ++ [last] ∧
      OnlyAt IsFlashBorrow (head ++ [last]) i ∧ head[i]? = some borrow ∧
      OnlyAt IsLiquidateV2 (head ++ [last]) j ∧ head[j]? = some liquidate ∧
      OnlyAt IsFlashRepay (head ++ [last]) head.length ∧
      (LoanAgrees borrow.ix last.ix liquidate.ix ↔
        repay.tokenProgram = Programs.token ∨ repay.tokenProgram = Pubkey.default) := by
  intro set
  let p := set.kaminoParams h set.flashReserves amount (some set.kaminoFlashPair)
  have hliquidateAt : flashHead h p set.kaminoFlashPair.1 =
      (p.preludeIxs h ++ flashBorrowIx set.kaminoFlashPair.1 p.liquidityAmount ::
        p.postFlashRefreshIxs set.kaminoFlashPair.1.reserve) ++ p.liquidateIx :: [] := by
    simp [flashHead]
  refine ⟨flashHead h p set.kaminoFlashPair.1, flashLast h p set.kaminoFlashPair.2,
    (p.preludeIxs h).length, liquidatePos h p set.kaminoFlashPair.1,
    flashBorrowIx set.kaminoFlashPair.1 amount, p.liquidateIx, ?_, onlyAt_flashBorrow h p _ _,
    ?_, onlyAt_liquidate h p _ _, ?_, onlyAt_flashRepay h p _ _, ?_⟩
  · show (buildFlashTx h p blob.instructions).getD [] = _
    rw [buildFlashTx_eq h p set.kaminoFlashPair.1 set.kaminoFlashPair.2 rfl, Option.getD_some]
  · rw [flashHead, List.getElem?_append_right (Nat.le_refl _), Nat.sub_self]
    rfl
  · rw [hliquidateAt, ← length_before_liquidate, List.getElem?_append_right (Nat.le_refl _),
      Nat.sub_self]
    rfl
  · rw [← tokenProgramOf_eq_token]
    exact loanAgrees_iff set amount _ (parsesAs_liquidate set amount rfl rfl rfl)

/-- The flash plan of a live set whose repay reserve belongs to Token-2022. -/
theorem token2022_loan_disagrees :
    let repay := { sampleVaults 3 with tokenProgram := Programs.token2022 }
    let set := shadowSet .prefixHash (Pubkey.test 1 1) (Pubkey.test 2 1) threeReservesPositions
      repay (sampleVaults 1) (Pubkey.test 2 2) [] none
    let plan := (buildStrategyIxs .prefixHash .kamino .kaminoFlashBorrow set 1000000
      JupiterQuoteBlob.default).labeled
    ¬ ∀ borrow ∈ plan, ∀ repay ∈ plan, ∀ liquidate ∈ plan, IsFlashBorrow borrow →
      IsFlashRepay repay → IsLiquidateV2 liquidate →
        LoanAgrees borrow.ix repay.ix liquidate.ix := by
  intro repay set plan hagrees
  let p := set.kaminoParams .prefixHash set.flashReserves 1000000 (some set.kaminoFlashPair)
  have hplan : plan = flashHead .prefixHash p set.kaminoFlashPair.1 ++
      [flashLast .prefixHash p set.kaminoFlashPair.2] := by
    show (buildFlashTx .prefixHash p []).getD [] = _
    rw [buildFlashTx_eq .prefixHash p set.kaminoFlashPair.1 set.kaminoFlashPair.2 rfl,
      Option.getD_some, List.append_nil]
  have hset := hagrees (flashBorrowIx set.kaminoFlashPair.1 p.liquidityAmount)
    (by simp [hplan, flashHead]) (flashLast .prefixHash p set.kaminoFlashPair.2)
    (by simp [hplan]) p.liquidateIx (by simp [hplan, flashHead])
    (isFlashBorrow_flashBorrowIx _ _) (isFlashRepay_flashRepayIx _ _ _)
    p.isLiquidateV2_liquidateIx
  have hprogram : PlanAccountSet.tokenProgramOf repay = Programs.token :=
    (loanAgrees_iff set 1000000 _ (parsesAs_liquidate set 1000000 rfl rfl rfl)).1 hset
  rw [tokenProgramOf_eq_token] at hprogram
  exact absurd hprogram (by decide)

end Execution

end Grokbotliq
