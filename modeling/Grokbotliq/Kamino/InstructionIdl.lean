import Grokbotliq.Kamino.Accounts

/-!
# Instructions in the klend IDL

Three instructions as `klend.json` describes them: their accounts, which may stand in nested
groups, and the types of their arguments.  The roles of an instruction are its account names,
those of a group qualified by it.  What a list of accounts and a string of bytes mean under
such a description is `ParsesAs`; nothing here knows how the planner builds them.

A role is an element of an inductive type, so that an account in the wrong place is a wrong role
and not a wrong number.  The arguments are read back by `reads_args`, which needs each value to
fit its type.
-/

namespace Grokbotliq.Kamino

open Wire

/-! ## Descriptions -/

/-- One account of an instruction. -/
structure IdlAccount (ρ : Type) where
  role : ρ
  isMut : Bool
  isSigner : Bool
  isOptional : Bool

/-- An entry of an `accounts` array: an account or a named group. -/
inductive IdlAccountItem (ρ : Type)
  | account (a : IdlAccount ρ)
  | group (name : String) (accounts : List (IdlAccount ρ))

/-- The accounts of an entry, a group's in its order. -/
def IdlAccountItem.flatten {ρ : Type} : IdlAccountItem ρ → List (IdlAccount ρ)
  | account a => [a]
  | group _ accounts => accounts

inductive IdlType
  | u8
  | u64
  deriving DecidableEq

def IdlType.width : IdlType → ℕ
  | u8 => 1
  | u64 => 8

structure IdlInstruction (ρ : Type) where
  name : String
  accounts : List (IdlAccountItem ρ)
  args : List (String × IdlType)

/-- The accounts in the order in which they stand on the wire. -/
def IdlInstruction.positions {ρ : Type} (idl : IdlInstruction ρ) : List (IdlAccount ρ) :=
  idl.accounts.flatMap IdlAccountItem.flatten

/-- Arguments one after another, little-endian. -/
def readArgs : List IdlType → Reader (List ℕ)
  | [] => Pure.pure []
  | t :: ts => do
    let bytes ← readBytes t.width
    let rest ← readArgs ts
    Pure.pure (ofLeBytes bytes :: rest)

/-! ## The three instructions -/

/-- The accounts of `liquidateObligationAndRedeemReserveCollateralV2`. -/
inductive LiquidateV2Role
  | liquidator
  | obligation
  | lendingMarket
  | lendingMarketAuthority
  | repayReserve
  | repayReserveLiquidityMint
  | repayReserveLiquiditySupply
  | withdrawReserve
  | withdrawReserveLiquidityMint
  | withdrawReserveCollateralMint
  | withdrawReserveCollateralSupply
  | withdrawReserveLiquiditySupply
  | withdrawReserveLiquidityFeeReceiver
  | userSourceLiquidity
  | userDestinationCollateral
  | userDestinationLiquidity
  | collateralTokenProgram
  | repayLiquidityTokenProgram
  | withdrawLiquidityTokenProgram
  | instructionSysvarAccount
  | collateralObligationFarmUserState
  | collateralReserveFarmState
  | debtObligationFarmUserState
  | debtReserveFarmState
  | farmsProgram
  deriving DecidableEq

def liquidateObligationAndRedeemReserveCollateralV2Idl : IdlInstruction LiquidateV2Role where
  name := "liquidateObligationAndRedeemReserveCollateralV2"
  accounts := [
    .group "liquidationAccounts" [
      ⟨.liquidator, false, true, false⟩,
      ⟨.obligation, true, false, false⟩,
      ⟨.lendingMarket, false, false, false⟩,
      ⟨.lendingMarketAuthority, false, false, false⟩,
      ⟨.repayReserve, true, false, false⟩,
      ⟨.repayReserveLiquidityMint, false, false, false⟩,
      ⟨.repayReserveLiquiditySupply, true, false, false⟩,
      ⟨.withdrawReserve, true, false, false⟩,
      ⟨.withdrawReserveLiquidityMint, false, false, false⟩,
      ⟨.withdrawReserveCollateralMint, true, false, false⟩,
      ⟨.withdrawReserveCollateralSupply, true, false, false⟩,
      ⟨.withdrawReserveLiquiditySupply, true, false, false⟩,
      ⟨.withdrawReserveLiquidityFeeReceiver, true, false, false⟩,
      ⟨.userSourceLiquidity, true, false, false⟩,
      ⟨.userDestinationCollateral, true, false, false⟩,
      ⟨.userDestinationLiquidity, true, false, false⟩,
      ⟨.collateralTokenProgram, false, false, false⟩,
      ⟨.repayLiquidityTokenProgram, false, false, false⟩,
      ⟨.withdrawLiquidityTokenProgram, false, false, false⟩,
      ⟨.instructionSysvarAccount, false, false, false⟩],
    .group "collateralFarmsAccounts" [
      ⟨.collateralObligationFarmUserState, true, false, true⟩,
      ⟨.collateralReserveFarmState, true, false, true⟩],
    .group "debtFarmsAccounts" [
      ⟨.debtObligationFarmUserState, true, false, true⟩,
      ⟨.debtReserveFarmState, true, false, true⟩],
    .account ⟨.farmsProgram, false, false, false⟩]
  args := [
    ("liquidityAmount", .u64),
    ("minAcceptableReceivedLiquidityAmount", .u64),
    ("maxAllowedLtvOverridePercent", .u64)]

/-- The accounts of `flashBorrowReserveLiquidity`. -/
inductive FlashBorrowRole
  | userTransferAuthority
  | lendingMarketAuthority
  | lendingMarket
  | reserve
  | reserveLiquidityMint
  | reserveSourceLiquidity
  | userDestinationLiquidity
  | reserveLiquidityFeeReceiver
  | referrerTokenState
  | referrerAccount
  | sysvarInfo
  | tokenProgram
  deriving DecidableEq

def flashBorrowReserveLiquidityIdl : IdlInstruction FlashBorrowRole where
  name := "flashBorrowReserveLiquidity"
  accounts := [
    .account ⟨.userTransferAuthority, false, true, false⟩,
    .account ⟨.lendingMarketAuthority, false, false, false⟩,
    .account ⟨.lendingMarket, false, false, false⟩,
    .account ⟨.reserve, true, false, false⟩,
    .account ⟨.reserveLiquidityMint, false, false, false⟩,
    .account ⟨.reserveSourceLiquidity, true, false, false⟩,
    .account ⟨.userDestinationLiquidity, true, false, false⟩,
    .account ⟨.reserveLiquidityFeeReceiver, true, false, false⟩,
    .account ⟨.referrerTokenState, true, false, true⟩,
    .account ⟨.referrerAccount, true, false, true⟩,
    .account ⟨.sysvarInfo, false, false, false⟩,
    .account ⟨.tokenProgram, false, false, false⟩]
  args := [("liquidityAmount", .u64)]

/-- The accounts of `flashRepayReserveLiquidity`. -/
inductive FlashRepayRole
  | userTransferAuthority
  | lendingMarketAuthority
  | lendingMarket
  | reserve
  | reserveLiquidityMint
  | reserveDestinationLiquidity
  | userSourceLiquidity
  | reserveLiquidityFeeReceiver
  | referrerTokenState
  | referrerAccount
  | sysvarInfo
  | tokenProgram
  deriving DecidableEq

def flashRepayReserveLiquidityIdl : IdlInstruction FlashRepayRole where
  name := "flashRepayReserveLiquidity"
  accounts := [
    .account ⟨.userTransferAuthority, false, true, false⟩,
    .account ⟨.lendingMarketAuthority, false, false, false⟩,
    .account ⟨.lendingMarket, false, false, false⟩,
    .account ⟨.reserve, true, false, false⟩,
    .account ⟨.reserveLiquidityMint, false, false, false⟩,
    .account ⟨.reserveDestinationLiquidity, true, false, false⟩,
    .account ⟨.userSourceLiquidity, true, false, false⟩,
    .account ⟨.reserveLiquidityFeeReceiver, true, false, false⟩,
    .account ⟨.referrerTokenState, true, false, true⟩,
    .account ⟨.referrerAccount, true, false, true⟩,
    .account ⟨.sysvarInfo, false, false, false⟩,
    .account ⟨.tokenProgram, false, false, false⟩]
  args := [("liquidityAmount", .u64), ("borrowInstructionIndex", .u8)]

/-! ## What an instruction means under a description -/

/-- The meta is the IDL's account, holding the given key.  Without a key the account is an
optional one that is absent, which is the klend program id, readonly. -/
def IdlAccount.Holds {ρ : Type} (value : ρ → Option Pubkey) (account : IdlAccount ρ)
    (m : AccountMeta) : Prop :=
  m.isSigner = account.isSigner ∧
    match value account.role with
    | some key => m.pubkey = key ∧ m.isWritable = account.isMut
    | none => account.isOptional = true ∧ m.pubkey = Programs.klend ∧ m.isWritable = false

/-- The instruction has, in every position of the IDL, the account of that role, then exactly
the extra accounts, and after its discriminator the arguments. -/
structure ParsesAs {ρ : Type} (idl : IdlInstruction ρ) (value : ρ → Option Pubkey)
    (extra : List AccountMeta) (args : List ℕ) (ix : Instruction) : Prop where
  program : ix.programId = Programs.klend
  accounts : List.Forall₂ (IdlAccount.Holds value) idl.positions
    (ix.accounts.take idl.positions.length)
  extra : ix.accounts.drop idl.positions.length = extra
  args : (readArgs (idl.args.map Prod.snd)).run (ix.data.drop 8) = some (args, [])

/-- The account of a role. -/
def accountOf {ρ : Type} [DecidableEq ρ] (idl : IdlInstruction ρ) (role : ρ) (ix : Instruction) :
    Option Pubkey :=
  (idl.positions.findIdx? fun a => a.role = role).bind ix.accountAt

/-- What parses has the account of every role in its place. -/
lemma ParsesAs.accountOf_eq {ρ : Type} [DecidableEq ρ] {idl : IdlInstruction ρ}
    {value : ρ → Option Pubkey} {extra : List AccountMeta} {args : List ℕ} {ix : Instruction}
    (h : ParsesAs idl value extra args ix) {role : ρ} {key : Pubkey}
    (hrole : ∃ account ∈ idl.positions, account.role = role) (hkey : value role = some key) :
    accountOf idl role ix = some key := by
  obtain ⟨i, hi⟩ : ∃ i, (idl.positions.findIdx? fun a => a.role = role) = some i := by
    rw [← Option.isSome_iff_exists, List.findIdx?_isSome, List.any_eq_true]
    simpa using hrole
  obtain ⟨hlt, hat, -⟩ := List.findIdx?_eq_some_iff_getElem.1 hi
  obtain ⟨hlen, hget⟩ := List.forall₂_iff_get.1 h.accounts
  have hholds := (hget i hlt (hlen ▸ hlt)).2
  simp only [List.get_eq_getElem, List.getElem_take, of_decide_eq_true hat, hkey] at hholds
  have hix : i < ix.accounts.length := by
    have htake := hlen ▸ hlt
    rw [List.length_take] at htake
    exact (Nat.lt_min.1 htake).2
  rw [accountOf, hi, Option.bind_some, Instruction.accountAt, List.getElem?_eq_getElem hix,
    Option.map_some, hholds.1]

/-- Arguments that fit their types are read back. -/
lemma reads_args :
    ∀ args : List (IdlType × ℕ), (∀ a ∈ args, a.2 < 256 ^ a.1.width) →
      Reads (readArgs (args.map Prod.fst)) (args.flatMap fun a => leBytes a.1.width a.2)
        (args.map Prod.snd)
  | [], _ => Reads.pure []
  | a :: args, h => by
      have hhead : Reads (readBytes a.1.width) (leBytes a.1.width a.2) (leBytes a.1.width a.2) := by
        have hbytes := reads_bytes (leBytes a.1.width a.2)
        rwa [length_leBytes] at hbytes
      have htail := reads_args args fun b hb => h b (List.mem_cons_of_mem _ hb)
      have hvalue : ofLeBytes (leBytes a.1.width a.2) = a.2 :=
        ofLeBytes_leBytes_of_lt (h a List.mem_cons_self)
      have hrest := htail.bind (f := fun rest =>
        Pure.pure (ofLeBytes (leBytes a.1.width a.2) :: rest)) (Reads.pure _)
      rw [hvalue, List.append_nil] at hrest
      exact hhead.bind (f := fun bytes => do
        let rest ← readArgs (args.map Prod.fst)
        Pure.pure (ofLeBytes bytes :: rest)) (by rw [hvalue]; exact hrest)

end Grokbotliq.Kamino
