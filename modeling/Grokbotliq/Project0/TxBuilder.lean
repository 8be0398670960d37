import Grokbotliq.Core.Instruction

/-!
# Project 0 plans

The marginfi instructions of a receivership liquidation and the instruction list built from
them: the account is taken into receivership, collateral withdrawn, debt repaid, and the
receivership ended.

The two instructions that frame the others name the liquidation record, the two that move tokens
the bank and its vault.  The withdrawal and the repayment are signed by the authority and the end
by the receiver; the start has no signer.
-/

namespace Grokbotliq.Project0

open Wire

namespace Disc

def startLiquidation : List UInt8 := [244, 93, 90, 214, 192, 166, 191, 21]

def endLiquidation : List UInt8 := [110, 11, 244, 54, 229, 181, 22, 184]

def lendingAccountWithdraw : List UInt8 := [36, 72, 74, 19, 210, 210, 192, 192]

def lendingAccountRepay : List UInt8 := [79, 209, 172, 177, 222, 51, 173, 151]

def lendingAccountLiquidate : List UInt8 := [214, 169, 151, 213, 251, 167, 86, 219]

end Disc

/-! ## Data -/

def encodeStartLiquidation : List UInt8 := Disc.startLiquidation

def encodeEndLiquidation : List UInt8 := Disc.endLiquidation

def encodeClassicLiquidate (assetAmount : UInt64) : List UInt8 :=
  Disc.lendingAccountLiquidate ++ leBytes 8 assetAmount.toNat

def encodeWithdraw (amount : UInt64) (withdrawAll : Bool) : List UInt8 :=
  Disc.lendingAccountWithdraw ++ leBytes 8 amount.toNat ++ [if withdrawAll then 1 else 0]

def encodeRepay (amount : UInt64) (repayAll : Bool) : List UInt8 :=
  Disc.lendingAccountRepay ++ leBytes 8 amount.toNat ++ [if repayAll then 1 else 0]

/-! ## Accounts -/

inductive MetaRole
  | writable
  | readonly
  | signer
  | writableSigner
  deriving DecidableEq, Repr

structure NamedMeta where
  name : String
  key : Pubkey
  role : MetaRole
  deriving DecidableEq

def namedToMeta (n : NamedMeta) : AccountMeta :=
  match n.role with
  | .writable => .new n.key false
  | .readonly => .newReadonly n.key false
  | .signer => .newReadonly n.key true
  | .writableSigner => .new n.key true

structure StartLiquidationAccounts where
  marginfiAccount : Pubkey
  liquidationRecord : Pubkey
  group : Pubkey
  liquidationReceiver : Pubkey
  instructionSysvar : Pubkey
  /-- Banks and oracles, as writable remaining accounts. -/
  remainingWritable : List Pubkey

def StartLiquidationAccounts.metas (a : StartLiquidationAccounts) : List NamedMeta :=
  [ ⟨"marginfi_account", a.marginfiAccount, .writable⟩,
    ⟨"liquidation_record", a.liquidationRecord, .writable⟩,
    ⟨"group", a.group, .readonly⟩,
    ⟨"liquidation_receiver", a.liquidationReceiver, .readonly⟩,
    ⟨"instruction_sysvar", a.instructionSysvar, .readonly⟩ ] ++
  a.remainingWritable.map fun k => ⟨"bank_or_oracle", k, .writable⟩

structure EndLiquidationAccounts where
  marginfiAccount : Pubkey
  liquidationRecord : Pubkey
  group : Pubkey
  liquidationReceiver : Pubkey
  feeState : Pubkey
  globalFeeWallet : Pubkey
  systemProgram : Pubkey
  feePayer : Option Pubkey

def EndLiquidationAccounts.metas (a : EndLiquidationAccounts) : List NamedMeta :=
  [ ⟨"marginfi_account", a.marginfiAccount, .writable⟩,
    ⟨"liquidation_record", a.liquidationRecord, .writable⟩,
    ⟨"group", a.group, .readonly⟩,
    ⟨"liquidation_receiver", a.liquidationReceiver, .writableSigner⟩,
    ⟨"fee_state", a.feeState, .readonly⟩,
    ⟨"global_fee_wallet", a.globalFeeWallet, .writable⟩,
    ⟨"system_program", a.systemProgram, .readonly⟩ ] ++
  a.feePayer.toList.map fun k => ⟨"fee_payer", k, .writableSigner⟩

structure WithdrawAccounts where
  group : Pubkey
  marginfiAccount : Pubkey
  authority : Pubkey
  bank : Pubkey
  vault : Pubkey
  destination : Pubkey
  bankLiquidityVaultAuthority : Pubkey
  tokenProgram : Pubkey

def WithdrawAccounts.metas (a : WithdrawAccounts) : List AccountMeta :=
  [ .newReadonly a.group false,
    .new a.marginfiAccount false,
    .newReadonly a.authority true,
    .new a.bank false,
    .new a.destination false,
    .newReadonly a.bankLiquidityVaultAuthority false,
    .new a.vault false,
    .newReadonly a.tokenProgram false ]

structure RepayAccounts where
  group : Pubkey
  marginfiAccount : Pubkey
  authority : Pubkey
  bank : Pubkey
  signerTokenAccount : Pubkey
  vault : Pubkey
  tokenProgram : Pubkey

def RepayAccounts.metas (a : RepayAccounts) : List AccountMeta :=
  [ .newReadonly a.group false,
    .new a.marginfiAccount false,
    .newReadonly a.authority true,
    .new a.bank false,
    .new a.signerTokenAccount false,
    .new a.vault false,
    .newReadonly a.tokenProgram false ]

/-! ## The receivership plan -/

structure ReceivershipBuildParams where
  start : StartLiquidationAccounts
  withdraw : WithdrawAccounts
  repay : RepayAccounts
  stop : EndLiquidationAccounts
  withdrawAmount : UInt64
  repayAmount : UInt64
  cuLimit : UInt32
  cuPrice : UInt64

namespace ReceivershipBuildParams

def startIx (p : ReceivershipBuildParams) : LabeledIx :=
  ⟨"start_liquidation", Programs.marginfi, p.start.metas.map namedToMeta, encodeStartLiquidation⟩

def withdrawIx (p : ReceivershipBuildParams) : LabeledIx :=
  ⟨"lending_account_withdraw", Programs.marginfi, p.withdraw.metas,
    encodeWithdraw p.withdrawAmount false⟩

def repayIx (p : ReceivershipBuildParams) : LabeledIx :=
  ⟨"lending_account_repay", Programs.marginfi, p.repay.metas, encodeRepay p.repayAmount false⟩

def endIx (p : ReceivershipBuildParams) : LabeledIx :=
  ⟨"end_liquidation", Programs.marginfi, p.stop.metas.map namedToMeta, encodeEndLiquidation⟩

end ReceivershipBuildParams

/-- CU → start_liquidation → withdraw → [swaps] → repay → end_liquidation. -/
def buildReceivershipTx (p : ReceivershipBuildParams) (swaps : List LabeledIx) : Plan :=
  computeBudgetIxs p.cuLimit p.cuPrice ++ [p.startIx, p.withdrawIx] ++ swaps ++
    [p.repayIx, p.endIx]

end Grokbotliq.Project0
