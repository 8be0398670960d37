import Grokbotliq.Execution.PlanAtas
import Grokbotliq.Execution.TxHeader

/-!
# Who signs a plan

The signer flags of a plan are set account list by account list in three protocol modules.  In
every plan they are all on the liquidator (`single_signer`), so a transaction that the liquidator
pays has one signature slot.

Each builder's lists are gone through once (`signsOnly_buildStrategyIxs`).  Swaps come from
outside, so their signers are an assumption; with it the table of keys has one signer and the
header counts one.
-/

namespace Grokbotliq.Execution

open Wire

/-- Every signer meta of the plan is `k`. -/
def SignsOnly (k : Pubkey) (plan : Plan) : Prop :=
  ∀ l ∈ plan, ∀ m ∈ l.ix.accounts, m.isSigner = true → m.pubkey = k

instance (k : Pubkey) (plan : Plan) : Decidable (SignsOnly k plan) :=
  inferInstanceAs (Decidable (∀ l ∈ plan, _))

section Pieces

variable {k : Pubkey}

lemma signsOnly_append {p q : Plan} : SignsOnly k (p ++ q) ↔ SignsOnly k p ∧ SignsOnly k q :=
  List.forall_mem_append

lemma signsOnly_singleton {l : LabeledIx} :
    SignsOnly k [l] ↔ ∀ m ∈ l.ix.accounts, m.isSigner = true → m.pubkey = k :=
  List.forall_mem_singleton

lemma signsOnly_cons {l : LabeledIx} {p : Plan} :
    SignsOnly k (l :: p) ↔ SignsOnly k [l] ∧ SignsOnly k p := by
  rw [← List.singleton_append, signsOnly_append]

lemma signsOnly_map {α : Type} {f : α → LabeledIx} {xs : List α}
    (h : ∀ x ∈ xs, SignsOnly k [f x]) : SignsOnly k (xs.map f) := by
  intro l hl
  obtain ⟨x, hx, rfl⟩ := List.mem_map.1 hl
  exact signsOnly_singleton.1 (h x hx)

/-- Metas without a signer. -/
lemma signsOnly_of_not_signer {l : LabeledIx} (h : ∀ m ∈ l.ix.accounts, m.isSigner = false) :
    SignsOnly k [l] :=
  signsOnly_singleton.2 fun m hm hsigner => absurd hsigner (by rw [h m hm]; decide)

lemma signsOnly_computeBudgetIxs (cuLimit : UInt32) (cuPrice : UInt64) :
    SignsOnly k (computeBudgetIxs cuLimit cuPrice) := by
  rw [computeBudgetIxs, signsOnly_cons]
  exact ⟨signsOnly_of_not_signer (by simp [computeUnitLimit]),
    signsOnly_of_not_signer (by simp [computeUnitPrice])⟩

end Pieces

/-! ## Kamino -/

section Kamino

open Kamino

variable {k : Pubkey} (h : PdaHash) (p : KaminoTxBuildParams)

lemma signsOnly_refreshReserveIx (reserve : Pubkey) : SignsOnly k [p.refreshReserveIx reserve] := by
  rw [KaminoTxBuildParams.refreshReserveIx]
  cases p.refreshReserves.find? fun r => r.reserve = reserve <;>
    exact signsOnly_of_not_signer (by simp)

lemma signsOnly_refreshObligationIx (reserves : List Pubkey) :
    SignsOnly k [p.refreshObligationIx reserves] := by
  apply signsOnly_of_not_signer
  intro m hm
  simp only [KaminoTxBuildParams.refreshObligationIx, List.mem_append, List.mem_map,
    List.mem_cons, List.not_mem_nil, or_false] at hm
  rcases hm with ((rfl | rfl) | ⟨r, -, rfl⟩) | ⟨r, -, rfl⟩ <;> rfl

lemma pubkey_toMeta (d : AccountMetaDesc) : d.toMeta.pubkey = d.key := by
  rw [AccountMetaDesc.toMeta]
  cases d.role <;> rfl

lemma isSigner_toMeta_iff (d : AccountMetaDesc) :
    d.toMeta.isSigner = true ↔ d.role = .signer := by
  rw [AccountMetaDesc.toMeta]
  cases d.role <;> simp

lemma optFarm_role_ne (name : String) (key : Option Pubkey) (placeholder : Pubkey) :
    (optFarm name key placeholder).role ≠ .signer := by
  cases key <;> simp [optFarm]

/-- Of the liquidation's accounts the first alone signs. -/
lemma signer_of_mem_metas (a : LiquidateV2Accounts) :
    ∀ d ∈ a.metas, d.role = .signer → d.key = a.liquidator := by
  simp [LiquidateV2Accounts.metas, optFarm_role_ne]

lemma signsOnly_liquidateIx (hliquidator : p.liquidate.liquidator = k) :
    SignsOnly k [p.liquidateIx] := by
  rw [signsOnly_singleton]
  intro m hm hsigner
  obtain ⟨d, hd, rfl⟩ := List.mem_map.1 hm
  rw [pubkey_toMeta, ← hliquidator]
  exact signer_of_mem_metas p.liquidate d hd ((isSigner_toMeta_iff d).1 hsigner)

lemma isSigner_referrerMeta (key : Option Pubkey) : (referrerMeta key).isSigner = false := by
  cases key <;> rfl

lemma signsOnly_flashBorrow (a : Kamino.FlashBorrowAccounts) (amount : UInt64) (label : String) :
    SignsOnly a.userTransferAuthority [⟨label, a.buildIx amount⟩] := by
  rw [signsOnly_singleton]
  simp [FlashBorrowAccounts.buildIx, FlashBorrowAccounts.metas, isSigner_referrerMeta]

lemma signsOnly_flashRepay (a : Kamino.FlashRepayAccounts) (amount : UInt64) (index : UInt8)
    (label : String) : SignsOnly a.userTransferAuthority [⟨label, a.buildIx amount index⟩] := by
  rw [signsOnly_singleton]
  simp [FlashRepayAccounts.buildIx, FlashRepayAccounts.metas, isSigner_referrerMeta]

/-- A token account is created at the cost of its payer. -/
lemma signsOnly_toLabeledIx (spec : EnsureAta) : SignsOnly spec.payer [spec.toLabeledIx h] := by
  rw [signsOnly_singleton]
  simp [EnsureAta.toLabeledIx, createAssociatedTokenAccountIdempotent]

variable {p}

lemma signsOnly_preludeIxs (hpayer : ∀ spec ∈ p.ensureAtas, spec.payer = k) :
    SignsOnly k (p.preludeIxs h) := by
  have hatas : SignsOnly k (p.ensureAtaIxs h) := by
    rw [KaminoTxBuildParams.ensureAtaIxs, ensureAtaIxsFrom_eq_keepFirst]
    refine signsOnly_map fun spec hspec => ?_
    rw [← hpayer spec (mem_of_mem_keepFirst hspec)]
    exact signsOnly_toLabeledIx h spec
  rw [KaminoTxBuildParams.preludeIxs, KaminoTxBuildParams.refreshIxs]
  simp only [signsOnly_append]
  exact ⟨⟨signsOnly_computeBudgetIxs _ _, signsOnly_map fun r _ => signsOnly_refreshReserveIx p r,
    signsOnly_refreshObligationIx p _⟩, hatas⟩

lemma signsOnly_postFlashRefreshIxs (reserve : Pubkey) :
    SignsOnly k (p.postFlashRefreshIxs reserve) :=
  signsOnly_append.2 ⟨signsOnly_map fun r _ => signsOnly_refreshReserveIx p r,
    signsOnly_refreshObligationIx p _⟩

/-- The token accounts of a plan are paid for by the liquidator. -/
lemma payer_of_mem_liquidatorEnsureAtas (a : PlanAccountSet) :
    ∀ spec ∈ a.liquidatorEnsureAtas h, spec.payer = a.liquidator := by
  intro spec hspec
  rw [PlanAccountSet.liquidatorEnsureAtas, ensureAtasFrom_eq_keepFirst] at hspec
  have hmem := mem_of_mem_keepFirst hspec
  simp only [List.mem_cons, List.not_mem_nil, or_false] at hmem
  rcases hmem with rfl | rfl | rfl <;> rfl

variable (a : PlanAccountSet) {swaps : Plan} (hswaps : SignsOnly a.liquidator swaps)
include hswaps

lemma signsOnly_buildInventoryTx (reserves : List Pubkey × List Pubkey) (amount : UInt64) :
    SignsOnly a.liquidator (buildInventoryTx h (a.kaminoParams h reserves amount none) swaps) := by
  rw [buildInventoryTx, signsOnly_append, signsOnly_append]
  exact ⟨⟨signsOnly_preludeIxs h (payer_of_mem_liquidatorEnsureAtas h a),
    signsOnly_liquidateIx _ rfl⟩, hswaps⟩

lemma signsOnly_buildFlashTx (reserves : List Pubkey × List Pubkey) (amount : UInt64) :
    SignsOnly a.liquidator ((buildFlashTx h
      (a.kaminoParams h reserves amount (some a.kaminoFlashPair)) swaps).getD []) := by
  show SignsOnly a.liquidator (_ ++ _ ++ _ ++ _ ++ _ ++ _)
  simp only [signsOnly_append]
  exact ⟨⟨⟨⟨⟨signsOnly_preludeIxs h (payer_of_mem_liquidatorEnsureAtas h a),
    signsOnly_flashBorrow a.kaminoFlashPair.1 _ _⟩, signsOnly_postFlashRefreshIxs _⟩,
    signsOnly_liquidateIx _ rfl⟩, hswaps⟩, signsOnly_flashRepay a.kaminoFlashPair.2 _ _ _⟩

end Kamino

/-! ## Save and Project 0

The Save liquidation and repayment are signed, and so are the withdrawal, the repayment and the
end of a receivership; in each case by the liquidator of the set. -/

section Others

variable (a : PlanAccountSet) {swaps : Plan} (hswaps : SignsOnly a.liquidator swaps)
include hswaps

lemma signsOnly_buildFlashAtomicPlan (amount : UInt64) (cuLimit : UInt32) (cuPrice : UInt64) :
    SignsOnly a.liquidator
      (Save.buildFlashAtomicPlan a.saveFlashAccounts amount swaps cuLimit cuPrice).labeled := by
  have hborrow : SignsOnly a.liquidator
      [⟨"FlashBorrowReserveLiquidity", a.saveFlashAccounts.flashBorrow.buildIx amount⟩] :=
    signsOnly_of_not_signer (by
      simp [Save.FlashBorrowAccounts.buildIx, Save.FlashBorrowAccounts.metas])
  have hliquidate : SignsOnly a.liquidator
      [Save.liquidateIx a.saveFlashAccounts.liquidate amount] := by
    rw [signsOnly_singleton]
    simp [Save.liquidateIx, Save.SaveLiquidateAccounts.buildIx, Save.SaveLiquidateAccounts.metas,
      PlanAccountSet.saveFlashAccounts]
  have hrepay : ∀ index, SignsOnly a.liquidator
      [⟨"FlashRepayReserveLiquidity", a.saveFlashAccounts.flashRepay.buildIx amount index⟩] := by
    intro index
    rw [signsOnly_singleton]
    simp [Save.FlashRepayAccounts.buildIx, Save.FlashRepayAccounts.metas,
      PlanAccountSet.saveFlashAccounts]
  rw [Save.buildFlashAtomicPlan, Save.preludeIxs]
  simp only [signsOnly_append]
  refine ⟨⟨⟨⟨⟨signsOnly_computeBudgetIxs _ _, signsOnly_map fun r _ => ?_⟩, ?_⟩, ?_⟩, hswaps⟩,
    hrepay _⟩
  · exact signsOnly_of_not_signer (by simp [Save.refreshReserveIx])
  · exact signsOnly_of_not_signer (by simp [Save.refreshObligationIx])
  · exact signsOnly_cons.2 ⟨hborrow, hliquidate⟩

lemma signsOnly_buildReceivershipTx (amount : UInt64) :
    SignsOnly a.liquidator (Project0.buildReceivershipTx (a.receivershipParams amount) swaps) := by
  have hstart : SignsOnly a.liquidator [(a.receivershipParams amount).startIx] := by
    apply signsOnly_of_not_signer
    simp [Project0.ReceivershipBuildParams.startIx, Project0.StartLiquidationAccounts.metas,
      Project0.namedToMeta]
  have hwithdraw : SignsOnly a.liquidator [(a.receivershipParams amount).withdrawIx] := by
    rw [signsOnly_singleton]
    simp [Project0.ReceivershipBuildParams.withdrawIx, Project0.WithdrawAccounts.metas,
      PlanAccountSet.receivershipParams]
  have hrepay : SignsOnly a.liquidator [(a.receivershipParams amount).repayIx] := by
    rw [signsOnly_singleton]
    simp [Project0.ReceivershipBuildParams.repayIx, Project0.RepayAccounts.metas,
      PlanAccountSet.receivershipParams]
  have hstop : SignsOnly a.liquidator [(a.receivershipParams amount).endIx] := by
    rw [signsOnly_singleton]
    simp [Project0.ReceivershipBuildParams.endIx, Project0.EndLiquidationAccounts.metas,
      Project0.namedToMeta, PlanAccountSet.receivershipParams]
  rw [Project0.buildReceivershipTx]
  simp only [signsOnly_append]
  exact ⟨⟨⟨signsOnly_computeBudgetIxs _ _, signsOnly_cons.2 ⟨hstart, hwithdraw⟩⟩, hswaps⟩,
    signsOnly_cons.2 ⟨hrepay, hstop⟩⟩

end Others

/-! ## Every plan -/

theorem signsOnly_buildStrategyIxs (h : PdaHash) (protocol : Protocol) (strategy : FundingStrategy)
    (a : PlanAccountSet) (amount : UInt64) {blob : JupiterQuoteBlob}
    (hswaps : SignsOnly a.liquidator blob.instructions) :
    SignsOnly a.liquidator (buildStrategyIxs h protocol strategy a amount blob).labeled := by
  have hother : SignsOnly a.liquidator
      [⟨"ComputeBudget:SetComputeUnitLimit", computeUnitLimit 200000⟩] :=
    signsOnly_of_not_signer (by simp [computeUnitLimit])
  cases protocol <;> cases strategy
  case kamino.kaminoFlashBorrow => exact signsOnly_buildFlashTx h a hswaps _ amount
  case kamino.inventory => exact signsOnly_buildInventoryTx h a hswaps _ amount
  case save.saveFlashLoan => exact signsOnly_buildFlashAtomicPlan a hswaps amount _ _
  case project0.project0Receivership => exact signsOnly_buildReceivershipTx a hswaps amount
  all_goals exact hother

/-- Where the fee payer alone signs, one signature is required. -/
lemma numRequiredSignatures_eq_one {order : IterationOrder Pubkey KeyFlags} {k : Pubkey}
    {plan : Plan} (h : SignsOnly k plan) :
    (buildAccountKeys order k (plan.map LabeledIx.ix)).numRequiredSignatures = 1 := by
  have hsigners : signerKeys k (plan.map LabeledIx.ix) = {k} := by
    ext k'
    rw [mem_signerKeys, Finset.mem_singleton]
    refine ⟨?_, Or.inl⟩
    rintro (rfl | ⟨ix, hix, m, hm, rfl, hsigner⟩)
    · rfl
    · obtain ⟨l, hl, rfl⟩ := List.mem_map.1 hix
      exact h l hl m hm hsigner
  show UInt8.ofNat (_ + _) = 1
  rw [length_signers_eq, hsigners, Finset.card_singleton]
  rfl

/-- **The liquidator alone signs a plan**, and the transaction it pays has one signature slot. -/
theorem single_signer (h : PdaHash) (protocol : Protocol) (strategy : FundingStrategy)
    (accounts : PlanAccountSet) (amount : UInt64) (blob : JupiterQuoteBlob)
    (hswaps : SignsOnly accounts.liquidator blob.instructions) :
    SignsOnly accounts.liquidator
        (buildStrategyIxs h protocol strategy accounts amount blob).labeled ∧
      ∀ order recentBlockhash bytes,
        encodeVersionedTxBytes order
            ((buildStrategyIxs h protocol strategy accounts amount blob).labeled.map LabeledIx.ix)
            accounts.liquidator recentBlockhash = .ok bytes →
          ∃ head rest, readHead.run bytes = some (head, rest) ∧ head.signatures.length = 1 := by
  have hsigns := signsOnly_buildStrategyIxs h protocol strategy accounts amount hswaps
  refine ⟨hsigns, fun order recentBlockhash bytes hbytes => ?_⟩
  obtain ⟨rest, hrun⟩ := readHead_encode hbytes
  refine ⟨_, rest, hrun, ?_⟩
  show (List.replicate _ _).length = 1
  rw [List.length_replicate, numRequiredSignatures_eq_one hsigns]
  rfl

/-- A flash plan around a swap that the liquidator signs. -/
theorem single_signer_flash :
    let set := PlanAccountSet.fromSeed (Pubkey.test 1 1)
    let blob := JupiterQuoteBlob.oneSwap set.liquidator
    ¬ SignsOnly (Pubkey.test 11 2) blob.instructions ∧
      SignsOnly set.liquidator
        (buildStrategyIxs .prefixHash .kamino .kaminoFlashBorrow set 1000000 blob).labeled ∧
      ∀ order recentBlockhash bytes,
        encodeVersionedTxBytes order
            ((buildStrategyIxs .prefixHash .kamino .kaminoFlashBorrow set 1000000
              blob).labeled.map LabeledIx.ix) set.liquidator recentBlockhash = .ok bytes →
          ∃ head rest, readHead.run bytes = some (head, rest) ∧ head.signatures.length = 1 :=
  ⟨by decide +kernel, single_signer .prefixHash .kamino .kaminoFlashBorrow
    (PlanAccountSet.fromSeed (Pubkey.test 1 1)) 1000000
    (.oneSwap (PlanAccountSet.fromSeed (Pubkey.test 1 1)).liquidator) (by decide +kernel)⟩

end Grokbotliq.Execution
