import Grokbotliq.Execution.Plan
import Grokbotliq.Kamino.PlanShape

/-!
# The order of the flash plan

The five pieces of the flash plan have lengths that depend on the obligation, the overlay and
the token accounts that are missing.  Whatever they are, the borrow, the liquidation and the
repay stand in that order, the repay points at the borrow, and everything the liquidation needs
refreshed is refreshed after the borrow.

The plan without its swaps is written once as a list split at the borrow and once as one split at
the liquidation; the positions, the uniqueness of each kind and the order all follow from the two
splits.  The one numeric condition, that the position of the borrow fits a byte, holds for every
decoded obligation (`length_preludeIxs_live_lt`).
-/

namespace Grokbotliq.Execution

open Kamino

/-- `head`, the swaps and `last` make up a flash plan: the borrow is in position `i`, the
liquidation in position `j`, the repay is `last`. -/
structure FlashOrder (flashReserve withdrawReserve : Pubkey) (amount : UInt64) (head : Plan)
    (last : LabeledIx) (i j : ℕ) : Prop where
  borrow : OnlyAt IsFlashBorrow (head ++ [last]) i
  liquidate : OnlyAt IsLiquidateV2 (head ++ [last]) j
  repay : OnlyAt IsFlashRepay (head ++ [last]) head.length
  borrowsFrom : ((head ++ [last])[i]?.bind fun l => l.ix.accountAt 3) = some flashReserve
  withdrawsFrom : ((head ++ [last])[j]?.bind fun l => l.ix.accountAt 7) = some withdrawReserve
  borrow_lt_liquidate : i < j
  liquidate_lt_repay : j < head.length
  borrowIndex : borrowIndexOf last = some i
  amounts : ∀ k ∈ [i, j, head.length], (head ++ [last])[k]?.map amountOf = some amount.toNat
  atas : OnlyBefore IsCreateIdempotent (head ++ [last]) i
  refreshed : ∀ r ∈ [flashReserve, withdrawReserve], ∃ k l, i < k ∧ k < j ∧ head[k]? = some l ∧
    IsRefreshReserve l ∧ l.ix.accountAt 0 = some r
  refreshedObligation : ∃ k l, i < k ∧ k + 1 = j ∧ head[k]? = some l ∧ IsRefreshObligation l

/-! ## The assembled plan -/

section Assembled

variable (h : PdaHash) (p : KaminoTxBuildParams) (borrowAcc : Kamino.FlashBorrowAccounts)
  (repayAcc : Kamino.FlashRepayAccounts)

/-- What stands before the swaps: the prelude, the borrow, the refreshes, the liquidation. -/
def flashHead : Plan :=
  p.preludeIxs h ++ flashBorrowIx borrowAcc p.liquidityAmount ::
    (p.postFlashRefreshIxs borrowAcc.reserve ++ [p.liquidateIx])

def flashLast : LabeledIx :=
  flashRepayIx repayAcc p.liquidityAmount (UInt8.ofNat (p.preludeIxs h).length)

lemma buildFlashTx_eq (hflash : p.flash = some (borrowAcc, repayAcc)) (swaps : List LabeledIx) :
    buildFlashTx h p swaps =
      some (flashHead h p borrowAcc ++ swaps ++ [flashLast h p repayAcc]) := by
  simp [buildFlashTx, hflash, flashHead, flashLast, flashBorrowIx, flashRepayIx]

lemma isPreparation_of_mem_postFlashRefreshIxs {l : LabeledIx}
    (hl : l ∈ p.postFlashRefreshIxs borrowAcc.reserve) :
    IsPreparation l ∧ ¬ IsCreateIdempotent l := by
  obtain ⟨refreshed, heq, -, -⟩ := p.postFlashRefreshIxs_eq borrowAcc.reserve
  rw [heq] at hl
  rcases List.mem_append.1 hl with hreserve | hobligation
  · obtain ⟨reserve, -, rfl⟩ := List.mem_map.1 hreserve
    have hkind := p.isRefreshReserve_refreshReserveIx reserve
    exact ⟨isPreparation_of_refreshReserve hkind, not_isCreateIdempotent_of_klend hkind.1⟩
  · obtain rfl := List.mem_singleton.1 hobligation
    have hkind := p.isRefreshObligation_refreshObligationIx refreshed
    exact ⟨isPreparation_of_refreshObligation hkind, not_isCreateIdempotent_of_klend hkind.1⟩

/-- The position of the liquidation. -/
def liquidatePos : ℕ :=
  (p.preludeIxs h).length + 1 + (p.postFlashRefreshIxs borrowAcc.reserve).length

/-- The plan without the swaps, split at the borrow. -/
lemma skeleton_at_borrow :
    flashHead h p borrowAcc ++ [flashLast h p repayAcc] =
      p.preludeIxs h ++ flashBorrowIx borrowAcc p.liquidityAmount ::
        (p.postFlashRefreshIxs borrowAcc.reserve ++
          [p.liquidateIx, flashLast h p repayAcc]) := by
  simp [flashHead]

/-- The plan without the swaps, split at the liquidation. -/
lemma skeleton_at_liquidate :
    flashHead h p borrowAcc ++ [flashLast h p repayAcc] =
      (p.preludeIxs h ++ flashBorrowIx borrowAcc p.liquidityAmount ::
        p.postFlashRefreshIxs borrowAcc.reserve) ++
          p.liquidateIx :: [flashLast h p repayAcc] := by
  simp [flashHead]

lemma length_before_liquidate :
    (p.preludeIxs h ++ flashBorrowIx borrowAcc p.liquidityAmount ::
      p.postFlashRefreshIxs borrowAcc.reserve).length = liquidatePos h p borrowAcc := by
  rw [liquidatePos, List.length_append, List.length_cons]
  omega

lemma length_flashHead :
    (flashHead h p borrowAcc).length = liquidatePos h p borrowAcc + 1 := by
  rw [flashHead, liquidatePos, List.length_append, List.length_cons, List.length_append,
    List.length_singleton]
  omega

lemma onlyAt_flashBorrow :
    OnlyAt IsFlashBorrow (flashHead h p borrowAcc ++ [flashLast h p repayAcc])
      (p.preludeIxs h).length := by
  rw [skeleton_at_borrow]
  refine OnlyAt.of_append_cons (isFlashBorrow_flashBorrowIx _ _)
    (fun l hl => (p.isPreparation_of_mem_preludeIxs h hl).1) fun l hl hkind => ?_
  rcases List.mem_append.1 hl with hpost | htail
  · exact (isPreparation_of_mem_postFlashRefreshIxs p borrowAcc hpost).1.1 hkind
  · rcases List.mem_pair.1 htail with rfl | rfl
    · exact nomatch hkind.unique p.isLiquidateV2_liquidateIx
    · exact nomatch hkind.unique (isFlashRepay_flashRepayIx _ _ _)

lemma onlyAt_liquidate :
    OnlyAt IsLiquidateV2 (flashHead h p borrowAcc ++ [flashLast h p repayAcc])
      (liquidatePos h p borrowAcc) := by
  rw [skeleton_at_liquidate, ← length_before_liquidate]
  refine OnlyAt.of_append_cons p.isLiquidateV2_liquidateIx (fun l hl hkind => ?_)
    fun l hl hkind => ?_
  · rcases List.mem_append.1 hl with hprelude | htail
    · exact (p.isPreparation_of_mem_preludeIxs h hprelude).2.1 hkind
    · rcases List.mem_cons.1 htail with rfl | hpost
      · exact nomatch hkind.unique (isFlashBorrow_flashBorrowIx _ _)
      · exact (isPreparation_of_mem_postFlashRefreshIxs p borrowAcc hpost).1.2.1 hkind
  · obtain rfl := List.mem_singleton.1 hl
    exact nomatch hkind.unique (isFlashRepay_flashRepayIx _ _ _)

lemma onlyAt_flashRepay :
    OnlyAt IsFlashRepay (flashHead h p borrowAcc ++ [flashLast h p repayAcc])
      (flashHead h p borrowAcc).length := by
  refine OnlyAt.of_append_cons (isFlashRepay_flashRepayIx _ _ _) (fun l hl hkind => ?_)
    fun l hl => absurd hl List.not_mem_nil
  rcases List.mem_append.1 hl with hprelude | htail
  · exact (p.isPreparation_of_mem_preludeIxs h hprelude).2.2 hkind
  · rcases List.mem_cons.1 htail with rfl | htail
    · exact nomatch hkind.unique (isFlashBorrow_flashBorrowIx _ _)
    · rcases List.mem_append.1 htail with hpost | hliq
      · exact (isPreparation_of_mem_postFlashRefreshIxs p borrowAcc hpost).1.2.2 hkind
      · obtain rfl := List.mem_singleton.1 hliq
        exact nomatch hkind.unique p.isLiquidateV2_liquidateIx

/-- An instruction of one of the three kinds is the one the builder puts in. -/
lemma kinds_flash {l : LabeledIx}
    (hl : l ∈ flashHead h p borrowAcc ++ [flashLast h p repayAcc]) :
    (IsFlashBorrow l → l = flashBorrowIx borrowAcc p.liquidityAmount) ∧
      (IsLiquidateV2 l → l = p.liquidateIx) ∧ (IsFlashRepay l → l = flashLast h p repayAcc) := by
  refine ⟨fun hkind => ?_, fun hkind => ?_, fun hkind => ?_⟩
  · have hget := (onlyAt_flashBorrow h p borrowAcc repayAcc).getElem?_eq hl hkind
    rw [skeleton_at_borrow, List.getElem?_append_right (Nat.le_refl _), Nat.sub_self] at hget
    exact (Option.some.inj hget).symm
  · have hget := (onlyAt_liquidate h p borrowAcc repayAcc).getElem?_eq hl hkind
    rw [skeleton_at_liquidate, ← length_before_liquidate,
      List.getElem?_append_right (Nat.le_refl _), Nat.sub_self] at hget
    exact (Option.some.inj hget).symm
  · have hget := (onlyAt_flashRepay h p borrowAcc repayAcc).getElem?_eq hl hkind
    rw [List.getElem?_append_right (Nat.le_refl _), Nat.sub_self] at hget
    exact (Option.some.inj hget).symm

/-- The inventory plan borrows and repays nothing, and its last instruction liquidates. -/
lemma kinds_inventory {l : LabeledIx} (hl : l ∈ p.preludeIxs h ++ [p.liquidateIx]) :
    ¬ IsFlashBorrow l ∧ ¬ IsFlashRepay l ∧ (IsLiquidateV2 l → l = p.liquidateIx) := by
  rcases List.mem_append.1 hl with hprelude | hlast
  · have hprep := p.isPreparation_of_mem_preludeIxs h hprelude
    exact ⟨hprep.1, hprep.2.2, fun hkind => absurd hkind hprep.2.1⟩
  · obtain rfl := List.mem_singleton.1 hlast
    have hkind := p.isLiquidateV2_liquidateIx
    exact ⟨hkind.not_of_ne (by decide), hkind.not_of_ne (by decide), fun _ => rfl⟩

lemma onlyBefore_createIdempotent :
    OnlyBefore IsCreateIdempotent (flashHead h p borrowAcc ++ [flashLast h p repayAcc])
      (p.preludeIxs h).length := by
  rw [skeleton_at_borrow]
  refine OnlyBefore.of_append fun l hl => ?_
  rcases List.mem_cons.1 hl with rfl | hl
  · exact not_isCreateIdempotent_of_klend rfl
  · rcases List.mem_append.1 hl with hpost | htail
    · exact (isPreparation_of_mem_postFlashRefreshIxs p borrowAcc hpost).2
    · rcases List.mem_pair.1 htail with rfl | rfl
      · exact not_isCreateIdempotent_of_klend rfl
      · exact not_isCreateIdempotent_of_klend rfl

/-- An instruction of the refreshes after the borrow, by its position in the plan. -/
lemma getElem?_flashHead_of_postFlash {k : ℕ} {l : LabeledIx}
    (hk : (p.postFlashRefreshIxs borrowAcc.reserve)[k]? = some l) :
    (flashHead h p borrowAcc)[(p.preludeIxs h).length + 1 + k]? = some l := by
  have hlt := (List.getElem?_eq_some_iff.1 hk).1
  rw [flashHead, List.getElem?_append_right (by omega)]
  have hsub : (p.preludeIxs h).length + 1 + k - (p.preludeIxs h).length = k + 1 := by omega
  rw [hsub, List.getElem?_cons_succ, List.getElem?_append_left hlt, hk]

lemma exists_refreshed {r : Pubkey} (hr : r = borrowAcc.reserve ∨ r = p.liquidate.withdrawReserve) :
    ∃ k l, (p.preludeIxs h).length < k ∧ k < liquidatePos h p borrowAcc ∧
      (flashHead h p borrowAcc)[k]? = some l ∧ IsRefreshReserve l ∧ l.ix.accountAt 0 = some r := by
  obtain ⟨refreshed, heq, hflash, hwithdraw⟩ := p.postFlashRefreshIxs_eq borrowAcc.reserve
  have hmem : r ∈ refreshed := by
    rcases hr with rfl | rfl
    · exact hflash
    · exact hwithdraw
  have hpost : p.refreshReserveIx r ∈ p.postFlashRefreshIxs borrowAcc.reserve := by
    rw [heq]
    exact List.mem_append_left _ (List.mem_map_of_mem hmem)
  obtain ⟨k, hk⟩ := List.mem_iff_getElem?.1 hpost
  have hlt := (List.getElem?_eq_some_iff.1 hk).1
  refine ⟨_, _, ?_, ?_, getElem?_flashHead_of_postFlash h p borrowAcc hk,
    p.isRefreshReserve_refreshReserveIx r, p.accountAt_refreshReserveIx r⟩
  · omega
  · rw [liquidatePos]
    omega

lemma exists_refreshedObligation :
    ∃ k l, (p.preludeIxs h).length < k ∧ k + 1 = liquidatePos h p borrowAcc ∧
      (flashHead h p borrowAcc)[k]? = some l ∧ IsRefreshObligation l := by
  obtain ⟨refreshed, heq, -, -⟩ := p.postFlashRefreshIxs_eq borrowAcc.reserve
  have hk : (p.postFlashRefreshIxs borrowAcc.reserve)[refreshed.length]? =
      some (p.refreshObligationIx refreshed) := by
    rw [heq, List.getElem?_append_right (by simp)]
    simp
  refine ⟨_, _, ?_, ?_, getElem?_flashHead_of_postFlash h p borrowAcc hk,
    p.isRefreshObligation_refreshObligationIx refreshed⟩
  · omega
  · rw [liquidatePos, heq, List.length_append, List.length_map, List.length_singleton]
    omega

/-- **The flash plan is in order whenever the borrow's position fits in the index byte.** -/
theorem flashOrder_flashHead (hlen : (p.preludeIxs h).length < 256) :
    FlashOrder borrowAcc.reserve p.liquidate.withdrawReserve p.liquidityAmount
      (flashHead h p borrowAcc) (flashLast h p repayAcc) (p.preludeIxs h).length
      (liquidatePos h p borrowAcc) where
  borrow := onlyAt_flashBorrow h p borrowAcc repayAcc
  liquidate := onlyAt_liquidate h p borrowAcc repayAcc
  repay := onlyAt_flashRepay h p borrowAcc repayAcc
  borrowsFrom := by
    rw [skeleton_at_borrow]
    simp [flashBorrowIx, FlashBorrowAccounts.buildIx, FlashBorrowAccounts.metas,
      Instruction.accountAt]
  withdrawsFrom := by
    rw [skeleton_at_liquidate, ← length_before_liquidate]
    simp [KaminoTxBuildParams.liquidateIx, LiquidateV2Accounts.metas, AccountMetaDesc.toMeta,
      Instruction.accountAt]
  borrow_lt_liquidate := by
    rw [liquidatePos]
    omega
  liquidate_lt_repay := by
    rw [length_flashHead]
    omega
  borrowIndex := by
    rw [flashLast, borrowIndexOf_flashRepayIx, UInt8.toNat_ofNat', Nat.mod_eq_of_lt hlen]
  amounts := by
    intro k hk
    rcases List.mem_cons.1 hk with rfl | hk
    · rw [skeleton_at_borrow]
      simp [amountOf_flashBorrowIx]
    · rcases List.mem_pair.1 hk with rfl | rfl
      · rw [skeleton_at_liquidate, ← length_before_liquidate]
        simp [KaminoTxBuildParams.amountOf_liquidateIx]
      · simp [flashLast, amountOf_flashRepayIx]
  atas := onlyBefore_createIdempotent h p borrowAcc repayAcc
  refreshed := fun _ hr => exists_refreshed h p borrowAcc (List.mem_pair.1 hr)
  refreshedObligation := exists_refreshedObligation h p borrowAcc

end Assembled

/-! ## From a decoded obligation

The length of the prelude is bounded by the numbers of slots, overlay entries and token accounts.
-/

/-- The index byte suffices for every set built from a decoded obligation: eight deposits,
five borrows, thirteen overlay entries and three token accounts. -/
lemma length_preludeIxs_live_lt (h : PdaHash) {address : Pubkey} {data : List UInt8}
    {positions : LiveObligationPositions}
    (hdecode : decodeObligationLivePositions address data = .ok positions)
    (obligation liquidator : Pubkey) (repay withdraw : LiveReserveVaults) (authority : Pubkey)
    {overlay : List RefreshReserveAccounts} (hoverlay : overlay.length ≤ 13)
    (filter : Option (List Pubkey)) (amount : UInt64)
    (flash : Option (Kamino.FlashBorrowAccounts × Kamino.FlashRepayAccounts)) :
    let set := (PlanAccountSet.fromKaminoLive h obligation liquidator positions repay withdraw
      authority).withOverlay overlay filter
    ((set.kaminoParams h set.flashReserves amount flash).preludeIxs h).length < 256 := by
  intro set
  obtain ⟨hdeposits, hborrows⟩ := length_of_decodePositions hdecode
  refine KaminoTxBuildParams.length_preludeIxs_lt h _ ?_ (set.length_liquidatorEnsureAtas_le h)
  refine KaminoTxBuildParams.length_uniqueRefreshReserveKeys_le _ hoverlay ?_
  show (positions.deposits.map LiveDepositPosition.reserve ++
    positions.borrows.map LiveBorrowPosition.reserve).length ≤ 13
  rw [List.length_append, List.length_map, List.length_map]
  have hmax : liveMaxDeposits + liveMaxBorrows = 13 := rfl
  omega

/-- **Every flash plan of a decoded obligation is in order.** -/
theorem live_flash_plan_in_order (h : PdaHash) {address : Pubkey} {data : List UInt8}
    {positions : LiveObligationPositions}
    (hdecode : decodeObligationLivePositions address data = .ok positions)
    (obligation liquidator : Pubkey) (repay withdraw : LiveReserveVaults) (authority : Pubkey)
    (overlay : List RefreshReserveAccounts) (hoverlay : overlay.length ≤ 13)
    (filter : Option (List Pubkey)) (amount : UInt64) (blob : JupiterQuoteBlob) :
    ∃ head last i j,
      (buildStrategyIxs h .kamino .kaminoFlashBorrow
        ((PlanAccountSet.fromKaminoLive h obligation liquidator positions repay withdraw
          authority).withOverlay overlay filter) amount blob).labeled =
        head ++ blob.instructions ++ [last] ∧
      FlashOrder repay.address withdraw.address amount head last i j := by
  let set := (PlanAccountSet.fromKaminoLive h obligation liquidator positions repay withdraw
    authority).withOverlay overlay filter
  let p := set.kaminoParams h set.flashReserves amount (some set.kaminoFlashPair)
  have hplan := buildFlashTx_eq h p set.kaminoFlashPair.1 set.kaminoFlashPair.2 rfl
    blob.instructions
  -- A decoded obligation has few enough slots for the prelude to stay below 256 instructions.
  have horder := flashOrder_flashHead h p set.kaminoFlashPair.1 set.kaminoFlashPair.2
    (length_preludeIxs_live_lt h hdecode obligation liquidator repay withdraw authority hoverlay
      filter amount (some set.kaminoFlashPair))
  refine ⟨_, _, _, _, ?_, horder⟩
  show (buildFlashTx h p blob.instructions).getD [] = _
  rw [hplan, Option.getD_some]

/-- A stand-in that keeps the mint among a token account's seeds. -/
def mintHash : PdaHash where
  sha256 := fun bytes =>
    ⟨Wire.leBytes 32 (Wire.ofLeBytes ((bytes.drop 64).take 32)), Wire.length_leBytes _ _⟩
  onCurve := fun _ => false

/-- Two of the three token accounts of the plan below are not there yet. -/
def twoMissingAtas : List Pubkey :=
  [(sampleVaults 3).liquidityMint, (sampleVaults 1).collateralMint].map fun mint =>
    mintHash.getAssociatedTokenAddress (Pubkey.test 2 1) mint Programs.token

/-- The flash plan for an obligation with three reserves, all in the overlay: around one swap, and
with the two missing token accounts created. -/
theorem three_reserves_flash_plan_in_order :
    let set := (PlanAccountSet.fromKaminoLive mintHash (Pubkey.test 1 1) (Pubkey.test 2 1)
      threeReservesPositions (sampleVaults 3) (sampleVaults 1) (Pubkey.test 2 2)).withOverlay
        ([1, 2, 3].map fun r => PlanAccountSet.refreshAccounts (sampleVaults r))
        (some twoMissingAtas)
    let plan := (buildStrategyIxs mintHash .kamino .kaminoFlashBorrow set 1000000
      (.oneSwap (Pubkey.test 2 1))).labeled
    (plan.filter fun l => l.ix.IsCall Programs.associatedToken [1]).length = 2 ∧ ∃ head last i j,
      plan = head ++ (JupiterQuoteBlob.oneSwap (Pubkey.test 2 1)).instructions ++ [last] ∧
      FlashOrder (sampleVaults 3).address (sampleVaults 1).address 1000000 head last i j :=
  ⟨by decide +kernel, live_flash_plan_in_order mintHash decode_threeReserves (Pubkey.test 1 1)
    (Pubkey.test 2 1) (sampleVaults 3) (sampleVaults 1) (Pubkey.test 2 2) _ (by decide)
    (some twoMissingAtas) 1000000 (.oneSwap (Pubkey.test 2 1))⟩

end Grokbotliq.Execution
