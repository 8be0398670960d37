import Grokbotliq.Execution.PlanAtas
import Grokbotliq.Execution.PlanOrder
import Grokbotliq.Save.SdkLayout

/-!
# The index of the borrow

Both flash builders note the length of the plan before they push the borrow, narrow it to a byte
and hand the byte to the repay.  The byte is the position of the borrow as long as the position
fits it; from 256 instructions on it wraps to a position in front of the borrow, where no borrow
stands.

The common part is `repayPointsAtBorrow_iff`, about any plan that is a prelude without borrow, a
borrow, a rest, and a repay that carries the prelude's length as a byte.  The two builders are
then measured: the klend prelude by its refreshes and token accounts, the Save prelude by its
refreshes.
-/

namespace Grokbotliq.Execution

/-- The last instruction of the plan is a repay, and its byte number `indexAt`, read as a position
in the plan, points at a borrow. -/
def RepayPointsAtBorrow (isRepay isBorrow : LabeledIx → Prop) (indexAt : ℕ) (plan : Plan) : Prop :=
  ∃ repay index borrow, plan.getLast? = some repay ∧ isRepay repay ∧
    repay.ix.data[indexAt]? = some index ∧ plan[UInt8.toNat index]? = some borrow ∧
    isBorrow borrow

/-- The byte of the borrow's position leads back to the borrow exactly when the position fits. -/
lemma repayPointsAtBorrow_iff {isRepay isBorrow : LabeledIx → Prop} {indexAt : ℕ}
    {prelude rest : List LabeledIx} {borrow repay : LabeledIx}
    (hprelude : ∀ l ∈ prelude, ¬ isBorrow l) (hborrow : isBorrow borrow) (hrepay : isRepay repay)
    (hindex : repay.ix.data[indexAt]? = some (UInt8.ofNat prelude.length)) :
    RepayPointsAtBorrow isRepay isBorrow indexAt (prelude ++ borrow :: rest ++ [repay]) ↔
      prelude.length < 256 := by
  have hlast : (prelude ++ borrow :: rest ++ [repay]).getLast? = some repay :=
    List.getLast?_concat
  have hbyte : (UInt8.ofNat prelude.length).toNat = prelude.length % 256 := UInt8.toNat_ofNat'
  have hget : ∀ k ≤ prelude.length, (prelude ++ borrow :: rest ++ [repay])[k]? =
      if k < prelude.length then prelude[k]? else some borrow := by
    intro k hk
    rw [List.append_assoc]
    split_ifs with hlt
    · rw [List.getElem?_append_left hlt]
    · obtain rfl : k = prelude.length := by omega
      rw [List.getElem?_append_right le_rfl, Nat.sub_self]
      rfl
  constructor
  · rintro ⟨repay', index, l, hrepay', -, hdata, hl, hisBorrow⟩
    obtain rfl : repay = repay' := Option.some.inj (hlast.symm.trans hrepay')
    obtain rfl := Option.some.inj (hindex.symm.trans hdata)
    by_contra hlong
    -- From 256 on the byte names an instruction of the prelude, and none of these borrows.
    have hmod : prelude.length % 256 < prelude.length := by omega
    rw [hbyte, hget _ hmod.le, if_pos hmod] at hl
    exact hprelude l (List.mem_of_getElem? hl) hisBorrow
  · intro hshort
    refine ⟨repay, _, borrow, hlast, hrepay, hindex, ?_, hborrow⟩
    rw [hbyte, Nat.mod_eq_of_lt hshort, hget _ le_rfl, if_neg (lt_irrefl _)]

/-! ## Kamino -/

section Kamino

open Kamino

/-- The reserves that are refreshed before the borrow: those of the overlay, or without one those
of the obligation. -/
def reservesToRefresh (p : KaminoTxBuildParams) : List Pubkey :=
  if p.refreshReserves ≠ [] then p.refreshReserves.map RefreshReserveAccounts.reserve
  else p.depositReserves ++ p.borrowReserves

lemma nodup_firstOccurrences {seen : List Pubkey} (h : seen.Nodup) (ks : List Pubkey) :
    (firstOccurrences seen ks).Nodup := by
  induction ks generalizing seen with
  | nil => exact h
  | cons k ks ih =>
      rw [firstOccurrences]
      split_ifs with hseen
      · exact ih h
      · apply ih
        rw [List.nodup_append]
        refine ⟨h, List.nodup_singleton k, ?_⟩
        rintro a ha b hb rfl
        rw [List.mem_singleton] at hb
        exact hseen (hb ▸ ha)

lemma length_firstOccurrences (ks : List Pubkey) :
    (firstOccurrences [] ks).length = ks.toFinset.card := by
  rw [← List.toFinset_card_of_nodup (nodup_firstOccurrences List.nodup_nil ks)]
  congr 1
  ext k
  rw [List.mem_toFinset, List.mem_toFinset, mem_firstOccurrences]
  simp

lemma length_ensureAtaIxs (h : PdaHash) (p : KaminoTxBuildParams) :
    (p.ensureAtaIxs h).length = (p.ensureAtas.map (EnsureAta.ataAddress h)).toFinset.card := by
  rw [KaminoTxBuildParams.ensureAtaIxs, ensureAtaIxsFrom_eq_keepFirst, List.length_map,
    ← List.length_map (EnsureAta.ataAddress h),
    ← List.toFinset_card_of_nodup (nodup_keys_keepFirst _ _)]
  congr 1
  ext k
  rw [List.mem_toFinset, List.mem_toFinset, mem_keys_keepFirst]
  simp

/-- The prelude: two budget instructions, a refresh for each reserve, that of the obligation, and
a token account for each address. -/
lemma length_preludeIxs (h : PdaHash) (p : KaminoTxBuildParams) :
    (p.preludeIxs h).length = (reservesToRefresh p).toFinset.card +
      (p.ensureAtas.map (EnsureAta.ataAddress h)).toFinset.card + 3 := by
  have hreserves : p.uniqueRefreshReserveKeys.length = (reservesToRefresh p).toFinset.card := by
    rw [KaminoTxBuildParams.uniqueRefreshReserveKeys, reservesToRefresh]
    split_ifs <;> exact length_firstOccurrences _
  rw [KaminoTxBuildParams.preludeIxs, List.length_append, length_ensureAtaIxs]
  simp only [computeBudgetIxs, KaminoTxBuildParams.refreshIxs, List.length_append,
    List.length_map, List.length_cons, List.length_nil, hreserves]
  omega

lemma kamino_repayPointsAtBorrow_iff (h : PdaHash) (p : KaminoTxBuildParams)
    (swaps : List LabeledIx) {plan : Plan} (hplan : buildFlashTx h p swaps = some plan) :
    RepayPointsAtBorrow Kamino.IsFlashRepay Kamino.IsFlashBorrow 16 plan ↔
      (p.preludeIxs h).length < 256 := by
  cases hflash : p.flash with
  | none =>
      rw [buildFlashTx, hflash] at hplan
      cases hplan
  | some pair =>
      obtain ⟨borrowAcc, repayAcc⟩ := pair
      rw [buildFlashTx_eq h p borrowAcc repayAcc hflash] at hplan
      obtain rfl := Option.some.inj hplan
      rw [flashHead, List.append_assoc (p.preludeIxs h), List.cons_append]
      apply repayPointsAtBorrow_iff
      · intro l hl
        exact (p.isPreparation_of_mem_preludeIxs h hl).1
      · exact isFlashBorrow_flashBorrowIx _ _
      · exact isFlashRepay_flashRepayIx _ _ _
      · simp [flashLast, flashRepayIx, FlashRepayAccounts.buildIx, encodeFlashRepay,
          Disc.flashRepay]

end Kamino

/-! ## Save -/

section Save

open Save

def IsSaveFlashBorrow (l : LabeledIx) : Prop := l.ix.IsCall Programs.save [Save.flashBorrowTag]

def IsSaveFlashRepay (l : LabeledIx) : Prop := l.ix.IsCall Programs.save [Save.flashRepayTag]

lemma not_isSaveFlashBorrow_of_mem_preludeIxs {obligation : Pubkey} {reserves : List Pubkey}
    {cuLimit : UInt32} {cuPrice : UInt64} {l : LabeledIx}
    (hl : l ∈ Save.preludeIxs obligation reserves cuLimit cuPrice) : ¬ IsSaveFlashBorrow l := by
  have hprograms : Programs.computeBudget ≠ Programs.save := by decide
  rcases List.mem_append.1 hl with hl | hobligation
  · rcases List.mem_append.1 hl with hbudget | hreserve
    · have hprogram : l.ix.programId = Programs.computeBudget := by
        rcases List.mem_pair.1 hbudget with rfl | rfl <;> rfl
      intro hcall
      exact hprograms (hprogram.symm.trans hcall.1)
    · obtain ⟨reserve, -, rfl⟩ := List.mem_map.1 hreserve
      intro hcall
      have htag := hcall.tag_eq (Save.isRefreshReserve_refreshReserveIx reserve) rfl
      exact absurd htag (by decide)
  · obtain rfl := List.mem_singleton.1 hobligation
    intro hcall
    have htag := hcall.tag_eq (Save.isRefreshObligation_refreshObligationIx obligation) rfl
    exact absurd htag (by decide)

lemma save_repayPointsAtBorrow_iff (accounts : SaveFlashPlanAccounts) (amount : UInt64)
    (swaps : List LabeledIx) (cuLimit : UInt32) (cuPrice : UInt64) :
    RepayPointsAtBorrow IsSaveFlashRepay IsSaveFlashBorrow 9
        (buildFlashAtomicPlan accounts amount swaps cuLimit cuPrice).labeled ↔
      accounts.refreshReserves.length < 253 := by
  have hlength : (Save.preludeIxs accounts.obligation accounts.refreshReserves cuLimit
      cuPrice).length = accounts.refreshReserves.length + 3 := by
    simp only [Save.preludeIxs, computeBudgetIxs, List.length_append, List.length_map,
      List.length_cons, List.length_nil]
    omega
  have hplan : (buildFlashAtomicPlan accounts amount swaps cuLimit cuPrice).labeled =
      Save.preludeIxs accounts.obligation accounts.refreshReserves cuLimit cuPrice ++
        ⟨"FlashBorrowReserveLiquidity", accounts.flashBorrow.buildIx amount⟩ ::
          (Save.liquidateIx accounts.liquidate amount :: swaps) ++
        [Save.flashLast accounts amount cuLimit cuPrice] := by
    rw [Save.labeled_buildFlashAtomicPlan, Save.flashHead]
    simp only [List.append_assoc, List.cons_append, List.nil_append]
  -- The prelude is three instructions and the reserves, so 256 is reached at 253 of them.
  rw [hplan, repayPointsAtBorrow_iff, hlength]
  · omega
  · intro l hl
    exact not_isSaveFlashBorrow_of_mem_preludeIxs hl
  · exact ⟨rfl, List.prefix_append [_] _⟩
  · exact ⟨rfl, List.prefix_append [_] _⟩
  · simp [Save.flashLast, Save.FlashRepayAccounts.buildIx, Save.encodeFlashRepay]

end Save

/-- **Where the repay finds the borrow.**  The plans of both builders are right up to 252
instructions that come in front of the borrow besides the three fixed ones. -/
theorem repayPointsAtBorrow_plans_iff (h : PdaHash) (p : Kamino.KaminoTxBuildParams)
    (accounts : Save.SaveFlashPlanAccounts) (amount : UInt64) (swaps : List LabeledIx)
    (cuLimit : UInt32) (cuPrice : UInt64) :
    (∀ plan, Kamino.buildFlashTx h p swaps = some plan →
      (RepayPointsAtBorrow Kamino.IsFlashRepay Kamino.IsFlashBorrow 16 plan ↔
        (reservesToRefresh p).toFinset.card +
          (p.ensureAtas.map (Kamino.EnsureAta.ataAddress h)).toFinset.card < 253)) ∧
    (RepayPointsAtBorrow IsSaveFlashRepay IsSaveFlashBorrow 9
        (Save.buildFlashAtomicPlan accounts amount swaps cuLimit cuPrice).labeled ↔
      accounts.refreshReserves.length < 253) := by
  constructor
  · intro plan hplan
    rw [kamino_repayPointsAtBorrow_iff h p swaps hplan, length_preludeIxs]
    omega
  · exact save_repayPointsAtBorrow_iff accounts amount swaps cuLimit cuPrice

/-- The parameters for an obligation with three reserves. -/
def threeReservesParams : Kamino.KaminoTxBuildParams :=
  let set := PlanAccountSet.fromKaminoLive .prefixHash (Pubkey.test 1 1) (Pubkey.test 2 1)
    Kamino.threeReservesPositions (Kamino.sampleVaults 3) (Kamino.sampleVaults 1) (Pubkey.test 2 2)
  set.kaminoParams .prefixHash set.flashReserves 1000000 (some set.kaminoFlashPair)

theorem repayPointsAtBorrow_threeReserves :
    ∃ plan, Kamino.buildFlashTx .prefixHash threeReservesParams [] = some plan ∧
      RepayPointsAtBorrow Kamino.IsFlashRepay Kamino.IsFlashBorrow 16 plan := by
  refine ⟨_, buildFlashTx_eq .prefixHash threeReservesParams _ _ rfl [], ?_⟩
  refine ((repayPointsAtBorrow_plans_iff .prefixHash threeReservesParams Save.twoReserves 1000000 []
    400000 1000).1 _ (buildFlashTx_eq .prefixHash threeReservesParams _ _ rfl [])).2 ?_
  decide +kernel

/-- 253 refreshes put the borrow in position 256, and the byte says 0. -/
theorem repay_misses_borrow :
    ¬ RepayPointsAtBorrow IsSaveFlashRepay IsSaveFlashBorrow 9
      (Save.buildFlashAtomicPlan
        { Save.twoReserves with refreshReserves := List.replicate 253 (.test 7 3) }
        1000000 [] 400000 1000).labeled := by
  rw [save_repayPointsAtBorrow_iff, List.length_replicate]
  exact lt_irrefl 253

end Grokbotliq.Execution
