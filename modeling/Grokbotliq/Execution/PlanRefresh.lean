import Grokbotliq.Execution.PlanOrder

/-!
# Reserves listed and reserves refreshed

A `refresh_obligation` lists the reserves of the obligation; klend wants each of them refreshed
earlier in the transaction.  The reserves refreshed come from the refresh metas, the reserves
listed from the obligation's slots, and after a live decode the metas hold the repay and the
withdraw reserve only.

Coverage is defined for a piece of a plan under what was refreshed before it (`CoveredAfter`), so
that it goes piece by piece: a prelude, a borrow that refreshes nothing, the refreshes after it,
and the rest.  For the two plans it comes down to one inclusion of reserve lists.
-/

namespace Grokbotliq.Execution

open Kamino

/-- The reserves a `refresh_obligation` lists: its accounts after market and obligation, less
the referrer token states at the end. -/
def listedReserves (referrerStates : ℕ) (l : LabeledIx) : List Pubkey :=
  ((l.ix.accounts.drop 2).take (l.ix.accounts.length - 2 - referrerStates)).map AccountMeta.pubkey

/-- `reserve` is the target of a `refresh_reserve` of the plan. -/
def RefreshedIn (plan : Plan) (reserve : Pubkey) : Prop :=
  ∃ l ∈ plan, IsRefreshReserve l ∧ l.ix.accountAt 0 = some reserve

/-- Every reserve listed by a `refresh_obligation` of `plan` is refreshed before it, in `plan`
or in what stands before `plan`. -/
def CoveredAfter (referrerStates : ℕ) (earlier plan : Plan) : Prop :=
  Preceded (fun before l => IsRefreshObligation l →
    ∀ reserve ∈ listedReserves referrerStates l, RefreshedIn (earlier ++ before) reserve) plan

/-- Every reserve listed by a `refresh_obligation` is refreshed earlier in the plan. -/
def Covered (referrerStates : ℕ) (plan : Plan) : Prop := CoveredAfter referrerStates [] plan

lemma RefreshedIn.append_iff {xs ys : Plan} {reserve : Pubkey} :
    RefreshedIn (xs ++ ys) reserve ↔ RefreshedIn xs reserve ∨ RefreshedIn ys reserve := by
  simp only [RefreshedIn, List.mem_append, or_and_right, exists_or]

lemma coveredAfter_append {referrerStates : ℕ} {earlier xs ys : Plan} :
    CoveredAfter referrerStates earlier (xs ++ ys) ↔
      CoveredAfter referrerStates earlier xs ∧ CoveredAfter referrerStates (earlier ++ xs) ys := by
  unfold CoveredAfter
  simp only [preceded_append, List.append_assoc]

/-- A piece without `refresh_obligation` has nothing to cover. -/
lemma coveredAfter_of_not_refreshObligation {xs : Plan} (h : ∀ l ∈ xs, ¬ IsRefreshObligation l)
    (referrerStates : ℕ) (earlier : Plan) : CoveredAfter referrerStates earlier xs :=
  Preceded.of_forall fun l hl _ hkind => absurd hkind (h l hl)

/-! ## The pieces

What each piece refreshes, and what it lists. -/

section Pieces

variable (h : PdaHash) (p : KaminoTxBuildParams)

lemma listedReserves_refreshObligationIx (seen : List Pubkey) :
    listedReserves p.referrerTokenStates.length (p.refreshObligationIx seen) =
      p.obligationReserves seen := by
  simp [listedReserves, KaminoTxBuildParams.refreshObligationIx, Function.comp_def]

lemma refreshedIn_map_refreshReserveIx {keys : List Pubkey} {reserve : Pubkey} :
    RefreshedIn (keys.map p.refreshReserveIx) reserve ↔ reserve ∈ keys := by
  constructor
  · intro hre
    obtain ⟨l, hl, -, haccount⟩ := hre
    obtain ⟨key, hkey, rfl⟩ := List.mem_map.1 hl
    rw [p.accountAt_refreshReserveIx] at haccount
    exact Option.some.inj haccount ▸ hkey
  · intro hkey
    exact ⟨_, List.mem_map_of_mem hkey, p.isRefreshReserve_refreshReserveIx reserve,
      p.accountAt_refreshReserveIx reserve⟩

lemma not_refreshedIn {plan : Plan} {reserve : Pubkey}
    (hplan : ∀ l ∈ plan, ¬ IsRefreshReserve l) : ¬ RefreshedIn plan reserve := by
  intro hre
  obtain ⟨l, hl, hkind, -⟩ := hre
  exact hplan l hl hkind

lemma not_isRefresh_of_programId {l : LabeledIx} (hl : l.ix.programId ≠ Programs.klend) :
    ¬ IsRefreshReserve l ∧ ¬ IsRefreshObligation l :=
  ⟨fun hkind => hl hkind.1, fun hkind => hl hkind.1⟩

lemma not_isRefresh_of_mem_computeBudgetIxs {limit : UInt32} {price : UInt64} {l : LabeledIx}
    (hl : l ∈ computeBudgetIxs limit price) : ¬ IsRefreshReserve l ∧ ¬ IsRefreshObligation l := by
  have hprograms : Programs.computeBudget ≠ Programs.klend := by decide
  refine not_isRefresh_of_programId ?_
  rcases List.mem_pair.1 hl with rfl | rfl <;> exact hprograms

lemma not_isRefresh_of_mem_ensureAtaIxs {l : LabeledIx} (hl : l ∈ p.ensureAtaIxs h) :
    ¬ IsRefreshReserve l ∧ ¬ IsRefreshObligation l := by
  have hprograms : Programs.associatedToken ≠ Programs.klend := by decide
  have hkind : IsCreateIdempotent l := isCreateIdempotent_of_mem_ensureAtaIxsFrom hl
  exact not_isRefresh_of_programId (hkind.1 ▸ hprograms)

lemma not_isRefreshObligation_of_mem_map {keys : List Pubkey} {l : LabeledIx}
    (hl : l ∈ keys.map p.refreshReserveIx) : ¬ IsRefreshObligation l := by
  obtain ⟨reserve, -, rfl⟩ := List.mem_map.1 hl
  intro hkind
  exact nomatch hkind.unique (p.isRefreshReserve_refreshReserveIx reserve)

/-- What the prelude refreshes. -/
lemma refreshedIn_preludeIxs {reserve : Pubkey} :
    RefreshedIn (p.preludeIxs h) reserve ↔ reserve ∈ p.uniqueRefreshReserveKeys := by
  have hbudget : ¬ RefreshedIn (computeBudgetIxs p.cuLimit p.cuPrice) reserve :=
    not_refreshedIn fun _ hl => (not_isRefresh_of_mem_computeBudgetIxs hl).1
  have hatas : ¬ RefreshedIn (p.ensureAtaIxs h) reserve :=
    not_refreshedIn fun _ hl => (not_isRefresh_of_mem_ensureAtaIxs h p hl).1
  have hobligation :
      ¬ RefreshedIn [p.refreshObligationIx p.uniqueRefreshReserveKeys] reserve := by
    refine not_refreshedIn fun l hl hkind => ?_
    obtain rfl := List.mem_singleton.1 hl
    exact nomatch hkind.unique (p.isRefreshObligation_refreshObligationIx _)
  simp only [KaminoTxBuildParams.preludeIxs, KaminoTxBuildParams.refreshIxs,
    RefreshedIn.append_iff, refreshedIn_map_refreshReserveIx, hbudget, hatas, hobligation,
    or_false, false_or]

lemma coveredAfter_refreshObligationIx {earlier : Plan} {seen : List Pubkey} :
    CoveredAfter p.referrerTokenStates.length earlier [p.refreshObligationIx seen] ↔
      ∀ reserve ∈ p.obligationReserves seen, RefreshedIn earlier reserve := by
  unfold CoveredAfter
  rw [preceded_singleton, listedReserves_refreshObligationIx, List.append_nil]
  exact ⟨fun hcov => hcov (p.isRefreshObligation_refreshObligationIx seen), fun hcov _ => hcov⟩

lemma coveredAfter_map_refreshReserveIx (referrerStates : ℕ) (earlier : Plan)
    (keys : List Pubkey) : CoveredAfter referrerStates earlier (keys.map p.refreshReserveIx) :=
  coveredAfter_of_not_refreshObligation
    (fun _ hl => not_isRefreshObligation_of_mem_map p hl) referrerStates earlier

/-- The prelude is covered when the reserves listed are among those refreshed. -/
lemma covered_preludeIxs :
    Covered p.referrerTokenStates.length (p.preludeIxs h) ↔
      ∀ reserve ∈ p.obligationReserves p.uniqueRefreshReserveKeys,
        reserve ∈ p.uniqueRefreshReserveKeys := by
  have hbudget : ∀ reserve, ¬ RefreshedIn (computeBudgetIxs p.cuLimit p.cuPrice) reserve :=
    fun _ => not_refreshedIn fun _ hl => (not_isRefresh_of_mem_computeBudgetIxs hl).1
  have hcovBudget : CoveredAfter p.referrerTokenStates.length []
      (computeBudgetIxs p.cuLimit p.cuPrice) :=
    coveredAfter_of_not_refreshObligation
      (fun _ hl => (not_isRefresh_of_mem_computeBudgetIxs hl).2) _ _
  have hcovAtas : ∀ earlier, CoveredAfter p.referrerTokenStates.length earlier (p.ensureAtaIxs h) :=
    coveredAfter_of_not_refreshObligation
      (fun _ hl => (not_isRefresh_of_mem_ensureAtaIxs h p hl).2) _
  simp only [Covered, KaminoTxBuildParams.preludeIxs, KaminoTxBuildParams.refreshIxs,
    coveredAfter_append, coveredAfter_refreshObligationIx, coveredAfter_map_refreshReserveIx,
    List.nil_append, RefreshedIn.append_iff, refreshedIn_map_refreshReserveIx, hbudget,
    hcovBudget, hcovAtas, false_or, true_and, and_true]

/-- After the prelude, the refreshes around the borrow are covered by the prelude's and their
own. -/
lemma covered_flashHead (borrowAcc : Kamino.FlashBorrowAccounts)
    (repayAcc : Kamino.FlashRepayAccounts) {refreshed : List Pubkey}
    (hpost : p.postFlashRefreshIxs borrowAcc.reserve =
      refreshed.map p.refreshReserveIx ++ [p.refreshObligationIx refreshed]) :
    Covered p.referrerTokenStates.length
        (flashHead h p borrowAcc ++ [flashLast h p repayAcc]) ↔
      (∀ reserve ∈ p.obligationReserves p.uniqueRefreshReserveKeys,
        reserve ∈ p.uniqueRefreshReserveKeys) ∧
      ∀ reserve ∈ p.obligationReserves refreshed,
        reserve ∈ p.uniqueRefreshReserveKeys ∨ reserve ∈ refreshed := by
  have hborrow : ∀ earlier, CoveredAfter p.referrerTokenStates.length earlier
      [flashBorrowIx borrowAcc p.liquidityAmount] := by
    refine coveredAfter_of_not_refreshObligation (fun l hl hkind => ?_) _
    obtain rfl := List.mem_singleton.1 hl
    exact nomatch hkind.unique (isFlashBorrow_flashBorrowIx _ _)
  have hafter : ∀ earlier, CoveredAfter p.referrerTokenStates.length earlier
      [p.liquidateIx, flashLast h p repayAcc] := by
    refine coveredAfter_of_not_refreshObligation (fun l hl hkind => ?_) _
    rcases List.mem_pair.1 hl with rfl | rfl
    · exact nomatch hkind.unique p.isLiquidateV2_liquidateIx
    · exact nomatch hkind.unique (isFlashRepay_flashRepayIx _ _ _)
  have hnoReserve : ∀ reserve,
      ¬ RefreshedIn [flashBorrowIx borrowAcc p.liquidityAmount] reserve := by
    refine fun reserve => not_refreshedIn fun l hl hkind => ?_
    obtain rfl := List.mem_singleton.1 hl
    exact nomatch hkind.unique (isFlashBorrow_flashBorrowIx _ _)
  have hsplit : flashHead h p borrowAcc ++ [flashLast h p repayAcc] =
      p.preludeIxs h ++ [flashBorrowIx borrowAcc p.liquidityAmount] ++
        refreshed.map p.refreshReserveIx ++ [p.refreshObligationIx refreshed] ++
        [p.liquidateIx, flashLast h p repayAcc] := by
    rw [skeleton_at_borrow, hpost]
    simp
  rw [hsplit, Covered]
  simp only [coveredAfter_append, hborrow, hafter, coveredAfter_map_refreshReserveIx, and_true,
    List.nil_append, coveredAfter_refreshObligationIx, RefreshedIn.append_iff,
    refreshedIn_preludeIxs, refreshedIn_map_refreshReserveIx, hnoReserve, or_false]
  rw [← Covered, covered_preludeIxs]

end Pieces

/-! ## After a live decode -/

section Live

variable (h : PdaHash) (obligation liquidator : Pubkey) (positions : LiveObligationPositions)
  (repay withdraw : LiveReserveVaults) (authority : Pubkey) (amount : UInt64)

/-- The reserves of the obligation's deposits and borrows. -/
def slotReserves : List Pubkey :=
  positions.deposits.map LiveDepositPosition.reserve ++
    positions.borrows.map LiveBorrowPosition.reserve

/-- The set under consideration. -/
def liveSet : PlanAccountSet :=
  PlanAccountSet.fromKaminoLive h obligation liquidator positions repay withdraw authority

def liveFlashParams : KaminoTxBuildParams :=
  let set := liveSet h obligation liquidator positions repay withdraw authority
  set.kaminoParams h set.flashReserves amount (some set.kaminoFlashPair)

def liveInventoryParams : KaminoTxBuildParams :=
  let set := liveSet h obligation liquidator positions repay withdraw authority
  set.kaminoParams h set.inventoryReserves amount none

lemma mem_liveRefreshMetas {reserve : Pubkey} :
    reserve ∈ (PlanAccountSet.liveRefreshMetas repay withdraw).map
        RefreshReserveAccounts.reserve ↔
      reserve = repay.address ∨ reserve = withdraw.address := by
  unfold PlanAccountSet.liveRefreshMetas
  split_ifs with hsame
  · simp [PlanAccountSet.refreshAccounts, hsame]
  · simp [PlanAccountSet.refreshAccounts, or_comm]

/-- Whatever the obligation holds, the two chosen reserves are the ones refreshed first. -/
lemma mem_uniqueRefreshReserveKeys_live {p : KaminoTxBuildParams}
    (hp : p.refreshReserves = PlanAccountSet.liveRefreshMetas repay withdraw)
    {reserve : Pubkey} :
    reserve ∈ p.uniqueRefreshReserveKeys ↔
      reserve = repay.address ∨ reserve = withdraw.address := by
  have hne : p.refreshReserves ≠ [] := by
    rw [hp, PlanAccountSet.liveRefreshMetas]
    split_ifs <;> simp
  rw [KaminoTxBuildParams.uniqueRefreshReserveKeys, if_pos hne, mem_firstOccurrences, hp,
    mem_liveRefreshMetas]
  simp

/-- The obligation's reserves are refreshed exactly when they are all chosen ones; an
obligation without slots lists what was refreshed. -/
lemma obligationReserves_subset_live_iff {p : KaminoTxBuildParams}
    (hp : p.refreshReserves = PlanAccountSet.liveRefreshMetas repay withdraw) :
    (∀ reserve ∈ p.obligationReserves p.uniqueRefreshReserveKeys,
        reserve ∈ p.uniqueRefreshReserveKeys) ↔
      ∀ reserve ∈ p.depositReserves ++ p.borrowReserves,
        reserve = repay.address ∨ reserve = withdraw.address := by
  simp only [mem_uniqueRefreshReserveKeys_live repay withdraw hp,
    KaminoTxBuildParams.obligationReserves]
  split_ifs with hempty
  · rw [hempty]
    simp [mem_uniqueRefreshReserveKeys_live repay withdraw hp]
  · rfl

lemma live_inventory_covered_iff :
    let p := liveInventoryParams h obligation liquidator positions repay withdraw authority amount
    Covered p.referrerTokenStates.length (p.preludeIxs h ++ [p.liquidateIx]) ↔
      ∀ reserve ∈ slotReserves positions,
        reserve = repay.address ∨ reserve = withdraw.address := by
  intro p
  have hliquidate : CoveredAfter p.referrerTokenStates.length ([] ++ p.preludeIxs h)
      [p.liquidateIx] := by
    refine coveredAfter_of_not_refreshObligation (fun l hl hkind => ?_) _ _
    obtain rfl := List.mem_singleton.1 hl
    exact nomatch hkind.unique p.isLiquidateV2_liquidateIx
  rw [Covered, coveredAfter_append, and_iff_left hliquidate, ← Covered, covered_preludeIxs]
  exact obligationReserves_subset_live_iff repay withdraw rfl

lemma live_flash_covered_iff :
    let p := liveFlashParams h obligation liquidator positions repay withdraw authority amount
    let set := liveSet h obligation liquidator positions repay withdraw authority
    Covered p.referrerTokenStates.length
        (flashHead h p set.kaminoFlashPair.1 ++ [flashLast h p set.kaminoFlashPair.2]) ↔
      ∀ reserve ∈ slotReserves positions,
        reserve = repay.address ∨ reserve = withdraw.address := by
  intro p set
  obtain ⟨refreshed, hpost, -, -⟩ := p.postFlashRefreshIxs_eq set.kaminoFlashPair.1.reserve
  rw [covered_flashHead h p _ _ hpost,
    obligationReserves_subset_live_iff (p := p) repay withdraw rfl]
  refine and_iff_left_of_imp fun hslots reserve hreserve => ?_
  rw [KaminoTxBuildParams.obligationReserves] at hreserve
  split_ifs at hreserve with hempty
  · exact Or.inr hreserve
  · exact Or.inl ((mem_uniqueRefreshReserveKeys_live repay withdraw rfl).2
      (hslots reserve hreserve))

/-- **Both klend plans of a decoded obligation refresh every reserve they list exactly when the
obligation holds no reserve besides the two chosen ones.** -/
theorem live_plans_covered_iff (blob : JupiterQuoteBlob) :
    let set := PlanAccountSet.fromKaminoLive h obligation liquidator positions repay withdraw
      authority
    ∃ flashHead flashLast inventoryHead,
      (buildStrategyIxs h .kamino .kaminoFlashBorrow set amount blob).labeled =
        flashHead ++ blob.instructions ++ [flashLast] ∧
      (buildStrategyIxs h .kamino .inventory set amount blob).labeled =
        inventoryHead ++ blob.instructions ∧
      (Covered set.referrerTokenStates.length (flashHead ++ [flashLast]) ∧
          Covered set.referrerTokenStates.length inventoryHead ↔
        ∀ reserve ∈ slotReserves positions,
          reserve = repay.address ∨ reserve = withdraw.address) := by
  intro set
  let p := liveFlashParams h obligation liquidator positions repay withdraw authority amount
  have hflash := buildFlashTx_eq h p set.kaminoFlashPair.1 set.kaminoFlashPair.2 rfl
    blob.instructions
  refine ⟨flashHead h p set.kaminoFlashPair.1, flashLast h p set.kaminoFlashPair.2, _, ?_, rfl,
    ?_⟩
  · show (buildFlashTx h p blob.instructions).getD [] = _
    rw [hflash, Option.getD_some]
  · have hflashCov := live_flash_covered_iff h obligation liquidator positions repay withdraw
      authority amount
    have hinvCov := live_inventory_covered_iff h obligation liquidator positions repay withdraw
      authority amount
    exact (and_congr hflashCov hinvCov).trans and_self_iff

end Live

/-- An obligation with deposits in two reserves and a borrow in a third: whichever two are
chosen, the remaining one is listed and not refreshed. -/
theorem third_reserve_listed_and_stale :
    decodeObligationLivePositions (Pubkey.test 1 1) threeReserves = .ok threeReservesPositions ∧
    let set := PlanAccountSet.fromKaminoLive .prefixHash (Pubkey.test 1 1) (Pubkey.test 2 1)
      threeReservesPositions (sampleVaults 3) (sampleVaults 1) (Pubkey.test 2 2)
    ¬ Covered set.referrerTokenStates.length (buildStrategyIxs .prefixHash .kamino
        .kaminoFlashBorrow set 1000000 JupiterQuoteBlob.default).labeled ∧
      ¬ Covered set.referrerTokenStates.length (buildStrategyIxs .prefixHash .kamino
        .inventory set 1000000 JupiterQuoteBlob.default).labeled := by
  refine ⟨decode_threeReserves, ?_⟩
  intro set
  -- The second deposit is neither the repay nor the withdraw reserve.
  have hstale : ¬ ∀ reserve ∈ slotReserves threeReservesPositions,
      reserve = (sampleVaults 3).address ∨ reserve = (sampleVaults 1).address := by
    intro hall
    exact absurd (hall (Pubkey.test 3 2) (by decide)) (by decide)
  have hflash := live_flash_covered_iff .prefixHash (Pubkey.test 1 1) (Pubkey.test 2 1)
    threeReservesPositions (sampleVaults 3) (sampleVaults 1) (Pubkey.test 2 2) 1000000
  have hinv := live_inventory_covered_iff .prefixHash (Pubkey.test 1 1) (Pubkey.test 2 1)
    threeReservesPositions (sampleVaults 3) (sampleVaults 1) (Pubkey.test 2 2) 1000000
  have hplan := buildFlashTx_eq .prefixHash
    (set.kaminoParams .prefixHash set.flashReserves 1000000 (some set.kaminoFlashPair))
    set.kaminoFlashPair.1 set.kaminoFlashPair.2 rfl []
  rw [List.append_nil] at hplan
  refine ⟨fun hcov => hstale (hflash.1 ?_), fun hcov => hstale (hinv.1 ?_)⟩
  · have hlabeled : (buildStrategyIxs .prefixHash .kamino .kaminoFlashBorrow set 1000000
        JupiterQuoteBlob.default).labeled = _ := congrArg (Option.getD · []) hplan
    rw [hlabeled] at hcov
    exact hcov
  · have hlabeled : (buildStrategyIxs .prefixHash .kamino .inventory set 1000000
        JupiterQuoteBlob.default).labeled = _ := List.append_nil _
    rw [hlabeled] at hcov
    exact hcov

end Grokbotliq.Execution
