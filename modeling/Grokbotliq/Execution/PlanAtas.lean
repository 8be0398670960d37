import Grokbotliq.Execution.PlanObligation
import Grokbotliq.Framework.FirstByKey

/-!
# The token accounts a plan creates

The planner derives three token accounts of the liquidator, drops those it has had and those
the filter leaves out, and the builder drops repetitions once more.  Both loops keep the first
of each address (`keepFirst`), so every account used is created once where the filter admits
it, and by its own specification as long as the derivation tells the three apart.

`onlyAt_creates` is the general step: among specifications of different addresses each is created
at one position.  `once_and_only` puts the list into a plan that creates nothing else, and the two
klend plans are instances of it.
-/

namespace Grokbotliq.Execution

open Kamino

/-- The filter of missing accounts admits the account. -/
def Admits (filter : Option (List Pubkey)) (ata : Pubkey) : Bool :=
  !filter.any fun keys => decide (ata ∉ keys)

/-! ## The two loops

The planner skips addresses it has had and those the filter leaves out; the builder skips
addresses again, and finds none. -/

lemma ensureAtasFrom_eq_keepFirst (h : PdaHash) (filter : Option (List Pubkey))
    (specs : List EnsureAta) (seen : List Pubkey) :
    PlanAccountSet.ensureAtasFrom h filter seen specs =
      keepFirst (EnsureAta.ataAddress h) (Admits filter) seen specs := by
  induction specs generalizing seen with
  | nil => rfl
  | cons spec specs ih =>
      rw [PlanAccountSet.ensureAtasFrom, keepFirst, ih, ih]
      have hnot : Admits filter (spec.ataAddress h) = false ↔
          filter.any (fun keys => decide (spec.ataAddress h ∉ keys)) = true := by
        rw [Admits, Bool.not_eq_false']
      simp only [hnot]
      split_ifs <;> simp_all

lemma ensureAtaIxsFrom_eq_keepFirst (h : PdaHash) (specs : List EnsureAta) (seen : List Pubkey) :
    ensureAtaIxsFrom h seen specs =
      (keepFirst (EnsureAta.ataAddress h) (fun _ => true) seen specs).map
        (EnsureAta.toLabeledIx h) := by
  induction specs generalizing seen with
  | nil => rfl
  | cons spec specs ih =>
      rw [ensureAtaIxsFrom, keepFirst, ih, ih]
      split_ifs with hseen hskip hskip
      · rfl
      · exact absurd (Or.inl hseen) hskip
      · exact absurd (hskip.resolve_left hseen) (by simp)
      · rfl

/-- The builder's loop finds no repetition in what the planner's loop left. -/
lemma ensureAtaIxs_eq_map (h : PdaHash) (a : PlanAccountSet)
    (reserves : List Pubkey × List Pubkey) (amount : UInt64)
    (flash : Option (Kamino.FlashBorrowAccounts × Kamino.FlashRepayAccounts)) :
    (a.kaminoParams h reserves amount flash).ensureAtaIxs h =
      (a.liquidatorEnsureAtas h).map (EnsureAta.toLabeledIx h) := by
  have hnodup : ((a.liquidatorEnsureAtas h).map (EnsureAta.ataAddress h)).Nodup := by
    rw [PlanAccountSet.liquidatorEnsureAtas, ensureAtasFrom_eq_keepFirst]
    exact nodup_keys_keepFirst _ _
  show ensureAtaIxsFrom h [] (a.liquidatorEnsureAtas h) = _
  rw [ensureAtaIxsFrom_eq_keepFirst,
    keepFirst_eq_self hnodup fun spec _ => ⟨List.not_mem_nil, rfl⟩]

/-! ## Created once -/

/-- The instruction creates the token account. -/
def Creates (ata : Pubkey) (l : LabeledIx) : Prop :=
  IsCreateIdempotent l ∧ l.ix.accountAt 1 = some ata

lemma creates_toLabeledIx (h : PdaHash) (s : EnsureAta) :
    Creates (s.ataAddress h) (s.toLabeledIx h) := ⟨⟨rfl, List.prefix_refl _⟩, rfl⟩

/-- Of the specifications with distinct addresses each stands at the only position that creates
its account. -/
lemma onlyAt_creates (h : PdaHash) {front : Plan} (rest : Plan) {specs : List EnsureAta}
    {s : EnsureAta} (hnodup : (specs.map (EnsureAta.ataAddress h)).Nodup) (hs : s ∈ specs)
    (hfront : ∀ l ∈ front, ¬ IsCreateIdempotent l) (hrest : ∀ l ∈ rest, ¬ IsCreateIdempotent l) :
    ∃ i, i < (front ++ specs.map (EnsureAta.toLabeledIx h)).length ∧
      OnlyAt (Creates (s.ataAddress h)) (front ++ specs.map (EnsureAta.toLabeledIx h) ++ rest) i ∧
      (front ++ specs.map (EnsureAta.toLabeledIx h) ++ rest)[i]? = some (s.toLabeledIx h) := by
  obtain ⟨before, after, rfl⟩ := List.append_of_mem hs
  -- every other specification is of another account
  have hother : ∀ t ∈ before ++ after, t.ataAddress h ≠ s.ataAddress h := by
    intro t ht heq
    rw [List.map_append, List.map_cons, List.nodup_middle, List.nodup_cons, ← List.map_append]
      at hnodup
    exact hnodup.1 (heq ▸ List.mem_map_of_mem ht)
  have hmap : ∀ ts : List EnsureAta, (∀ t ∈ ts, t ∈ before ++ after) →
      ∀ l ∈ ts.map (EnsureAta.toLabeledIx h), ¬ Creates (s.ataAddress h) l := by
    intro ts hts l hl hcreates
    obtain ⟨t, ht, rfl⟩ := List.mem_map.1 hl
    exact hother t (hts t ht) (Option.some.inj hcreates.2)
  have hsplit : front ++ (before ++ s :: after).map (EnsureAta.toLabeledIx h) ++ rest =
      (front ++ before.map (EnsureAta.toLabeledIx h)) ++
        s.toLabeledIx h :: (after.map (EnsureAta.toLabeledIx h) ++ rest) := by
    simp
  refine ⟨(front ++ before.map (EnsureAta.toLabeledIx h)).length, ?_, ?_, ?_⟩
  · simp
  · rw [hsplit]
    refine OnlyAt.of_append_cons (creates_toLabeledIx h s) (fun l hl hcreates => ?_)
      fun l hl hcreates => ?_
    · rcases List.mem_append.1 hl with hl | hl
      · exact hfront l hl hcreates.1
      · exact hmap before (fun t ht => List.mem_append_left _ ht) l hl hcreates
    · rcases List.mem_append.1 hl with hl | hl
      · exact hmap after (fun t ht => List.mem_append_right _ ht) l hl hcreates
      · exact hrest l hl hcreates.1
  · rw [hsplit, List.getElem?_append_right (Nat.le_refl _), Nat.sub_self]
    rfl

/-- Before the token accounts a plan has its budget and the refreshes. -/
lemma not_isCreateIdempotent_of_mem_front (p : KaminoTxBuildParams) :
    ∀ l ∈ computeBudgetIxs p.cuLimit p.cuPrice ++ p.refreshIxs, ¬ IsCreateIdempotent l := by
  intro l hl
  rcases List.mem_append.1 hl with hbudget | hrefresh
  · have hprograms : Programs.computeBudget ≠ Programs.associatedToken := by decide
    intro hkind
    rcases List.mem_pair.1 hbudget with rfl | rfl <;> exact hprograms hkind.1
  · rcases List.mem_append.1 hrefresh with hreserve | hobligation
    · obtain ⟨reserve, -, rfl⟩ := List.mem_map.1 hreserve
      exact not_isCreateIdempotent_of_klend (p.isRefreshReserve_refreshReserveIx reserve).1
    · obtain rfl := List.mem_singleton.1 hobligation
      exact not_isCreateIdempotent_of_klend rfl

/-- The three token accounts of a plan: where liquidity is repaid from, where collateral goes,
and where the withdrawn liquidity goes. -/
structure TokenAccounts where
  liquidity : EnsureAta
  collateral : EnsureAta
  destination : EnsureAta

def TokenAccounts.toList (t : TokenAccounts) : List EnsureAta :=
  [t.liquidity, t.collateral, t.destination]

/-- The derivation is injective on the three: equal addresses come from equal owner, mint and
token program. -/
def TokenAccounts.ToldApart (h : PdaHash) (t : TokenAccounts) : Prop :=
  ∀ s ∈ t.toList, ∀ s' ∈ t.toList, s.ataAddress h = s'.ataAddress h → s = s'

/-- The plan uses the three accounts, and creates those that the filter admits: each once,
before position `stop`, with its own owner, mint and token program.  It creates no other. -/
structure CreatesUsed (h : PdaHash) (t : TokenAccounts) (filter : Option (List Pubkey))
    (plan : Plan) (stop : ℕ) : Prop where
  borrow : ∀ l ∈ plan, IsFlashBorrow l → l.ix.accountAt 6 = some (t.liquidity.ataAddress h)
  liquidate : ∀ l ∈ plan, IsLiquidateV2 l →
    l.ix.accountAt 13 = some (t.liquidity.ataAddress h) ∧
      l.ix.accountAt 14 = some (t.collateral.ataAddress h) ∧
      l.ix.accountAt 15 = some (t.destination.ataAddress h)
  repay : ∀ l ∈ plan, IsFlashRepay l → l.ix.accountAt 6 = some (t.liquidity.ataAddress h)
  once : ∀ s ∈ t.toList, Admits filter (s.ataAddress h) = true →
    ∃ i < stop, OnlyAt (Creates (s.ataAddress h)) plan i ∧
      plan[i]? = some (s.toLabeledIx h)
  only : ∀ l ∈ plan, IsCreateIdempotent l →
    ∃ s ∈ t.toList, Admits filter (s.ataAddress h) = true ∧ Creates (s.ataAddress h) l

/-! ## After a live decode

The set of a decoded obligation names the three accounts by the mints and token programs of its
two reserves. -/

section Live

variable (h : PdaHash) (address liquidator : Pubkey) (positions : LiveObligationPositions)
  (repay withdraw : LiveReserveVaults) (authority : Pubkey)
  (overlay : List RefreshReserveAccounts) (filter : Option (List Pubkey)) (amount : UInt64)

/-- The liquidator's accounts for the mints of the two reserves. -/
def liveTokenAccounts (liquidator : Pubkey) (repay withdraw : LiveReserveVaults) :
    TokenAccounts where
  liquidity := ⟨liquidator, liquidator, repay.liquidityMint, PlanAccountSet.tokenProgramOf repay⟩
  collateral :=
    ⟨liquidator, liquidator, withdraw.collateralMint, PlanAccountSet.tokenProgramOf withdraw⟩
  destination :=
    ⟨liquidator, liquidator, withdraw.liquidityMint, PlanAccountSet.tokenProgramOf withdraw⟩

lemma liquidatorEnsureAtas_live :
    (shadowSet h address liquidator positions repay withdraw authority overlay
      filter).liquidatorEnsureAtas h =
      keepFirst (EnsureAta.ataAddress h) (Admits filter) []
        (liveTokenAccounts liquidator repay withdraw).toList :=
  ensureAtasFrom_eq_keepFirst h filter _ []

variable {h address liquidator positions repay withdraw authority overlay filter amount}

/-- What is created where the derivation tells the accounts apart. -/
lemma mem_liquidatorEnsureAtas_live
    (hinj : (liveTokenAccounts liquidator repay withdraw).ToldApart h) {s : EnsureAta} :
    s ∈ (shadowSet h address liquidator positions repay withdraw authority overlay
        filter).liquidatorEnsureAtas h ↔
      s ∈ (liveTokenAccounts liquidator repay withdraw).toList ∧
        Admits filter (s.ataAddress h) = true := by
  rw [liquidatorEnsureAtas_live]
  constructor
  · intro hs
    exact ⟨mem_of_mem_keepFirst hs, (mem_keys_keepFirst.1 (List.mem_map_of_mem hs)).2.2⟩
  · rintro ⟨hs, hadmits⟩
    obtain ⟨s', hs', heq⟩ := List.mem_map.1 (mem_keys_keepFirst.2
      ⟨List.mem_map_of_mem hs, List.not_mem_nil, hadmits⟩)
    exact hinj s' (mem_of_mem_keepFirst hs') s hs heq ▸ hs'

/-- Wherever the token accounts stand in a plan that creates nothing else. -/
lemma once_and_only
    (hinj : (liveTokenAccounts liquidator repay withdraw).ToldApart h)
    (plan : Plan) {front rest : Plan} {stop : ℕ}
    (hplan : plan = front ++ ((shadowSet h address liquidator positions repay withdraw authority
      overlay filter).liquidatorEnsureAtas h).map (EnsureAta.toLabeledIx h) ++ rest)
    (hstop : stop = (front ++ ((shadowSet h address liquidator positions repay withdraw authority
      overlay filter).liquidatorEnsureAtas h).map (EnsureAta.toLabeledIx h)).length)
    (hfront : ∀ l ∈ front, ¬ IsCreateIdempotent l) (hrest : ∀ l ∈ rest, ¬ IsCreateIdempotent l) :
    (∀ s ∈ (liveTokenAccounts liquidator repay withdraw).toList,
      Admits filter (s.ataAddress h) = true →
        ∃ i < stop, OnlyAt (Creates (s.ataAddress h)) plan i ∧
          plan[i]? = some (s.toLabeledIx h)) ∧
    ∀ l ∈ plan, IsCreateIdempotent l →
      ∃ s ∈ (liveTokenAccounts liquidator repay withdraw).toList,
        Admits filter (s.ataAddress h) = true ∧ Creates (s.ataAddress h) l := by
  refine ⟨fun s hs hadmits => ?_, fun l hl hkind => ?_⟩
  · have hnodup : (((shadowSet h address liquidator positions repay withdraw authority overlay
        filter).liquidatorEnsureAtas h).map (EnsureAta.ataAddress h)).Nodup := by
      rw [liquidatorEnsureAtas_live]
      exact nodup_keys_keepFirst _ _
    obtain ⟨i, hi, honly, hget⟩ := onlyAt_creates h rest hnodup
      ((mem_liquidatorEnsureAtas_live hinj).2 ⟨hs, hadmits⟩) hfront hrest
    rw [hplan, hstop]
    exact ⟨i, hi, honly, hget⟩
  · rw [hplan] at hl
    rcases List.mem_append.1 hl with hl | hl
    · rcases List.mem_append.1 hl with hl | hl
      · exact absurd hkind (hfront l hl)
      · obtain ⟨s, hs, rfl⟩ := List.mem_map.1 hl
        obtain ⟨hmem, hadmits⟩ := (mem_liquidatorEnsureAtas_live hinj).1 hs
        exact ⟨s, hmem, hadmits, creates_toLabeledIx h s⟩
    · exact absurd hkind (hrest l hl)

variable (address positions authority overlay filter amount)

/-- The flash plan uses and creates the liquidator's accounts before its borrow. -/
lemma createsUsed_flash
    (hinj : (liveTokenAccounts liquidator repay withdraw).ToldApart h) :
    let set := shadowSet h address liquidator positions repay withdraw authority overlay filter
    let p := set.kaminoParams h set.flashReserves amount (some set.kaminoFlashPair)
    CreatesUsed h (liveTokenAccounts liquidator repay withdraw) filter
      (flashHead h p set.kaminoFlashPair.1 ++ [flashLast h p set.kaminoFlashPair.2])
      (p.preludeIxs h).length := by
  intro set p
  have hprelude : p.preludeIxs h = computeBudgetIxs p.cuLimit p.cuPrice ++ p.refreshIxs ++
      (set.liquidatorEnsureAtas h).map (EnsureAta.toLabeledIx h) := by
    rw [KaminoTxBuildParams.preludeIxs, ensureAtaIxs_eq_map]
  have hrest : ∀ l ∈ flashBorrowIx set.kaminoFlashPair.1 p.liquidityAmount ::
      (p.postFlashRefreshIxs set.kaminoFlashPair.1.reserve ++
        [p.liquidateIx, flashLast h p set.kaminoFlashPair.2]), ¬ IsCreateIdempotent l := by
    intro l hl
    rcases List.mem_cons.1 hl with rfl | hl
    · exact not_isCreateIdempotent_of_klend rfl
    · rcases List.mem_append.1 hl with hpost | htail
      · exact (isPreparation_of_mem_postFlashRefreshIxs p set.kaminoFlashPair.1 hpost).2
      · rcases List.mem_pair.1 htail with rfl | rfl
        · exact not_isCreateIdempotent_of_klend rfl
        · exact not_isCreateIdempotent_of_klend rfl
  obtain ⟨honce, honly⟩ := once_and_only hinj
    (flashHead h p set.kaminoFlashPair.1 ++ [flashLast h p set.kaminoFlashPair.2])
    (by rw [skeleton_at_borrow, hprelude]) (congrArg List.length hprelude)
    (not_isCreateIdempotent_of_mem_front p) hrest
  refine ⟨fun l hl hkind => ?_, fun l hl hkind => ?_, fun l hl hkind => ?_, honce, honly⟩
  · obtain rfl := (kinds_flash h p _ _ hl).1 hkind
    rfl
  · obtain rfl := (kinds_flash h p _ _ hl).2.1 hkind
    exact ⟨rfl, rfl, rfl⟩
  · obtain rfl := (kinds_flash h p _ _ hl).2.2 hkind
    rfl

/-- So does the inventory plan, before its liquidation. -/
lemma createsUsed_inventory
    (hinj : (liveTokenAccounts liquidator repay withdraw).ToldApart h) :
    let set := shadowSet h address liquidator positions repay withdraw authority overlay filter
    let p := set.kaminoParams h set.inventoryReserves amount none
    OnlyAt IsLiquidateV2 (p.preludeIxs h ++ [p.liquidateIx]) (p.preludeIxs h).length ∧
      CreatesUsed h (liveTokenAccounts liquidator repay withdraw) filter
        (p.preludeIxs h ++ [p.liquidateIx]) (p.preludeIxs h).length := by
  intro set p
  have hprelude : p.preludeIxs h = computeBudgetIxs p.cuLimit p.cuPrice ++ p.refreshIxs ++
      (set.liquidatorEnsureAtas h).map (EnsureAta.toLabeledIx h) := by
    rw [KaminoTxBuildParams.preludeIxs, ensureAtaIxs_eq_map]
  have hrest : ∀ l ∈ [p.liquidateIx], ¬ IsCreateIdempotent l := by
    intro l hl
    obtain rfl := List.mem_singleton.1 hl
    exact not_isCreateIdempotent_of_klend rfl
  obtain ⟨honce, honly⟩ := once_and_only hinj (p.preludeIxs h ++ [p.liquidateIx])
    (by rw [hprelude]) (congrArg List.length hprelude)
    (not_isCreateIdempotent_of_mem_front p) hrest
  have hliquidate : OnlyAt IsLiquidateV2 (p.preludeIxs h ++ [p.liquidateIx])
      (p.preludeIxs h).length :=
    OnlyAt.of_append_cons p.isLiquidateV2_liquidateIx
      (fun l hl => (p.isPreparation_of_mem_preludeIxs h hl).2.1)
      fun l hl => absurd hl List.not_mem_nil
  refine ⟨hliquidate, fun l hl hkind => ?_, fun l hl hkind => ?_, fun l hl hkind => ?_, honce,
    honly⟩
  · exact absurd hkind (kinds_inventory h p hl).1
  · obtain rfl := (kinds_inventory h p hl).2.2 hkind
    exact ⟨rfl, rfl, rfl⟩
  · exact absurd hkind (kinds_inventory h p hl).2.1

end Live

/-- **Each token account used is created once, in time, and no other is.**  For every account
set of a decoded obligation and every filter: the borrow, the liquidation and the repay use the
liquidator's accounts of the repay mint, the collateral mint and the withdraw mint, each under
its own token program; those the filter admits are created before the borrow and before the
liquidation, each by one instruction.  The derivation only has to tell the three apart. -/
theorem live_token_accounts_created (h : PdaHash) {liquidator : Pubkey}
    {repay withdraw : LiveReserveVaults}
    (hinj : (liveTokenAccounts liquidator repay withdraw).ToldApart h)
    (address : Pubkey) (positions : LiveObligationPositions) (authority : Pubkey)
    (overlay : List RefreshReserveAccounts) (filter : Option (List Pubkey)) (amount : UInt64)
    (blob : JupiterQuoteBlob) :
    let set := shadowSet h address liquidator positions repay withdraw authority overlay filter
    let t := liveTokenAccounts liquidator repay withdraw
    (set.userLiquidity = t.liquidity.ataAddress h ∧
      set.userCollateral = t.collateral.ataAddress h ∧
      set.userDestinationLiquidity = some (t.destination.ataAddress h)) ∧
    (∃ head last i j,
      (buildStrategyIxs h .kamino .kaminoFlashBorrow set amount blob).labeled =
        head ++ blob.instructions ++ [last] ∧
      OnlyAt IsFlashBorrow (head ++ [last]) i ∧ OnlyAt IsLiquidateV2 (head ++ [last]) j ∧
      i < j ∧ CreatesUsed h t filter (head ++ [last]) i) ∧
    ∃ head j,
      (buildStrategyIxs h .kamino .inventory set amount blob).labeled =
        head ++ blob.instructions ∧
      OnlyAt IsLiquidateV2 head j ∧ CreatesUsed h t filter head j := by
  intro set t
  refine ⟨⟨rfl, rfl, rfl⟩, ?_, ?_⟩
  · let p := set.kaminoParams h set.flashReserves amount (some set.kaminoFlashPair)
    refine ⟨flashHead h p set.kaminoFlashPair.1, flashLast h p set.kaminoFlashPair.2,
      (p.preludeIxs h).length, liquidatePos h p set.kaminoFlashPair.1, ?_,
      onlyAt_flashBorrow h p _ _, onlyAt_liquidate h p _ _, ?_,
      createsUsed_flash address positions authority overlay filter amount hinj⟩
    · show (buildFlashTx h p blob.instructions).getD [] = _
      rw [buildFlashTx_eq h p set.kaminoFlashPair.1 set.kaminoFlashPair.2 rfl, Option.getD_some]
    · rw [liquidatePos]
      omega
  · let q := set.kaminoParams h set.inventoryReserves amount none
    obtain ⟨hliquidate, hcreates⟩ := createsUsed_inventory address positions authority
      overlay filter amount hinj
    exact ⟨q.preludeIxs h ++ [q.liquidateIx], (q.preludeIxs h).length, rfl, hliquidate, hcreates⟩

lemma toldApart_mintHash :
    (liveTokenAccounts (Pubkey.test 2 1) (sampleVaults 3) (sampleVaults 1)).ToldApart
      mintHash := by
  unfold TokenAccounts.ToldApart
  decide +kernel

/-- Three mints, and a filter that admits the account of the collateral mint alone. -/
theorem three_mints_token_accounts_created :
    let t := liveTokenAccounts (Pubkey.test 2 1) (sampleVaults 3) (sampleVaults 1)
    let filter := some [t.collateral.ataAddress mintHash]
    let set := shadowSet mintHash (Pubkey.test 1 1) (Pubkey.test 2 1) threeReservesPositions
      (sampleVaults 3) (sampleVaults 1) (Pubkey.test 2 2) [] filter
    (set.userLiquidity = t.liquidity.ataAddress mintHash ∧
      set.userCollateral = t.collateral.ataAddress mintHash ∧
      set.userDestinationLiquidity = some (t.destination.ataAddress mintHash)) ∧
    (∃ head last i j,
      (buildStrategyIxs mintHash .kamino .kaminoFlashBorrow set 1000000
        JupiterQuoteBlob.default).labeled = head ++ [] ++ [last] ∧
      OnlyAt IsFlashBorrow (head ++ [last]) i ∧ OnlyAt IsLiquidateV2 (head ++ [last]) j ∧
      i < j ∧ CreatesUsed mintHash t filter (head ++ [last]) i) ∧
    ∃ head j,
      (buildStrategyIxs mintHash .kamino .inventory set 1000000
        JupiterQuoteBlob.default).labeled = head ++ [] ∧
      OnlyAt IsLiquidateV2 head j ∧ CreatesUsed mintHash t filter head j :=
  live_token_accounts_created mintHash toldApart_mintHash (Pubkey.test 1 1)
    threeReservesPositions (Pubkey.test 2 2) [] _ 1000000 JupiterQuoteBlob.default

end Grokbotliq.Execution
