import Grokbotliq.Framework.Positions
import Grokbotliq.Save.Flash

/-!
# Save refreshes and the SDK's layouts

The vendored `solend_sdk` lists, for a `RefreshReserve`, the reserve and its two oracles, and
for a `RefreshObligation` the obligation and every reserve it has a deposit in or a borrow
from.  The plan lists the reserve alone and the obligation alone, so it matches only where
there is nothing to list (`matchesSdk_iff`).

The comparison is by the number of accounts: one in each refresh of the plan, and in the SDK's as
many as there are oracles and reserves to name.  The swaps are not the plan's own, so the
statement is about the instructions around them.
-/

namespace Grokbotliq.Save

namespace Sdk

/-- `refresh_reserve` of the SDK. -/
def refreshReserve (programId reservePubkey reserveLiquidityPythOraclePubkey
    reserveLiquiditySwitchboardOraclePubkey : Pubkey) : Instruction where
  programId := programId
  accounts := [
    .new reservePubkey false,
    .newReadonly reserveLiquidityPythOraclePubkey false,
    .newReadonly reserveLiquiditySwitchboardOraclePubkey false]
  data := [3]

/-- `refresh_obligation` of the SDK. -/
def refreshObligation (programId obligationPubkey : Pubkey) (reservePubkeys : List Pubkey) :
    Instruction where
  programId := programId
  accounts := .new obligationPubkey false :: reservePubkeys.map fun k => .newReadonly k false
  data := [7]

end Sdk

def IsRefreshReserve (l : LabeledIx) : Prop := l.ix.IsCall Programs.save [SaveIx.refreshReserve]

def IsRefreshObligation (l : LabeledIx) : Prop :=
  l.ix.IsCall Programs.save [SaveIx.refreshObligation]

/-- The refreshes of a plan are the SDK's: each `RefreshReserve` lists a reserve and its two
oracles, each `RefreshObligation` the obligation and then its deposit and its borrow reserves,
all refreshed earlier. -/
structure MatchesSdk (oracles : Pubkey → Pubkey × Pubkey) (obligation : Pubkey)
    (depositReserves borrowReserves : List Pubkey) (plan : Plan) : Prop where
  reserves : ∀ l ∈ plan, IsRefreshReserve l → ∃ reserve,
    l.ix = Sdk.refreshReserve Programs.save reserve (oracles reserve).1 (oracles reserve).2
  obligations : Preceded (fun before l => IsRefreshObligation l →
    l.ix = Sdk.refreshObligation Programs.save obligation (depositReserves ++ borrowReserves) ∧
      ∀ reserve ∈ depositReserves ++ borrowReserves,
        ∃ r ∈ before, IsRefreshReserve r ∧ r.ix.accountAt 0 = some reserve) plan

/-! ## The instructions of the plan -/

lemma isRefreshReserve_refreshReserveIx (reserve : Pubkey) :
    IsRefreshReserve (refreshReserveIx reserve) := ⟨rfl, List.prefix_refl _⟩

lemma isRefreshObligation_refreshObligationIx (obligation : Pubkey) :
    IsRefreshObligation (refreshObligationIx obligation) := ⟨rfl, List.prefix_refl _⟩

/-- Neither refresh. -/
def IsNoRefresh (l : LabeledIx) : Prop := ¬ IsRefreshReserve l ∧ ¬ IsRefreshObligation l

lemma isNoRefresh_of_tag (tag : UInt8) {l : LabeledIx} (h : l.ix.IsCall Programs.save [tag])
    (hreserve : tag ≠ SaveIx.refreshReserve) (hobligation : tag ≠ SaveIx.refreshObligation) :
    IsNoRefresh l :=
  ⟨fun hl => hreserve (List.singleton_inj.1 (h.tag_eq hl rfl)),
    fun hl => hobligation (List.singleton_inj.1 (h.tag_eq hl rfl))⟩

lemma isNoRefresh_of_mem_computeBudgetIxs {limit : UInt32} {price : UInt64} {l : LabeledIx}
    (hl : l ∈ computeBudgetIxs limit price) : IsNoRefresh l := by
  have hprograms : Programs.computeBudget ≠ Programs.save := by decide
  rcases List.mem_pair.1 hl with rfl | rfl
  · exact ⟨fun hcall => hprograms hcall.1, fun hcall => hprograms hcall.1⟩
  · exact ⟨fun hcall => hprograms hcall.1, fun hcall => hprograms hcall.1⟩

section Plan

variable (accounts : SaveFlashPlanAccounts) (amount : UInt64) (cuLimit : UInt32)
  (cuPrice : UInt64)

/-- What stands before the swaps. -/
def flashHead : Plan :=
  preludeIxs accounts.obligation accounts.refreshReserves cuLimit cuPrice ++
    [⟨"FlashBorrowReserveLiquidity", accounts.flashBorrow.buildIx amount⟩,
      liquidateIx accounts.liquidate amount]

/-- What stands after the swaps. -/
def flashLast : LabeledIx :=
  ⟨"FlashRepayReserveLiquidity", accounts.flashRepay.buildIx amount (UInt8.ofNat
    (preludeIxs accounts.obligation accounts.refreshReserves cuLimit cuPrice).length)⟩

lemma labeled_buildFlashAtomicPlan (swaps : List LabeledIx) :
    (buildFlashAtomicPlan accounts amount swaps cuLimit cuPrice).labeled =
      flashHead accounts amount cuLimit cuPrice ++ swaps ++
        [flashLast accounts amount cuLimit cuPrice] := by
  simp [buildFlashAtomicPlan, flashHead, flashLast]

/-- The three calls that move funds. -/
lemma isNoRefresh_tail :
    ∀ l ∈ [⟨"FlashBorrowReserveLiquidity", accounts.flashBorrow.buildIx amount⟩,
        liquidateIx accounts.liquidate amount, flashLast accounts amount cuLimit cuPrice],
      IsNoRefresh l := by
  intro l hl
  simp only [List.mem_cons, List.not_mem_nil, or_false] at hl
  rcases hl with rfl | rfl | rfl
  · exact isNoRefresh_of_tag flashBorrowTag ⟨rfl, List.prefix_append [_] _⟩ (by decide) (by decide)
  · exact isNoRefresh_of_tag SaveIx.liquidateObligationAndRedeemReserveCollateral
      ⟨rfl, List.prefix_append [_] _⟩ (by decide) (by decide)
  · exact isNoRefresh_of_tag flashRepayTag ⟨rfl, List.prefix_append [_] _⟩ (by decide) (by decide)

/-- The plan without the swaps: budget, refreshes of reserves, refresh of the obligation, and
the three calls. -/
lemma own_eq :
    flashHead accounts amount cuLimit cuPrice ++ [flashLast accounts amount cuLimit cuPrice] =
      (computeBudgetIxs cuLimit cuPrice ++ accounts.refreshReserves.map refreshReserveIx) ++
        refreshObligationIx accounts.obligation ::
          [⟨"FlashBorrowReserveLiquidity", accounts.flashBorrow.buildIx amount⟩,
            liquidateIx accounts.liquidate amount, flashLast accounts amount cuLimit cuPrice] := by
  simp [flashHead, preludeIxs]

lemma mem_own_cases {l : LabeledIx}
    (hl : l ∈ flashHead accounts amount cuLimit cuPrice ++
      [flashLast accounts amount cuLimit cuPrice]) :
    IsNoRefresh l ∨ (∃ reserve ∈ accounts.refreshReserves, l = refreshReserveIx reserve) ∨
      l = refreshObligationIx accounts.obligation := by
  rw [own_eq] at hl
  rcases List.mem_append.1 hl with hfront | hback
  · rcases List.mem_append.1 hfront with hbudget | hreserve
    · exact Or.inl (isNoRefresh_of_mem_computeBudgetIxs hbudget)
    · obtain ⟨reserve, hmem, rfl⟩ := List.mem_map.1 hreserve
      exact Or.inr (Or.inl ⟨reserve, hmem, rfl⟩)
  · rcases List.mem_cons.1 hback with rfl | htail
    · exact Or.inr (Or.inr rfl)
    · exact Or.inl (isNoRefresh_tail accounts amount cuLimit cuPrice l htail)

/-- A `RefreshReserve` of the plan is one account long, the SDK's is three. -/
lemma refreshReserveIx_ne_sdk (reserve reserve' pyth switchboard : Pubkey) :
    (refreshReserveIx reserve).ix ≠
      Sdk.refreshReserve Programs.save reserve' pyth switchboard := by
  intro heq
  have hlen : 1 = 3 := congrArg (fun ix => ix.accounts.length) heq
  omega

/-- A `RefreshObligation` of the plan is the SDK's for an obligation without reserves. -/
lemma refreshObligationIx_eq_sdk_iff (obligation : Pubkey) (reserves : List Pubkey) :
    (refreshObligationIx obligation).ix =
      Sdk.refreshObligation Programs.save obligation reserves ↔ reserves = [] := by
  constructor
  · intro heq
    have hlen := congrArg (fun ix => ix.accounts.length) heq
    simp only [refreshObligationIx, Sdk.refreshObligation, List.length_cons, List.length_map,
      List.length_nil] at hlen
    exact List.length_eq_zero_iff.1 (by omega)
  · rintro rfl
    rfl

/-- **When the refreshes of a Save flash plan are the SDK's**: only where no reserve is
refreshed and the obligation has neither deposits nor borrows. -/
theorem matchesSdk_iff (swaps : List LabeledIx) (oracles : Pubkey → Pubkey × Pubkey)
    (depositReserves borrowReserves : List Pubkey) :
    ∃ head last,
      (buildFlashAtomicPlan accounts amount swaps cuLimit cuPrice).labeled =
        head ++ swaps ++ [last] ∧
      (MatchesSdk oracles accounts.obligation depositReserves borrowReserves (head ++ [last]) ↔
        accounts.refreshReserves = [] ∧ depositReserves = [] ∧ borrowReserves = []) := by
  refine ⟨flashHead accounts amount cuLimit cuPrice, flashLast accounts amount cuLimit cuPrice,
    labeled_buildFlashAtomicPlan accounts amount cuLimit cuPrice swaps, ?_⟩
  constructor
  -- A refresh of a reserve never is the SDK's; that of the obligation is, without reserves.
  · intro hmatches
    refine ⟨List.eq_nil_iff_forall_not_mem.2 fun reserve hreserve => ?_, ?_⟩
    · have hmem : refreshReserveIx reserve ∈ flashHead accounts amount cuLimit cuPrice ++
          [flashLast accounts amount cuLimit cuPrice] := by
        rw [own_eq]
        exact List.mem_append_left _ (List.mem_append_right _ (List.mem_map_of_mem hreserve))
      obtain ⟨_, heq⟩ :=
        hmatches.reserves _ hmem (isRefreshReserve_refreshReserveIx reserve)
      exact refreshReserveIx_ne_sdk _ _ _ _ heq
    · have hat := hmatches.obligations _ (refreshObligationIx accounts.obligation)
        (by rw [own_eq, List.getElem?_append_right (Nat.le_refl _), Nat.sub_self]; rfl)
        (isRefreshObligation_refreshObligationIx _)
      exact List.append_eq_nil_iff.1 ((refreshObligationIx_eq_sdk_iff _ _).1 hat.1)
  · rintro ⟨hreserves, rfl, rfl⟩
    refine ⟨fun l hl hkind => ?_, fun i l hi hkind => ?_⟩
    · rcases mem_own_cases accounts amount cuLimit cuPrice hl with hno | ⟨reserve, hmem, -⟩ | rfl
      · exact absurd hkind hno.1
      · rw [hreserves] at hmem
        exact absurd hmem List.not_mem_nil
      · exact absurd (hkind.tag_eq (isRefreshObligation_refreshObligationIx _) rfl) (by decide)
    · rcases mem_own_cases accounts amount cuLimit cuPrice (List.mem_of_getElem? hi) with
        hno | ⟨reserve, hmem, -⟩ | rfl
      · exact absurd hkind hno.2
      · rw [hreserves] at hmem
        exact absurd hmem List.not_mem_nil
      · exact ⟨rfl, fun reserve hmem => absurd hmem List.not_mem_nil⟩

end Plan

/-- The accounts of a plan that refreshes two reserves. -/
def twoReserves : SaveFlashPlanAccounts where
  flashBorrow := ⟨.test 7 1, .test 7 2, .test 7 3, .test 7 4, .test 7 5⟩
  liquidate := ⟨.test 7 2, .test 7 10, .test 7 11, .test 7 3, .test 7 12, .test 7 13, .test 7 14,
    .test 7 15, .test 7 16, .test 7 17, .test 7 18, .test 7 4, .test 7 5, .test 7 19⟩
  flashRepay := ⟨.test 7 2, .test 7 1, .test 7 20, .test 7 21, .test 7 3, .test 7 4, .test 7 19⟩
  refreshReserves := [.test 7 3, .test 7 13]
  obligation := .test 7 18

/-- Both refreshes of reserves list one account, and the refresh of an obligation with a deposit
in the one reserve and a borrow from the other lists the obligation alone. -/
theorem twoReserves_refreshes_short :
    ∃ head last,
      (buildFlashAtomicPlan twoReserves 1000000 [] 400000 1000).labeled = head ++ [last] ∧
      ((head ++ [last]).map fun l => l.ix.accounts.length).take 5 = [0, 0, 1, 1, 1] ∧
      ∀ oracles, ¬ MatchesSdk oracles twoReserves.obligation [.test 7 13] [.test 7 3]
        (head ++ [last]) := by
  refine ⟨flashHead twoReserves 1000000 400000 1000, flashLast twoReserves 1000000 400000 1000,
    ?_, ?_, fun oracles hmatches => ?_⟩
  · rw [labeled_buildFlashAtomicPlan, List.append_nil]
  · rw [own_eq]
    rfl
  · have hmem : refreshReserveIx (.test 7 3) ∈ flashHead twoReserves 1000000 400000 1000 ++
        [flashLast twoReserves 1000000 400000 1000] :=
      List.mem_of_getElem? (i := 2) rfl
    obtain ⟨_, heq⟩ := hmatches.reserves _ hmem (isRefreshReserve_refreshReserveIx _)
    exact refreshReserveIx_ne_sdk _ _ _ _ heq

end Grokbotliq.Save
