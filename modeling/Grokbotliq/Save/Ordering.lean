import Grokbotliq.Kamino.Refresh
import Grokbotliq.Save.Flash

/-!
# RefreshReserve → RefreshObligation → Liquidate

The canonical liquidation on Save collects the reserves it refreshes in a third loop.  The three
collect the same list (`refresh_lists_agree`).

The other two loops are those of the Kamino adapter, in `Kamino/Refresh.lean`; each collects the
first occurrences, and there is one such list (`FirstSeen.unique`).
-/

namespace Grokbotliq

namespace Save

structure SaveLiquidationPlan where
  labels : List String
  datas : List (List UInt8)
  reservesRefreshed : List Pubkey
  obligation : Pubkey
  liquidityAmount : UInt64

/-- The canonical Save liquidation. -/
def buildLiquidationPlan (obligation : Pubkey) (depositReserves borrowReserves : List Pubkey)
    (liquidityAmount : UInt64) : SaveLiquidationPlan :=
  let (_, reserves) := (depositReserves ++ borrowReserves).foldl pushUnseen ([], [])
  { labels := reserves.map (fun _ => "RefreshReserve") ++
      ["RefreshObligation", "LiquidateObligationAndRedeemReserveCollateral"]
    datas := reserves.map (fun _ => encodeRefreshReserve) ++
      [encodeRefreshObligation, encodeLiquidateAndRedeem liquidityAmount]
    reservesRefreshed := reserves
    obligation := obligation
    liquidityAmount := liquidityAmount }

/-- The instructions of the plan, with their labels. -/
def SaveLiquidationPlan.steps (plan : SaveLiquidationPlan) : List (String × List UInt8) :=
  plan.labels.zip plan.datas

variable (obligation : Pubkey) (depositReserves borrowReserves : List Pubkey)
  (liquidityAmount : UInt64)

lemma firstSeen_reservesRefreshed :
    FirstSeen (depositReserves ++ borrowReserves)
      (buildLiquidationPlan obligation depositReserves borrowReserves
        liquidityAmount).reservesRefreshed :=
  firstSeen_pushUnseen _

lemma refreshesFirst_buildLiquidationPlan :
    RefreshesFirst (fun _ => ("RefreshReserve", encodeRefreshReserve))
      ("RefreshObligation", encodeRefreshObligation)
      (buildLiquidationPlan obligation depositReserves borrowReserves
        liquidityAmount).reservesRefreshed
      (buildLiquidationPlan obligation depositReserves borrowReserves liquidityAmount).steps := by
  rw [RefreshesFirst, SaveLiquidationPlan.steps, buildLiquidationPlan, List.zip_append (by simp),
    List.zip_map']
  exact (List.prefix_append_right_inj _).2 (List.prefix_append _ _)

end Save

/-- **The three loops collect the same reserves**, each reserve of the obligation once and in the
order of its first occurrence, and every plan refreshes them all before the obligation. -/
theorem refresh_lists_agree (obligation : Pubkey) (depositReserves borrowReserves : List Pubkey)
    (liquidityAmount : UInt64) (p : Kamino.KaminoTxBuildParams) :
    let plan := Kamino.buildRefreshPlan obligation depositReserves borrowReserves
    let tx := p.forReserves depositReserves borrowReserves
    let save := Save.buildLiquidationPlan obligation depositReserves borrowReserves liquidityAmount
    (FirstSeen (depositReserves ++ borrowReserves) plan.reserveOrder ∧
      tx.uniqueRefreshReserveKeys = plan.reserveOrder ∧
      save.reservesRefreshed = plan.reserveOrder) ∧
    RefreshesFirst (fun _ => ("refresh_reserve", Kamino.encodeRefreshReserve))
      ("refresh_obligation", Kamino.encodeRefreshObligation) plan.reserveOrder plan.steps ∧
    RefreshesFirst tx.refreshReserveIx (tx.refreshObligationIx plan.reserveOrder)
      plan.reserveOrder tx.refreshIxs ∧
    RefreshesFirst (fun _ => ("RefreshReserve", Save.encodeRefreshReserve))
      ("RefreshObligation", Save.encodeRefreshObligation) plan.reserveOrder save.steps := by
  intro plan tx save
  have hplan := Kamino.firstSeen_reserveOrder obligation depositReserves borrowReserves
  have htx : tx.uniqueRefreshReserveKeys = plan.reserveOrder :=
    (p.firstSeen_uniqueRefreshReserveKeys depositReserves borrowReserves).unique hplan
  have hsave : save.reservesRefreshed = plan.reserveOrder :=
    (Save.firstSeen_reservesRefreshed obligation depositReserves borrowReserves
      liquidityAmount).unique hplan
  refine ⟨⟨hplan, htx, hsave⟩, ?_, ?_, ?_⟩
  · exact Kamino.refreshesFirst_buildRefreshPlan obligation depositReserves borrowReserves
  · rw [← htx]
    exact tx.refreshesFirst_refreshIxs
  · rw [← hsave]
    exact Save.refreshesFirst_buildLiquidationPlan obligation depositReserves borrowReserves
      liquidityAmount

end Grokbotliq
