import Grokbotliq.Framework.FirstSeen
import Grokbotliq.Kamino.TxBuilder

/-!
# The order of refreshes on Kamino

The reserves of an obligation are refreshed before it, each once.  Two loops collect them: that of
`build_refresh_plan`, which keeps the output apart from what it has seen, and that of the
transaction builder, whose output is what it has seen.

Both orders are the same list, that of first occurrences (`Framework/FirstSeen.lean`).  That a
plan begins with the refreshes and that the obligation follows them is `RefreshesFirst`, of the
plan's own steps and of the instructions of the transaction alike.
-/

namespace Grokbotliq

/-- The steps begin with the refresh of each reserve, and that of the obligation comes next. -/
def RefreshesFirst {β : Type} (refreshReserve : Pubkey → β) (refreshObligation : β)
    (reserves : List Pubkey) (steps : List β) : Prop :=
  reserves.map refreshReserve ++ [refreshObligation] <+: steps

namespace Kamino

structure RefreshPlan where
  reserveOrder : List Pubkey
  obligation : Pubkey
  datas : List (List UInt8)
  labels : List String

/-- Each unique reserve once, then the obligation. -/
def buildRefreshPlan (obligation : Pubkey) (depositReserves borrowReserves : List Pubkey) :
    RefreshPlan :=
  let (_, reserveOrder) := (depositReserves ++ borrowReserves).foldl pushUnseen ([], [])
  { reserveOrder := reserveOrder
    obligation := obligation
    datas := reserveOrder.map (fun _ => encodeRefreshReserve) ++ [encodeRefreshObligation]
    labels := reserveOrder.map (fun _ => "refresh_reserve") ++ ["refresh_obligation"] }

/-- The instructions of the plan, with their labels. -/
def RefreshPlan.steps (plan : RefreshPlan) : List (String × List UInt8) :=
  plan.labels.zip plan.datas

lemma firstSeen_reserveOrder (obligation : Pubkey) (depositReserves borrowReserves : List Pubkey) :
    FirstSeen (depositReserves ++ borrowReserves)
      (buildRefreshPlan obligation depositReserves borrowReserves).reserveOrder :=
  firstSeen_pushUnseen _

lemma refreshesFirst_buildRefreshPlan (obligation : Pubkey)
    (depositReserves borrowReserves : List Pubkey) :
    RefreshesFirst (fun _ => ("refresh_reserve", encodeRefreshReserve))
      ("refresh_obligation", encodeRefreshObligation)
      (buildRefreshPlan obligation depositReserves borrowReserves).reserveOrder
      (buildRefreshPlan obligation depositReserves borrowReserves).steps := by
  rw [RefreshesFirst, RefreshPlan.steps, buildRefreshPlan, List.zip_append (by simp),
    List.zip_map']
  exact List.prefix_rfl

/-! ## In a transaction -/

/-- The loop of the transaction builder, from what it has seen so far. -/
lemma firstSeen_firstOccurrences {done seen : List Pubkey} (h : FirstSeen done seen)
    (ks : List Pubkey) : FirstSeen (done ++ ks) (firstOccurrences seen ks) := by
  induction ks generalizing done seen with
  | nil =>
      rw [List.append_nil]
      exact h
  | cons k ks ih =>
      rw [List.append_cons, firstOccurrences]
      split_ifs with hk
      · exact ih (h.skip hk)
      · exact ih (h.push hk)

namespace KaminoTxBuildParams

variable (p : KaminoTxBuildParams)

/-- The same build for the reserves of another obligation, without an overlay. -/
def forReserves (depositReserves borrowReserves : List Pubkey) : KaminoTxBuildParams :=
  { p with
    depositReserves := depositReserves
    borrowReserves := borrowReserves
    refreshReserves := [] }

lemma firstSeen_uniqueRefreshReserveKeys (depositReserves borrowReserves : List Pubkey) :
    FirstSeen (depositReserves ++ borrowReserves)
      (p.forReserves depositReserves borrowReserves).uniqueRefreshReserveKeys := by
  rw [uniqueRefreshReserveKeys, if_neg fun h => h rfl]
  exact firstSeen_firstOccurrences FirstSeen.nil _

lemma refreshesFirst_refreshIxs :
    RefreshesFirst p.refreshReserveIx (p.refreshObligationIx p.uniqueRefreshReserveKeys)
      p.uniqueRefreshReserveKeys p.refreshIxs := List.prefix_rfl

end KaminoTxBuildParams

end Kamino

end Grokbotliq
