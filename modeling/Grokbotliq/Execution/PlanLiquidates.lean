import Grokbotliq.Execution.Plan
import Grokbotliq.Kamino.PlanShape

/-!
# Accepted opportunities and their plans

Whether the plan of an accepted opportunity liquidates the obligation it is about.  The three
tables involved (which strategies a protocol has, how they score, which of them the planner
knows) agree for Kamino; for the other two the planner has no arm for the inventory strategy.

The missing arm matters only where inventory is what wins: `Core/Funding.lean` says when that is,
and the planner's catch-all arm leaves a compute limit (`labeled_inventory`).
-/

namespace Grokbotliq.Execution

/-! ## Liquidations on the wire -/

/-- The instruction liquidates `obligation` by itself. -/
def LiquidatesAlone (protocol : Protocol) (obligation : Pubkey) (ix : Instruction) : Prop :=
  match protocol with
  | .kamino => ix.IsCall Programs.klend Kamino.Disc.liquidateV2 ∧ ix.accountAt 1 = some obligation
  | .save =>
    ix.IsCall Programs.save [Save.SaveIx.liquidateObligationAndRedeemReserveCollateral] ∧
      ix.accountAt 10 = some obligation
  | .project0 =>
    ix.IsCall Programs.marginfi Project0.Disc.lendingAccountLiquidate ∧
      ix.accountAt 5 = some obligation

/-- The two instructions open and close a receivership of `obligation`. -/
def ReceivershipOf (obligation : Pubkey) (start stop : Instruction) : Prop :=
  start.IsCall Programs.marginfi Project0.Disc.startLiquidation ∧
  start.accountAt 0 = some obligation ∧
  stop.IsCall Programs.marginfi Project0.Disc.endLiquidation ∧
  stop.accountAt 0 = some obligation

/-- The plan liquidates `obligation`: by one instruction of the protocol, or, under Project 0,
by a receivership opened and later closed. -/
def Liquidates (protocol : Protocol) (obligation : Pubkey) (plan : Plan) : Prop :=
  (∃ l ∈ plan, LiquidatesAlone protocol obligation l.ix) ∨
    protocol = .project0 ∧
      ∃ start stop, [start, stop].Sublist plan ∧ ReceivershipOf obligation start.ix stop.ix

/-! ## The arms of the planner -/

lemma liquidatesAlone_kamino (p : Kamino.KaminoTxBuildParams) :
    LiquidatesAlone .kamino p.liquidate.obligation p.liquidateIx.ix :=
  ⟨p.isLiquidateV2_liquidateIx, rfl⟩

lemma liquidatesAlone_save (a : Save.SaveLiquidateAccounts) (amount : UInt64) :
    LiquidatesAlone .save a.obligation (Save.liquidateIx a amount).ix :=
  ⟨⟨rfl, List.prefix_append _ _⟩, rfl⟩

lemma receivershipOf (p : Project0.ReceivershipBuildParams)
    (h : p.stop.marginfiAccount = p.start.marginfiAccount) :
    ReceivershipOf p.start.marginfiAccount p.startIx.ix p.endIx.ix :=
  ⟨⟨rfl, List.prefix_refl _⟩, rfl, ⟨rfl, List.prefix_refl _⟩, congrArg some h⟩

variable (h : PdaHash) (a : PlanAccountSet) (amount : UInt64) (blob : JupiterQuoteBlob)

lemma liquidates_kaminoFlashBorrow :
    Liquidates .kamino a.obligation
      (buildStrategyIxs h .kamino .kaminoFlashBorrow a amount blob).labeled := by
  let p := a.kaminoParams h a.flashReserves amount (some a.kaminoFlashPair)
  refine Or.inl ⟨p.liquidateIx, ?_, liquidatesAlone_kamino p⟩
  simp [buildStrategyIxs, Kamino.buildFlashTx, PlanAccountSet.kaminoParams, p]

lemma liquidates_kaminoInventory :
    Liquidates .kamino a.obligation
      (buildStrategyIxs h .kamino .inventory a amount blob).labeled := by
  let p := a.kaminoParams h a.inventoryReserves amount none
  refine Or.inl ⟨p.liquidateIx, ?_, liquidatesAlone_kamino p⟩
  simp [buildStrategyIxs, Kamino.buildInventoryTx, p]

lemma liquidates_saveFlashLoan :
    Liquidates .save a.obligation
      (buildStrategyIxs h .save .saveFlashLoan a amount blob).labeled := by
  refine Or.inl ⟨Save.liquidateIx a.saveFlashAccounts.liquidate amount, ?_,
    liquidatesAlone_save _ _⟩
  simp [buildStrategyIxs, Save.buildFlashAtomicPlan]

lemma liquidates_project0Receivership :
    Liquidates .project0 a.obligation
      (buildStrategyIxs h .project0 .project0Receivership a amount blob).labeled := by
  let p := a.receivershipParams amount
  refine Or.inr ⟨rfl, p.startIx, p.endIx, ?_, receivershipOf p rfl⟩
  simp [buildStrategyIxs, Project0.buildReceivershipTx, p]

/-- The strategy that does not use the liquidator's own funds has an arm for every protocol. -/
lemma liquidates_borrowed (protocol : Protocol) :
    Liquidates protocol a.obligation
      (buildStrategyIxs h protocol (.borrowed protocol) a amount blob).labeled := by
  cases protocol
  case kamino => exact liquidates_kaminoFlashBorrow h a amount blob
  case project0 => exact liquidates_project0Receivership h a amount blob
  case save => exact liquidates_saveFlashLoan h a amount blob

/-- The catch-all arm: a compute-budget instruction and nothing else. -/
lemma labeled_inventory {protocol : Protocol} (hprotocol : protocol ≠ .kamino) :
    (buildStrategyIxs h protocol .inventory a amount blob).labeled =
      [⟨"ComputeBudget:SetComputeUnitLimit", computeUnitLimit 200000⟩] := by
  cases protocol
  case kamino => exact absurd rfl hprotocol
  case project0 => rfl
  case save => rfl

lemma not_liquidates_computeUnitLimit (protocol : Protocol) (obligation : Pubkey) (label : String)
    (units : UInt32) : ¬ Liquidates protocol obligation [⟨label, computeUnitLimit units⟩] := by
  intro hliq
  rcases hliq with ⟨l, hl, halone⟩ | ⟨-, start, stop, hsub, -⟩
  · obtain rfl := List.mem_singleton.1 hl
    cases protocol
    case kamino => exact absurd halone.1.1 (show Programs.computeBudget ≠ Programs.klend by decide)
    case project0 =>
      exact absurd halone.1.1 (show Programs.computeBudget ≠ Programs.marginfi by decide)
    case save => exact absurd halone.1.1 (show Programs.computeBudget ≠ Programs.save by decide)
  · exact absurd hsub.length_le (by simp)

/-! ## Which accepted opportunities are planned as liquidations -/

/-- **The plan of an accepted opportunity liquidates its obligation, except where a protocol
other than Kamino is funded from inventory.** -/
theorem accepted_plan_liquidates_iff (config : ProfitConfig) (protocol : Protocol)
    (e : Economics) :
    (∀ best, (e.evaluateFunding config protocol).best = some best → best.accepted = true →
      Liquidates protocol a.obligation
        (buildStrategyIxs h protocol best.strategy a amount blob).labeled) ↔
      protocol = .kamino ∨ ¬ e.InventoryWins config protocol := by
  constructor
  · intro hall
    by_contra hcon
    obtain ⟨hprotocol, hwins⟩ := not_or.1 hcon
    have hwins := not_not.1 hwins
    obtain ⟨best, hbest, hacc⟩ := Economics.exists_best_of_inventoryWins hwins
    -- Inventory wins on another protocol: the plan is a compute limit alone.
    have hliq := hall best hbest hacc
    rcases Economics.best_eq_of_accepted hbest hacc with ⟨-, hstrategy⟩ | ⟨hlose, -⟩
    · rw [hstrategy, labeled_inventory h a amount blob hprotocol] at hliq
      exact not_liquidates_computeUnitLimit _ _ _ _ hliq
    · exact hlose hwins
  · intro hcond best hbest hacc
    rcases Economics.best_eq_of_accepted hbest hacc with ⟨hwins, hstrategy⟩ | ⟨-, hstrategy⟩
    · rcases hcond with rfl | hlose
      · rw [hstrategy]
        exact liquidates_kaminoInventory h a amount blob
      · exact absurd hwins hlose
    · rw [hstrategy]
      exact liquidates_borrowed h a amount blob protocol

/-- A Save liquidation of fifty dollars, all of it in the liquidator's wallet. -/
def fundedFromWallet : Economics where
  grossProfitUsdMicro := 4000000
  swapCostUsdMicro := 100000
  chainCostUsdMicro := 80000
  tipUsdMicro := 50000
  notionalUsdMicro := 50000000
  inventoryAvailableUsdMicro := 50000000
  flashFeeBps := 9

lemma inventoryWins_fundedFromWallet :
    fundedFromWallet.InventoryWins .default .save := by
  unfold Economics.InventoryWins Economics.Passes
  decide +kernel

/-- An accepted Save opportunity, and a plan that liquidates nothing. -/
theorem accepted_save_plan_liquidates_nothing :
    ∃ best, (fundedFromWallet.evaluateFunding .default .save).best = some best ∧
      best.accepted = true ∧
      ∀ h : PdaHash, ¬ Liquidates .save (PlanAccountSet.fromSeed (Pubkey.test 7 1)).obligation
        (buildStrategyIxs h .save best.strategy (PlanAccountSet.fromSeed (Pubkey.test 7 1))
          1000000 JupiterQuoteBlob.default).labeled := by
  have hwins := inventoryWins_fundedFromWallet
  obtain ⟨best, hbest, hacc⟩ := Economics.exists_best_of_inventoryWins hwins
  refine ⟨best, hbest, hacc, fun h => ?_⟩
  rcases Economics.best_eq_of_accepted hbest hacc with ⟨-, hstrategy⟩ | ⟨hlose, -⟩
  · rw [hstrategy, labeled_inventory h _ _ _ (by decide)]
    exact not_liquidates_computeUnitLimit _ _ _ _
  · exact absurd hwins hlose

end Grokbotliq.Execution
