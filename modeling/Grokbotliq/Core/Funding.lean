import Grokbotliq.Core.Profitability
import Grokbotliq.Core.Types

/-!
# Funding paths

Each protocol has two ways to fund the repay leg of a liquidation.  The feasible ones are
scored, sorted by score, and the first accepted one is the best; where none is accepted the
best is the highest-scored rejected one, kept for logging.

A protocol has its inventory and the one strategy that borrows, so the candidates are two at most
and sorting them is one comparison (`candidates_evaluateFunding`).  `best_eq_of_accepted` reads
off which strategy an accepted best path has, in terms of `InventoryWins` alone; this is all that
the planner's theorems use of the economics.
-/

namespace Grokbotliq

open MachineInt

/-- How the liquidator funds the repay leg of an atomic liquidation. -/
inductive FundingStrategy
  | inventory
  | saveFlashLoan
  | kaminoFlashBorrow
  | project0Receivership
  deriving DecidableEq, Repr

namespace FundingStrategy

def asStr : FundingStrategy → String
  | inventory => "Inventory"
  | saveFlashLoan => "SaveFlashLoan"
  | kaminoFlashBorrow => "KaminoFlashBorrow"
  | project0Receivership => "Project0Receivership"

/-- The one strategy of a protocol that does not use the liquidator's own funds. -/
def borrowed : Protocol → FundingStrategy
  | .kamino => kaminoFlashBorrow
  | .save => saveFlashLoan
  | .project0 => project0Receivership

/-- Strategies that are structurally applicable for a given protocol. -/
def applicableFor (protocol : Protocol) : List FundingStrategy :=
  match protocol with
  | .kamino => [inventory, kaminoFlashBorrow]
  | .save => [inventory, saveFlashLoan]
  | .project0 => [inventory, project0Receivership]

lemma applicableFor_eq (protocol : Protocol) :
    applicableFor protocol = [inventory, borrowed protocol] := by
  cases protocol <;> rfl

end FundingStrategy

/-- Inputs for scoring one funding path. -/
structure FundingPathInput where
  strategy : FundingStrategy
  protocol : Protocol
  grossProfitUsdMicro : Int64
  swapCostUsdMicro : UInt64
  chainCostUsdMicro : UInt64
  flashFeeUsdMicro : UInt64
  tipUsdMicro : UInt64
  capitalUsedUsdMicro : UInt64
  notionalUsdMicro : UInt64
  landingProbBps : UInt64
  latencyWeight : UInt64
  feasible : Bool
  deriving DecidableEq

structure ScoredFundingPath where
  strategy : FundingStrategy
  protocol : Protocol
  netProfitUsdMicro : Int64
  expectedValueScore : Int64
  decision : ProfitDecision
  flashFeeUsdMicro : UInt64
  tipUsdMicro : UInt64
  capitalUsedUsdMicro : UInt64
  deriving DecidableEq

/-- `matches!(path.decision, ProfitDecision::Accept { .. })`. -/
def ScoredFundingPath.accepted (path : ScoredFundingPath) : Bool := path.decision.isAccept

structure OpportunityPlan where
  protocol : Protocol
  account : String
  candidates : List ScoredFundingPath
  best : Option ScoredFundingPath

/-! ## Scoring -/

namespace FundingPathInput

/-- What the profit gate is asked about this path. -/
def profitInput (i : FundingPathInput) : ProfitInput where
  grossProfitUsdMicro := i.grossProfitUsdMicro
  swapCostUsdMicro := i.swapCostUsdMicro
  chainCostUsdMicro :=
    satAddU64 i.chainCostUsdMicro (satAddU64 i.flashFeeUsdMicro i.tipUsdMicro)
  capitalUsedUsdMicro := max i.capitalUsedUsdMicro 1
  notionalUsdMicro := i.notionalUsdMicro

/-- Net × landing probability / latency; a net that is not positive is its own score. -/
def expectedValueScore (i : FundingPathInput) (net : Int64) : Int64 :=
  if net ≤ 0 then net
  else truncI64 (net.toInt * i.landingProbBps.toNat / (max i.latencyWeight 1).toNat)

end FundingPathInput

namespace ProfitConfig

/-- The path with its decision and score, whether feasible or not. -/
def scored (config : ProfitConfig) (i : FundingPathInput) : ScoredFundingPath :=
  let decision := config.evaluate i.profitInput
  { strategy := i.strategy
    protocol := i.protocol
    netProfitUsdMicro := decision.netProfit
    expectedValueScore := i.expectedValueScore decision.netProfit
    decision := decision
    flashFeeUsdMicro := i.flashFeeUsdMicro
    tipUsdMicro := i.tipUsdMicro
    capitalUsedUsdMicro := i.capitalUsedUsdMicro }

/-- `FundingPathEnumerator::score_one`. -/
def scoreOne (config : ProfitConfig) (i : FundingPathInput) : Option ScoredFundingPath :=
  if !i.feasible then none else some (config.scored i)

/-- `a` is sorted before `b`, or they tie. -/
def scoredBefore (a b : ScoredFundingPath) : Prop := b.expectedValueScore ≤ a.expectedValueScore

instance : DecidableRel scoredBefore := fun a b =>
  inferInstanceAs (Decidable (b.expectedValueScore ≤ a.expectedValueScore))

instance : Std.Total scoredBefore := ⟨fun _ _ => Int64.le_total _ _⟩

instance : IsTrans ScoredFundingPath scoredBefore :=
  ⟨fun _ _ _ hab hbc => Int64.le_trans hbc hab⟩

/-- `FundingPathEnumerator::pick_best`.  The sort is stable. -/
def pickBest (config : ProfitConfig) (inputs : List FundingPathInput) : OpportunityPlan :=
  let candidates := (inputs.filterMap config.scoreOne).insertionSort scoredBefore
  { protocol := (inputs.head?.map FundingPathInput.protocol).getD .kamino
    account := ""
    candidates := candidates
    best := (candidates.find? ScoredFundingPath.accepted).or candidates.head? }

lemma scoreOne_of_feasible (config : ProfitConfig) {i : FundingPathInput}
    (h : i.feasible = true) : config.scoreOne i = some (config.scored i) := by
  rw [scoreOne, h]
  rfl

lemma scoreOne_of_not_feasible (config : ProfitConfig) {i : FundingPathInput}
    (h : ¬ i.feasible = true) : config.scoreOne i = none := by
  rw [scoreOne, Bool.eq_false_of_not_eq_true h]
  rfl

lemma mem_candidates {config : ProfitConfig} {inputs : List FundingPathInput}
    {path : ScoredFundingPath} :
    path ∈ (config.pickBest inputs).candidates ↔
      ∃ i ∈ inputs, i.feasible = true ∧ config.scored i = path := by
  simp [pickBest, scoreOne]

/-- Whatever the best path is, it is one of the feasible inputs, scored. -/
lemma best_mem {config : ProfitConfig} {inputs : List FundingPathInput}
    {best : ScoredFundingPath} (h : (config.pickBest inputs).best = some best) :
    ∃ i ∈ inputs, i.feasible = true ∧ config.scored i = best := by
  rcases Option.or_eq_some_iff.1 h with hfind | ⟨-, hhead⟩
  · exact mem_candidates.1 (List.mem_of_find?_eq_some hfind)
  · exact mem_candidates.1 (List.mem_of_head? hhead)

/-- A best path that is accepted is the first accepted candidate. -/
lemma find_eq_of_best {config : ProfitConfig} {inputs : List FundingPathInput}
    {best : ScoredFundingPath} (h : (config.pickBest inputs).best = some best)
    (hacc : best.accepted = true) :
    (config.pickBest inputs).candidates.find? ScoredFundingPath.accepted = some best := by
  rcases Option.or_eq_some_iff.1 h with hfind | ⟨hnone, hhead⟩
  · exact hfind
  · exact absurd hacc (List.find?_eq_none.1 hnone best (List.mem_of_head? hhead))

/-- The best path is accepted exactly when some feasible path is. -/
theorem exists_best_accepted_iff {config : ProfitConfig} {inputs : List FundingPathInput} :
    (∃ best, (config.pickBest inputs).best = some best ∧ best.accepted = true) ↔
      ∃ i ∈ inputs, i.feasible = true ∧ (config.scored i).accepted = true := by
  constructor
  · intro h
    obtain ⟨best, hsome, hacc⟩ := h
    obtain ⟨i, hi, hfeas, rfl⟩ := best_mem hsome
    exact ⟨i, hi, hfeas, hacc⟩
  · intro h
    obtain ⟨i, hi, hfeas, hacc⟩ := h
    have hmem : config.scored i ∈ (config.pickBest inputs).candidates :=
      mem_candidates.2 ⟨i, hi, hfeas, rfl⟩
    have hfound := List.find?_isSome.2 ⟨config.scored i, hmem, hacc⟩
    obtain ⟨best, hsome⟩ := Option.isSome_iff_exists.1 hfound
    exact ⟨best, Option.or_eq_some_iff.2 (Or.inl hsome), List.find?_some hsome⟩

end ProfitConfig

/-! ## The default paths -/

/-- What a strategy commits: capital, flash fee, latency weight, landing probability, and
whether it can be built. -/
structure PathTerms where
  capital : UInt64
  fee : UInt64
  latency : UInt64
  landing : UInt64
  feasible : Bool

/-- The economics one liquidation is planned under. -/
structure Economics where
  grossProfitUsdMicro : Int64
  swapCostUsdMicro : UInt64
  chainCostUsdMicro : UInt64
  tipUsdMicro : UInt64
  notionalUsdMicro : UInt64
  inventoryAvailableUsdMicro : UInt64
  flashFeeBps : UInt64

namespace Economics

def flashFee (e : Economics) : UInt64 := satMulU64 e.notionalUsdMicro e.flashFeeBps / 10000

def terms (e : Economics) (protocol : Protocol) : FundingStrategy → PathTerms
  | .inventory =>
    { capital := max (min e.inventoryAvailableUsdMicro e.notionalUsdMicro) 1
      fee := 0
      latency := 10
      landing := 8500
      feasible := decide (e.notionalUsdMicro / 2 ≤ e.inventoryAvailableUsdMicro) }
  | .saveFlashLoan => ⟨1, e.flashFee, 14, 7500, protocol = .save⟩
  | .kaminoFlashBorrow => ⟨1, e.flashFee, 14, 7500, protocol = .kamino⟩
  | .project0Receivership =>
    ⟨e.notionalUsdMicro / 20 + 1, 0, 18, 7000, protocol = .project0⟩

def path (e : Economics) (protocol : Protocol) (strategy : FundingStrategy) :
    FundingPathInput :=
  let terms := e.terms protocol strategy
  { strategy := strategy
    protocol := protocol
    grossProfitUsdMicro := e.grossProfitUsdMicro
    swapCostUsdMicro := e.swapCostUsdMicro
    chainCostUsdMicro := e.chainCostUsdMicro
    flashFeeUsdMicro := terms.fee
    tipUsdMicro := e.tipUsdMicro
    capitalUsedUsdMicro := terms.capital
    notionalUsdMicro := e.notionalUsdMicro
    landingProbBps := terms.landing
    latencyWeight := terms.latency
    feasible := terms.feasible }

/-- `FundingPathEnumerator::default_paths_for`. -/
def defaultPathsFor (e : Economics) (protocol : Protocol) : List FundingPathInput :=
  (FundingStrategy.applicableFor protocol).map (e.path protocol)

/-- `evaluate_funding`. -/
def evaluateFunding (config : ProfitConfig) (protocol : Protocol) (e : Economics) :
    OpportunityPlan :=
  config.pickBest (e.defaultPathsFor protocol)

lemma feasible_borrowed (e : Economics) (protocol : Protocol) :
    (e.path protocol (.borrowed protocol)).feasible = true := by
  cases protocol <;> rfl

/-- The inventory path can be built when it covers half of the notional. -/
lemma feasible_inventory (e : Economics) (protocol : Protocol) :
    (e.path protocol .inventory).feasible = true ↔
      e.notionalUsdMicro / 2 ≤ e.inventoryAvailableUsdMicro :=
  decide_eq_true_iff

/-- The path passes the profit gate. -/
def Passes (config : ProfitConfig) (i : FundingPathInput) : Prop :=
  (config.evaluate i.profitInput).isAccept = true

/-- The score the path gets. -/
def score (i : FundingPathInput) : Int64 := i.expectedValueScore i.profitInput.net

lemma accepted_scored (config : ProfitConfig) (i : FundingPathInput) :
    (config.scored i).accepted = true ↔ Passes config i := by
  simp only [ScoredFundingPath.accepted, ProfitConfig.scored, Passes]

lemma score_scored (config : ProfitConfig) (i : FundingPathInput) :
    (config.scored i).expectedValueScore = score i := by
  simp only [ProfitConfig.scored, ProfitConfig.netProfit_evaluate, score]

/-- Some funding path of the protocol can be built and passes the profit gate. -/
def GateOpens (config : ProfitConfig) (protocol : Protocol) (e : Economics) : Prop :=
  Passes config (e.path protocol (.borrowed protocol)) ∨
    e.notionalUsdMicro / 2 ≤ e.inventoryAvailableUsdMicro ∧
      Passes config (e.path protocol .inventory)

theorem best_accepted_iff_gateOpens {config : ProfitConfig} {protocol : Protocol}
    {e : Economics} :
    (∃ best, (e.evaluateFunding config protocol).best = some best ∧ best.accepted = true) ↔
      e.GateOpens config protocol := by
  rw [evaluateFunding, ProfitConfig.exists_best_accepted_iff, defaultPathsFor,
    FundingStrategy.applicableFor_eq]
  simp [GateOpens, feasible_borrowed, feasible_inventory, accepted_scored, or_comm]

/-- The inventory path can be built, passes the gate, and is not outscored by the other path;
on equal scores it stands first. -/
def InventoryWins (config : ProfitConfig) (protocol : Protocol) (e : Economics) : Prop :=
  e.notionalUsdMicro / 2 ≤ e.inventoryAvailableUsdMicro ∧
  Passes config (e.path protocol .inventory) ∧
  (Passes config (e.path protocol (.borrowed protocol)) →
    score (e.path protocol (.borrowed protocol)) ≤ score (e.path protocol .inventory))

lemma candidates_evaluateFunding (config : ProfitConfig) (protocol : Protocol) (e : Economics) :
    (e.evaluateFunding config protocol).candidates =
      if e.notionalUsdMicro / 2 ≤ e.inventoryAvailableUsdMicro then
        if score (e.path protocol (.borrowed protocol)) ≤ score (e.path protocol .inventory) then
          [config.scored (e.path protocol .inventory),
            config.scored (e.path protocol (.borrowed protocol))]
        else
          [config.scored (e.path protocol (.borrowed protocol)),
            config.scored (e.path protocol .inventory)]
      else [config.scored (e.path protocol (.borrowed protocol))] := by
  simp only [evaluateFunding, ProfitConfig.pickBest, defaultPathsFor,
    FundingStrategy.applicableFor_eq, List.map_cons, List.map_nil, ← score_scored config]
  have hborrowed := ProfitConfig.scoreOne_of_feasible config (e.feasible_borrowed protocol)
  split_ifs with hinv hscore
  · have hown := ProfitConfig.scoreOne_of_feasible config ((e.feasible_inventory protocol).2 hinv)
    simp [List.filterMap, hown, hborrowed, ProfitConfig.scoredBefore, hscore]
  · have hown := ProfitConfig.scoreOne_of_feasible config ((e.feasible_inventory protocol).2 hinv)
    simp [List.filterMap, hown, hborrowed, List.orderedInsert, ProfitConfig.scoredBefore, hscore]
  · have hown : config.scoreOne (e.path protocol .inventory) = none :=
      ProfitConfig.scoreOne_of_not_feasible config fun h =>
        hinv ((e.feasible_inventory protocol).1 h)
    simp [List.filterMap, hown, hborrowed]

/-- There is always a best path: the borrowed one can be built. -/
lemma exists_best (config : ProfitConfig) (protocol : Protocol) (e : Economics) :
    ∃ best, (e.evaluateFunding config protocol).best = some best := by
  have hmem : config.scored (e.path protocol (.borrowed protocol)) ∈
      (e.evaluateFunding config protocol).candidates := by
    rw [candidates_evaluateFunding]
    split_ifs <;> simp
  have hhead : ∃ first, (e.evaluateFunding config protocol).candidates.head? = some first :=
    ⟨_, List.head?_eq_some_head (List.ne_nil_of_mem hmem)⟩
  obtain ⟨first, hfirst⟩ := hhead
  have hbest : (e.evaluateFunding config protocol).best =
      ((e.evaluateFunding config protocol).candidates.find? ScoredFundingPath.accepted).or
        (some first) := by
    rw [← hfirst]
    rfl
  rw [hbest]
  cases (e.evaluateFunding config protocol).candidates.find? ScoredFundingPath.accepted with
  | none => exact ⟨first, rfl⟩
  | some best => exact ⟨best, rfl⟩

/-- Whether the best path is accepted says whether the gate opens. -/
lemma accepted_iff_gateOpens {config : ProfitConfig} {protocol : Protocol} {e : Economics}
    {best : ScoredFundingPath} (h : (e.evaluateFunding config protocol).best = some best) :
    best.accepted = true ↔ e.GateOpens config protocol := by
  rw [← best_accepted_iff_gateOpens]
  constructor
  · exact fun hacc => ⟨best, h, hacc⟩
  · intro hex
    obtain ⟨other, hother, hacc⟩ := hex
    obtain rfl := Option.some.inj (h.symm.trans hother)
    exact hacc

/-- **Which path an accepted best is.** -/
theorem best_eq_of_accepted {config : ProfitConfig} {protocol : Protocol} {e : Economics}
    {best : ScoredFundingPath} (h : (e.evaluateFunding config protocol).best = some best)
    (hacc : best.accepted = true) :
    e.InventoryWins config protocol ∧ best.strategy = .inventory ∨
      ¬ e.InventoryWins config protocol ∧ best.strategy = .borrowed protocol := by
  have hfind : (e.evaluateFunding config protocol).candidates.find?
      ScoredFundingPath.accepted = some best := ProfitConfig.find_eq_of_best h hacc
  rw [candidates_evaluateFunding] at hfind
  split_ifs at hfind with hinv hscore
  · -- inventory first
    by_cases hown : Passes config (e.path protocol .inventory)
    · rw [List.find?_cons_of_pos ((accepted_scored _ _).2 hown)] at hfind
      obtain rfl := Option.some.inj hfind
      exact Or.inl ⟨⟨hinv, hown, fun _ => hscore⟩, rfl⟩
    · rw [List.find?_cons_of_neg ((accepted_scored _ _).not.2 hown)] at hfind
      obtain rfl := List.mem_singleton.1 (List.mem_of_find?_eq_some hfind)
      exact Or.inr ⟨fun hwins => hown hwins.2.1, rfl⟩
  · -- the other path first
    by_cases hother : Passes config (e.path protocol (.borrowed protocol))
    · rw [List.find?_cons_of_pos ((accepted_scored _ _).2 hother)] at hfind
      obtain rfl := Option.some.inj hfind
      exact Or.inr ⟨fun hwins => hscore (hwins.2.2 hother), rfl⟩
    · rw [List.find?_cons_of_neg ((accepted_scored _ _).not.2 hother)] at hfind
      obtain rfl := List.mem_singleton.1 (List.mem_of_find?_eq_some hfind)
      have hown : Passes config (e.path protocol .inventory) := (accepted_scored _ _).1 hacc
      exact Or.inl ⟨⟨hinv, hown, fun h => absurd h hother⟩, rfl⟩
  · obtain rfl := List.mem_singleton.1 (List.mem_of_find?_eq_some hfind)
    exact Or.inr ⟨fun hwins => hinv hwins.1, rfl⟩

/-- With inventory the winner, the best path is accepted. -/
lemma exists_best_of_inventoryWins {config : ProfitConfig} {protocol : Protocol} {e : Economics}
    (h : e.InventoryWins config protocol) :
    ∃ best, (e.evaluateFunding config protocol).best = some best ∧ best.accepted = true :=
  best_accepted_iff_gateOpens.2 (Or.inr ⟨h.1, h.2.1⟩)

end Economics

end Grokbotliq
