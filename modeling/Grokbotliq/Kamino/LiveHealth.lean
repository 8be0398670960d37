import Grokbotliq.Core.Base58
import Grokbotliq.Framework.KeyMap
import Grokbotliq.Kamino.ReserveRisk

/-!
# Live health of a klend obligation

The health of an obligation is recomputed from its positions and the reserves' cached prices.
The code computes in `f64`; here the same expressions are over `ℚ`.

The two loops skip a leg whose reserve is unknown or has no price, and record it.  What they
add up is therefore the value of the *priced* legs alone (`pricedSum`), and whether these look
under water (`UnderWater`) decides `isLiquidatable`, whatever was skipped.

Both loops are of one shape, `CountsPriced`: a leg is idle, or recorded as missing, or adds what
it is worth to some total.  For any accumulator of that shape the total is the sum over the priced
legs, and the record is empty exactly when every leg in use is priced.
-/

namespace Grokbotliq.Kamino

inductive KaminoError
  | missingPrice
  | invalidAmount
  | scopeStale
  deriving DecidableEq

/-- Klend's `U68F60` scale: a value is `2 ^ 60` times itself. -/
def fractionScale : ℕ := 2 ^ 60

def sfToRat (sf : ℕ) : ℚ := sf / fractionScale

structure ElevationGroupParams where
  id : UInt8
  ltvPct : UInt8
  liquidationThresholdPct : UInt8
  maxLiquidationBonusBps : UInt16
  deriving DecidableEq

/-- `LendingMarket.elevationGroups`. -/
def liveMarketElevationGroupsOffset : ℕ := 200

def elevationGroupSize : ℕ := 72

def maxElevationGroups : ℕ := 32

/-- The loop over the slots for elevation groups; an empty slot is skipped. -/
def elevationGroupStep (data : List UInt8) (map : KeyMap UInt8 ElevationGroupParams) (i : ℕ) :
    Outcome DecodeError (KeyMap UInt8 ElevationGroupParams) := do
  let off := liveMarketElevationGroupsOffset + i * elevationGroupSize
  let maxBonus ← readLe data off 2
  let id ← readByte data (off + 2)
  let ltvPct ← readByte data (off + 3)
  let liquidationThresholdPct ← readByte data (off + 4)
  if id = 0 ∧ ltvPct = 0 ∧ liquidationThresholdPct = 0 then return map
  else return map.insert id ⟨id, ltvPct, liquidationThresholdPct, UInt16.ofNat maxBonus⟩

/-- Elevation groups of a lending market account. -/
def decodeLendingMarketElevationGroups (data : List UInt8) :
    Outcome DecodeError (KeyMap UInt8 ElevationGroupParams) :=
  if data.length < liveMarketElevationGroupsOffset + maxElevationGroups * elevationGroupSize then
    .err .tooShort
  else (List.range maxElevationGroups).foldlM (elevationGroupStep data) ∅

namespace LiveReserveRisk

/-- Total liquidity in token base units: available and borrowed, less fees. -/
def totalLiquidityTokens (r : LiveReserveRisk) : ℚ :=
  let available : ℚ := r.totalAvailableAmount
  let borrowed := sfToRat r.borrowedAmountSf
  let fees := sfToRat r.accumulatedProtocolFeesSf + sfToRat r.accumulatedReferrerFeesSf +
    sfToRat r.pendingReferrerFeesSf
  max (available + borrowed - fees) 0

/-- The liquidity base units that so many collateral shares stand for. -/
def collateralToLiquidity (r : LiveReserveRisk) (depositedCollateral : ℕ) : ℚ :=
  let supply := r.collateralMintTotalSupply
  if supply = 0 then depositedCollateral
  else depositedCollateral * r.totalLiquidityTokens / supply

end LiveReserveRisk

/-- Token base units in USD, at a reserve's price. -/
def tokensToUsd (tokenAmount : ℚ) (decimals : UInt8) (priceSf : ℕ) : ℚ :=
  if tokenAmount ≤ 0 ∨ priceSf = 0 then 0
  else
    let price := sfToRat priceSf
    let whole := tokenAmount / 10 ^ decimals.toNat
    let usd := whole * price
    if usd ≤ 0 then 0 else usd

structure KlendComputedHealth where
  depositedValueUsdMicro : ℕ
  borrowedValueUsdMicro : ℕ
  borrowFactorAdjustedDebtUsdMicro : ℕ
  unhealthyBorrowValueUsdMicro : ℕ
  allowedBorrowValueUsdMicro : ℕ
  healthFactor : ℚ
  ltv : ℚ
  isLiquidatable : Bool
  belowMaintenance : Bool
  missingReserves : List String
  deriving DecidableEq

/-- Dust is never actionable. -/
def minLiquidationNotionalUsd : ℚ := 1 / 100

/-- Dollars to micro-dollars, rounded; a `u128`. -/
def toMicro (v : ℚ) : ℕ :=
  if v ≤ 0 then 0 else min (⌊v * 1000000 + 1 / 2⌋.toNat) (2 ^ 128 - 1)

abbrev Reserves := KeyMap Pubkey LiveReserveRisk

abbrev ElevationGroups := Option (KeyMap UInt8 ElevationGroupParams)

/-- The parameters of the obligation's elevation group, if it has one and they are known. -/
def elevationOf (pos : LiveObligationPositions) (groups : ElevationGroups) :
    Option ElevationGroupParams :=
  let id := pos.header.elevationGroup
  if id = 0 then none else groups.bind fun m => m.lookup id

/-- The accumulators of the loop over the deposits. -/
structure DepositTotals where
  missing : List String
  depositedUsd : ℚ
  unhealthy : ℚ
  allowed : ℚ

def depositStep (c : Base58) (reserves : Reserves) (elev : Option ElevationGroupParams)
    (t : DepositTotals) (d : LiveDepositPosition) : DepositTotals :=
  if d.depositedAmount = 0 then t
  else
    match reserves.lookup d.reserve with
    | none => { t with missing := t.missing ++ [d.reserve.toBase58 c] }
    | some r =>
      if r.marketPriceSf = 0 then
        { t with missing := t.missing ++ [d.reserve.toBase58 c ++ ":zero_price"] }
      else
        let liqTokens := r.collateralToLiquidity d.depositedAmount
        let usd := tokensToUsd liqTokens r.mintDecimals r.marketPriceSf
        let (thr, ltv) :=
          match elev with
          | some e => (e.liquidationThresholdPct, e.ltvPct)
          | none => (r.liquidationThresholdPct, r.loanToValuePct)
        { missing := t.missing
          depositedUsd := t.depositedUsd + usd
          unhealthy := t.unhealthy + usd * thr.toNat / 100
          allowed := t.allowed + usd * ltv.toNat / 100 }

/-- The accumulators of the loop over the borrows. -/
structure BorrowTotals where
  missing : List String
  borrowedUsd : ℚ
  bfDebt : ℚ

def borrowStep (c : Base58) (reserves : Reserves) (elev : Option ElevationGroupParams)
    (t : BorrowTotals) (b : LiveBorrowPosition) : BorrowTotals :=
  if b.borrowedAmountSf = 0 then t
  else
    match reserves.lookup b.reserve with
    | none => { t with missing := t.missing ++ [b.reserve.toBase58 c] }
    | some r =>
      if r.marketPriceSf = 0 then
        { t with missing := t.missing ++ [b.reserve.toBase58 c ++ ":zero_price"] }
      else
        let tokens := sfToRat b.borrowedAmountSf
        let usd := tokensToUsd tokens r.mintDecimals r.marketPriceSf
        let bf : ℕ := if elev.isSome then 100 else max r.borrowFactorPct 1
        { missing := t.missing
          borrowedUsd := t.borrowedUsd + usd
          bfDebt := t.bfDebt + usd * bf / 100 }

/-- The health of an obligation, with its market's elevation groups where they are known. -/
def computeObligationHealthLiveWithElevation (c : Base58) (pos : LiveObligationPositions)
    (reserves : Reserves) (groups : ElevationGroups) :
    Except KaminoError KlendComputedHealth :=
  let elev := elevationOf pos groups
  let deposits := pos.deposits.foldl (depositStep c reserves elev) ⟨[], 0, 0, 0⟩
  let borrows := pos.borrows.foldl (borrowStep c reserves elev) ⟨deposits.missing, 0, 0⟩
  let depositedUsd := deposits.depositedUsd
  let unhealthy := deposits.unhealthy
  let bfDebt := borrows.bfDebt
  let meaningful := decide (minLiquidationNotionalUsd ≤ bfDebt) &&
    decide (minLiquidationNotionalUsd ≤ depositedUsd)
  .ok
    { depositedValueUsdMicro := toMicro depositedUsd
      borrowedValueUsdMicro := toMicro borrows.borrowedUsd
      borrowFactorAdjustedDebtUsdMicro := toMicro bfDebt
      unhealthyBorrowValueUsdMicro := toMicro unhealthy
      allowedBorrowValueUsdMicro := toMicro deposits.allowed
      -- without counted collateral the ratio is the healthy one
      healthFactor := if bfDebt ≤ 0 then 1000 else if unhealthy ≤ 0 then 1000
        else unhealthy / bfDebt
      ltv := if depositedUsd ≤ 0 then 0 else bfDebt / depositedUsd
      isLiquidatable := meaningful && decide (unhealthy < bfDebt)
      belowMaintenance := meaningful && decide (deposits.allowed < bfDebt)
      missingReserves := borrows.missing }

/-- The band of a computed health. -/
def bandFromKlendHealth (h : KlendComputedHealth) : CandidateBand :=
  if h.isLiquidatable then .critical
  else if h.healthFactor < 105 / 100 then .hot
  else if h.healthFactor < 120 / 100 then .warm
  else .cold

/-- The ratio of the obligation's own value fields, which may be stale; for diagnostics only. -/
def staleSfHeaderHealthRatio (borrowedAssetsMarketValueSf unhealthyBorrowValueSf : ℕ) :
    Option ℚ :=
  if borrowedAssetsMarketValueSf = 0 then none
  else some (unhealthyBorrowValueSf / borrowedAssetsMarketValueSf)

/-! ## What the loops add up

A leg is idle, priced or missing; only the priced ones enter a sum. -/

/-- The reserve of a leg, when it is known with a price. -/
def pricedReserve (reserves : Reserves) (reserve : Pubkey) : Option LiveReserveRisk :=
  (reserves.lookup reserve).filter fun r => r.marketPriceSf ≠ 0

/-- The sum, over the legs in use whose reserve has a price, of what each is worth. -/
def pricedSum {Leg : Type} (reserves : Reserves) (amount : Leg → ℕ) (reserve : Leg → Pubkey)
    (worth : LiveReserveRisk → Leg → ℚ) (legs : List Leg) : ℚ :=
  (legs.map fun l =>
    if amount l = 0 then 0 else (pricedReserve reserves (reserve l)).elim 0 (worth · l)).sum

/-- Every leg in use has a reserve with a price. -/
def AllPriced {Leg : Type} (reserves : Reserves) (amount : Leg → ℕ) (reserve : Leg → Pubkey)
    (legs : List Leg) : Prop :=
  ∀ l ∈ legs, amount l ≠ 0 → ∃ r, reserves.lookup (reserve l) = some r ∧ r.marketPriceSf ≠ 0

/-- A deposit's value. -/
def depositUsd (r : LiveReserveRisk) (d : LiveDepositPosition) : ℚ :=
  tokensToUsd (r.collateralToLiquidity d.depositedAmount) r.mintDecimals r.marketPriceSf

/-- The part of a deposit's value that debt is held against. -/
def depositThreshold (elev : Option ElevationGroupParams) (r : LiveReserveRisk)
    (d : LiveDepositPosition) : ℚ :=
  depositUsd r d * (elev.elim r.liquidationThresholdPct (·.liquidationThresholdPct)).toNat / 100

/-- A borrow's value, adjusted by its borrow factor. -/
def borrowDebt (elev : Option ElevationGroupParams) (r : LiveReserveRisk)
    (b : LiveBorrowPosition) : ℚ :=
  tokensToUsd (sfToRat b.borrowedAmountSf) r.mintDecimals r.marketPriceSf *
    (if elev.isSome then 100 else max r.borrowFactorPct 1 : ℕ) / 100

lemma pricedReserve_eq_some {reserves : Reserves} {k : Pubkey} {r : LiveReserveRisk} :
    pricedReserve reserves k = some r ↔ reserves.lookup k = some r ∧ r.marketPriceSf ≠ 0 := by
  simp [pricedReserve, Option.filter_eq_some_iff]

lemma pricedReserve_eq_none {reserves : Reserves} {k : Pubkey} :
    pricedReserve reserves k = none ↔
      ¬∃ r, reserves.lookup k = some r ∧ r.marketPriceSf ≠ 0 := by
  rw [← not_iff_not, not_not, ← ne_eq, Option.ne_none_iff_exists']
  simp only [pricedReserve_eq_some]

/-- A round of a loop over legs: an idle leg is passed over, a leg without a price is recorded,
and any other adds what it is worth to the total. -/
def CountsPriced {S Leg : Type} (reserves : Reserves) (amount : Leg → ℕ) (reserve : Leg → Pubkey)
    (missing : S → List String) (total : S → ℚ) (worth : LiveReserveRisk → Leg → ℚ)
    (step : S → Leg → S) : Prop :=
  ∀ s l, (amount l = 0 ∧ step s l = s) ∨
    (amount l ≠ 0 ∧ pricedReserve reserves (reserve l) = none ∧
      missing (step s l) ≠ [] ∧ total (step s l) = total s) ∨
    (amount l ≠ 0 ∧ ∃ r, pricedReserve reserves (reserve l) = some r ∧
      missing (step s l) = missing s ∧ total (step s l) = total s + worth r l)

section Loops

variable {S Leg : Type} {reserves : Reserves} {amount : Leg → ℕ} {reserve : Leg → Pubkey}
  {missing : S → List String} {total : S → ℚ} {worth : LiveReserveRisk → Leg → ℚ}
  {step : S → Leg → S}

/-- The whole loop adds the worth of the priced legs. -/
lemma CountsPriced.total_foldl
    (h : CountsPriced reserves amount reserve missing total worth step) (ls : List Leg) (s : S) :
    total (ls.foldl step s) = total s + pricedSum reserves amount reserve worth ls := by
  induction ls generalizing s with
  | nil => simp [pricedSum]
  | cons l ls ih =>
      have hcons : pricedSum reserves amount reserve worth (l :: ls) =
          (if amount l = 0 then 0
            else (pricedReserve reserves (reserve l)).elim 0 (worth · l)) +
            pricedSum reserves amount reserve worth ls := by
        rw [pricedSum, List.map_cons, List.sum_cons]
        rfl
      rw [List.foldl_cons, ih, hcons, ← add_assoc]
      rcases h s l with ⟨hidle, hstep⟩ | ⟨hused, hr, _, hstep⟩ | ⟨hused, r, hr, _, hstep⟩
      · rw [hstep, if_pos hidle, add_zero]
      · rw [hstep, if_neg hused, hr, Option.elim_none, add_zero]
      · rw [hstep, if_neg hused, hr, Option.elim_some]

/-- The whole loop records nothing exactly when every leg in use is priced. -/
lemma CountsPriced.missing_foldl
    (h : CountsPriced reserves amount reserve missing total worth step) (ls : List Leg) (s : S) :
    missing (ls.foldl step s) = [] ↔ missing s = [] ∧ AllPriced reserves amount reserve ls := by
  induction ls generalizing s with
  | nil => simp [AllPriced]
  | cons l ls ih =>
      have hcons : AllPriced reserves amount reserve (l :: ls) ↔
          (amount l ≠ 0 → ∃ r, reserves.lookup (reserve l) = some r ∧ r.marketPriceSf ≠ 0) ∧
            AllPriced reserves amount reserve ls := List.forall_mem_cons
      rw [List.foldl_cons, ih, hcons, ← and_assoc]
      refine and_congr_left fun _ => ?_
      rcases h s l with ⟨hidle, hstep⟩ | ⟨hused, hr, hstep, _⟩ | ⟨hused, r, hr, hstep, _⟩
      · rw [hstep]
        exact (and_iff_left fun hused => absurd hidle hused).symm
      · refine iff_of_false hstep fun hand => ?_
        exact pricedReserve_eq_none.1 hr (hand.2 hused)
      · rw [hstep]
        exact (and_iff_left fun _ => ⟨r, pricedReserve_eq_some.1 hr⟩).symm

end Loops

variable (c : Base58) (reserves : Reserves) (elev : Option ElevationGroupParams)

/-- The three things a round of the loop over the deposits can do. -/
lemma depositStep_cases (t : DepositTotals) (d : LiveDepositPosition) :
    (d.depositedAmount = 0 ∧ depositStep c reserves elev t d = t) ∨
    (d.depositedAmount ≠ 0 ∧ pricedReserve reserves d.reserve = none ∧
      ∃ label, depositStep c reserves elev t d = { t with missing := t.missing ++ [label] }) ∨
    (d.depositedAmount ≠ 0 ∧ ∃ r, pricedReserve reserves d.reserve = some r ∧
      (depositStep c reserves elev t d).missing = t.missing ∧
      (depositStep c reserves elev t d).depositedUsd = t.depositedUsd + depositUsd r d ∧
      (depositStep c reserves elev t d).unhealthy = t.unhealthy + depositThreshold elev r d) := by
  unfold depositStep
  by_cases hamount : d.depositedAmount = 0
  · exact Or.inl ⟨hamount, by rw [if_pos hamount]⟩
  · rw [if_neg hamount]
    refine Or.inr ?_
    cases hr : reserves.lookup d.reserve with
    | none => exact Or.inl ⟨hamount, by rw [pricedReserve, hr]; rfl, _, rfl⟩
    | some r =>
        -- A reserve without a price counts as missing.
        by_cases hprice : r.marketPriceSf = 0
        · refine Or.inl ⟨hamount, ?_, _, if_pos hprice⟩
          simp [pricedReserve, hr, hprice]
        · refine Or.inr ⟨hamount, r, pricedReserve_eq_some.2 ⟨hr, hprice⟩, ?_⟩
          dsimp only
          rw [if_neg hprice]
          cases elev <;> exact ⟨rfl, rfl, rfl⟩

lemma countsPriced_depositUsd :
    CountsPriced reserves LiveDepositPosition.depositedAmount LiveDepositPosition.reserve
      DepositTotals.missing DepositTotals.depositedUsd depositUsd
      (depositStep c reserves elev) := by
  intro t d
  rcases depositStep_cases c reserves elev t d with
    hidle | ⟨hused, hr, _, hstep⟩ | ⟨hused, r, hr, hmissing, husd, _⟩
  · exact Or.inl hidle
  · exact Or.inr (Or.inl ⟨hused, hr, by simp [hstep], by rw [hstep]⟩)
  · exact Or.inr (Or.inr ⟨hused, r, hr, hmissing, husd⟩)

lemma countsPriced_depositThreshold :
    CountsPriced reserves LiveDepositPosition.depositedAmount LiveDepositPosition.reserve
      DepositTotals.missing DepositTotals.unhealthy (depositThreshold elev)
      (depositStep c reserves elev) := by
  intro t d
  rcases depositStep_cases c reserves elev t d with
    hidle | ⟨hused, hr, _, hstep⟩ | ⟨hused, r, hr, hmissing, _, hthr⟩
  · exact Or.inl hidle
  · exact Or.inr (Or.inl ⟨hused, hr, by simp [hstep], by rw [hstep]⟩)
  · exact Or.inr (Or.inr ⟨hused, r, hr, hmissing, hthr⟩)

lemma countsPriced_borrowDebt :
    CountsPriced reserves LiveBorrowPosition.borrowedAmountSf LiveBorrowPosition.reserve
      BorrowTotals.missing BorrowTotals.bfDebt (borrowDebt elev)
      (borrowStep c reserves elev) := by
  intro t b
  unfold borrowStep
  by_cases hamount : b.borrowedAmountSf = 0
  · exact Or.inl ⟨hamount, by rw [if_pos hamount]⟩
  · rw [if_neg hamount]
    refine Or.inr ?_
    cases hr : reserves.lookup b.reserve with
    | none => exact Or.inl ⟨hamount, by rw [pricedReserve, hr]; rfl, by simp, rfl⟩
    | some r =>
        by_cases hprice : r.marketPriceSf = 0
        · refine Or.inl ⟨hamount, by simp [pricedReserve, hr, hprice], ?_⟩
          dsimp only
          rw [if_pos hprice]
          exact ⟨by simp, rfl⟩
        · refine Or.inr ⟨hamount, r, pricedReserve_eq_some.2 ⟨hr, hprice⟩, ?_⟩
          dsimp only
          rw [if_neg hprice]
          exact ⟨rfl, rfl⟩

/-! ## What the result says

The verdict compares sums of priced legs, and the list of missing reserves stands beside it. -/

/-- The priced legs alone look under water: their debt and their collateral are more than dust,
and the debt exceeds what the collateral is held against. -/
def UnderWater (reserves : Reserves) (groups : ElevationGroups) (pos : LiveObligationPositions) :
    Prop :=
  let elev := elevationOf pos groups
  let debt := pricedSum reserves LiveBorrowPosition.borrowedAmountSf LiveBorrowPosition.reserve
    (borrowDebt elev) pos.borrows
  let collateral := pricedSum reserves LiveDepositPosition.depositedAmount
    LiveDepositPosition.reserve depositUsd pos.deposits
  let threshold := pricedSum reserves LiveDepositPosition.depositedAmount
    LiveDepositPosition.reserve (depositThreshold elev) pos.deposits
  minLiquidationNotionalUsd ≤ debt ∧ minLiquidationNotionalUsd ≤ collateral ∧ threshold < debt

instance (reserves : Reserves) (groups : ElevationGroups) (pos : LiveObligationPositions) :
    Decidable (UnderWater reserves groups pos) :=
  inferInstanceAs (Decidable (_ ∧ _ ∧ _))

/-- Nothing that the health depends on is unknown: every leg in use has a reserve with a price,
and the elevation group, if there is one, has its parameters. -/
structure CompleteData (reserves : Reserves) (groups : ElevationGroups)
    (pos : LiveObligationPositions) : Prop where
  deposits : AllPriced reserves LiveDepositPosition.depositedAmount LiveDepositPosition.reserve
    pos.deposits
  borrows : AllPriced reserves LiveBorrowPosition.borrowedAmountSf LiveBorrowPosition.reserve
    pos.borrows
  elevation : pos.header.elevationGroup ≠ 0 → (elevationOf pos groups).isSome

variable {c : Base58} {reserves : Reserves} {groups : ElevationGroups}
  {pos : LiveObligationPositions} {h : KlendComputedHealth}

lemma isLiquidatable_iff
    (hok : computeObligationHealthLiveWithElevation c pos reserves groups = .ok h) :
    h.isLiquidatable = true ↔ UnderWater reserves groups pos := by
  have hcollateral := (countsPriced_depositUsd c reserves (elevationOf pos groups)).total_foldl
    pos.deposits ⟨[], 0, 0, 0⟩
  have hthreshold := (countsPriced_depositThreshold c reserves
    (elevationOf pos groups)).total_foldl pos.deposits ⟨[], 0, 0, 0⟩
  have hdebt := (countsPriced_borrowDebt c reserves (elevationOf pos groups)).total_foldl
    pos.borrows ⟨(pos.deposits.foldl (depositStep c reserves (elevationOf pos groups))
      ⟨[], 0, 0, 0⟩).missing, 0, 0⟩
  rw [zero_add] at hcollateral hthreshold hdebt
  obtain rfl := Except.ok.inj hok
  simp only [hcollateral, hthreshold, hdebt, Bool.and_eq_true, decide_eq_true_eq, and_assoc]
  rfl

lemma missingReserves_eq_nil_iff
    (hok : computeObligationHealthLiveWithElevation c pos reserves groups = .ok h) :
    h.missingReserves = [] ↔
      AllPriced reserves LiveDepositPosition.depositedAmount LiveDepositPosition.reserve
        pos.deposits ∧
      AllPriced reserves LiveBorrowPosition.borrowedAmountSf LiveBorrowPosition.reserve
        pos.borrows := by
  have hdeposits := (countsPriced_depositUsd c reserves (elevationOf pos groups)).missing_foldl
    pos.deposits ⟨[], 0, 0, 0⟩
  have hborrows := (countsPriced_borrowDebt c reserves (elevationOf pos groups)).missing_foldl
    pos.borrows ⟨(pos.deposits.foldl (depositStep c reserves (elevationOf pos groups))
      ⟨[], 0, 0, 0⟩).missing, 0, 0⟩
  obtain rfl := Except.ok.inj hok
  simp only [hborrows, hdeposits, true_and]

lemma bandFromKlendHealth_eq_critical_iff :
    bandFromKlendHealth h = .critical ↔ h.isLiquidatable = true := by
  unfold bandFromKlendHealth
  split_ifs with hliq <;> simp [hliq]

end Grokbotliq.Kamino
