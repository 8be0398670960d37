import Grokbotliq.Streaming.Discovery

/-!
# The liquidatable flag and the health factor

`computeObligationHealthLiveWithElevation` sets the flag by comparing the debt with what the
collateral is held against, and the health factor by dividing the two.  The division has a case of
its own: with nothing that debt could be held against the factor is the healthy 1000, where the
comparison is at its worst.  The band follows the flag; the ranking of the candidates and the
filter of the shadow run follow the factor.

Both the comparison and the division are over the same two sums.  They disagree in one case only,
a debt and no threshold to set against it, and `flagAgrees_iff` is the statement that this case is
the exception.
-/

namespace Grokbotliq.Kamino

/-! ## What the health factor divides -/

section Sums

variable (reserves : Reserves) (groups : ElevationGroups) (pos : LiveObligationPositions)

/-- The debt of the priced borrows. -/
def pricedDebt : ℚ :=
  pricedSum reserves LiveBorrowPosition.borrowedAmountSf LiveBorrowPosition.reserve
    (borrowDebt (elevationOf pos groups)) pos.borrows

/-- The value of the priced deposits. -/
def pricedCollateral : ℚ :=
  pricedSum reserves LiveDepositPosition.depositedAmount LiveDepositPosition.reserve depositUsd
    pos.deposits

/-- What debt is held against. -/
def pricedThreshold : ℚ :=
  pricedSum reserves LiveDepositPosition.depositedAmount LiveDepositPosition.reserve
    (depositThreshold (elevationOf pos groups)) pos.deposits

/-- The threshold that applies to deposits in reserve `r`, in percent. -/
def thresholdPct (r : LiveReserveRisk) : UInt8 :=
  (elevationOf pos groups).elim r.liquidationThresholdPct (·.liquidationThresholdPct)

/-- Some deposit of value counts towards the threshold. -/
def SomeDepositCounts : Prop :=
  ∃ d ∈ pos.deposits, d.depositedAmount ≠ 0 ∧ ∃ r, pricedReserve reserves d.reserve = some r ∧
    0 < depositUsd r d ∧ thresholdPct groups pos r ≠ 0

end Sums

variable {reserves : Reserves} {groups : ElevationGroups} {pos : LiveObligationPositions}
  {c : Base58} {h : KlendComputedHealth}

lemma tokensToUsd_nonneg (tokenAmount : ℚ) (decimals : UInt8) (priceSf : ℕ) :
    0 ≤ tokensToUsd tokenAmount decimals priceSf := by
  rw [tokensToUsd]
  split_ifs with hzero
  · exact le_rfl
  · dsimp only
    split_ifs with hneg
    · exact le_rfl
    · exact le_of_not_ge hneg

lemma depositThreshold_pos_iff (r : LiveReserveRisk) (d : LiveDepositPosition) :
    0 < depositThreshold (elevationOf pos groups) r d ↔
      0 < depositUsd r d ∧ thresholdPct groups pos r ≠ 0 := by
  have husd : 0 ≤ depositUsd r d := tokensToUsd_nonneg _ _ _
  have hpct : 0 < (thresholdPct groups pos r).toNat ↔ thresholdPct groups pos r ≠ 0 := by
    rw [Nat.pos_iff_ne_zero, ne_eq, ne_eq, ← UInt8.toNat_inj, UInt8.toNat_zero]
  rw [depositThreshold, ← thresholdPct, div_pos_iff_of_pos_right (by norm_num), ← hpct]
  constructor
  · intro hpos
    have hne := hpos.ne'
    rw [mul_ne_zero_iff, Nat.cast_ne_zero] at hne
    exact ⟨husd.lt_of_ne' hne.1, Nat.pos_of_ne_zero hne.2⟩
  · rintro ⟨hvalue, hthreshold⟩
    exact mul_pos hvalue (Nat.cast_pos.2 hthreshold)

lemma depositThreshold_nonneg (r : LiveReserveRisk) (d : LiveDepositPosition) :
    0 ≤ depositThreshold (elevationOf pos groups) r d := by
  apply div_nonneg
  · exact mul_nonneg (tokensToUsd_nonneg _ _ _) (Nat.cast_nonneg _)
  · norm_num

/-- A sum of what is not negative is positive when one of its terms is. -/
lemma sum_pos_iff_of_nonneg {α : Type} {f : α → ℚ} (hf : ∀ x, 0 ≤ f x) (xs : List α) :
    0 < (xs.map f).sum ↔ ∃ x ∈ xs, 0 < f x := by
  have hzero : (xs.map fun _ => (0 : ℚ)).sum = 0 := by simp
  constructor
  · intro hpos
    apply List.exists_lt_of_sum_lt (fun _ => (0 : ℚ)) f
    rwa [hzero]
  · intro hterm
    rw [← hzero]
    exact List.sum_lt_sum _ _ (fun x _ => hf x) hterm

/-- A sum of what the legs are worth is positive when one of them is worth something. -/
lemma pricedSum_pos_iff {Leg : Type} {amount : Leg → ℕ} {reserve : Leg → Pubkey}
    {worth : LiveReserveRisk → Leg → ℚ} (hworth : ∀ r l, 0 ≤ worth r l) (legs : List Leg) :
    0 < pricedSum reserves amount reserve worth legs ↔
      ∃ l ∈ legs, amount l ≠ 0 ∧ ∃ r, pricedReserve reserves (reserve l) = some r ∧
        0 < worth r l := by
  -- No leg is worth less than nothing, so the sum is positive when one leg is.
  have hnonneg : ∀ l : Leg, 0 ≤ (if amount l = 0 then 0
      else (pricedReserve reserves (reserve l)).elim 0 (worth · l)) := by
    intro l
    split_ifs with hidle
    · exact le_rfl
    · cases pricedReserve reserves (reserve l) with
      | none => exact le_rfl
      | some r => exact hworth r l
  have hleg : ∀ l : Leg, 0 < (if amount l = 0 then 0
      else (pricedReserve reserves (reserve l)).elim 0 (worth · l)) ↔
        amount l ≠ 0 ∧ ∃ r, pricedReserve reserves (reserve l) = some r ∧ 0 < worth r l := by
    intro l
    split_ifs with hidle
    · simp [hidle]
    · cases pricedReserve reserves (reserve l) <;> simp [hidle]
  rw [pricedSum, sum_pos_iff_of_nonneg hnonneg]
  simp only [hleg]

lemma pricedThreshold_pos_iff :
    0 < pricedThreshold reserves groups pos ↔ SomeDepositCounts reserves groups pos := by
  rw [pricedThreshold, pricedSum_pos_iff depositThreshold_nonneg]
  simp only [depositThreshold_pos_iff, SomeDepositCounts]

/-- The health factor of the whole computation. -/
lemma healthFactor_eq
    (hok : computeObligationHealthLiveWithElevation c pos reserves groups = .ok h) :
    h.healthFactor =
      if pricedDebt reserves groups pos ≤ 0 then 1000
      else if pricedThreshold reserves groups pos ≤ 0 then 1000
      else pricedThreshold reserves groups pos / pricedDebt reserves groups pos := by
  have hthreshold := (countsPriced_depositThreshold c reserves
    (elevationOf pos groups)).total_foldl pos.deposits ⟨[], 0, 0, 0⟩
  have hdebt := (countsPriced_borrowDebt c reserves (elevationOf pos groups)).total_foldl
    pos.borrows ⟨(pos.deposits.foldl (depositStep c reserves (elevationOf pos groups))
      ⟨[], 0, 0, 0⟩).missing, 0, 0⟩
  rw [zero_add] at hthreshold hdebt
  obtain rfl := Except.ok.inj hok
  simp only [hthreshold, hdebt]
  rfl

/-! ## Where they agree -/

/-- What is flagged has a factor below one, and is in the critical band with it. -/
def FlagAgrees (h : KlendComputedHealth) : Prop :=
  h.isLiquidatable = true → bandFromKlendHealth h = .critical ∧ h.healthFactor < 1

/-- **The flag and the factor agree** unless debt and collateral are more than dust and no deposit
of value has a threshold. -/
theorem flagAgrees_iff (c : Base58) (pos : LiveObligationPositions) (reserves : Reserves)
    (groups : ElevationGroups) :
    (∃ h, computeObligationHealthLiveWithElevation c pos reserves groups = .ok h ∧
      FlagAgrees h) ↔
    (minLiquidationNotionalUsd ≤ pricedDebt reserves groups pos →
      minLiquidationNotionalUsd ≤ pricedCollateral reserves pos →
        SomeDepositCounts reserves groups pos) := by
  obtain ⟨h, hok⟩ : ∃ h, computeObligationHealthLiveWithElevation c pos reserves groups = .ok h :=
    ⟨_, rfl⟩
  have hflag : h.isLiquidatable = true ↔
      minLiquidationNotionalUsd ≤ pricedDebt reserves groups pos ∧
        minLiquidationNotionalUsd ≤ pricedCollateral reserves pos ∧
          pricedThreshold reserves groups pos < pricedDebt reserves groups pos :=
    isLiquidatable_iff hok
  have hfactor := healthFactor_eq hok
  have hdust : 0 < minLiquidationNotionalUsd := by norm_num [minLiquidationNotionalUsd]
  rw [← pricedThreshold_pos_iff]
  constructor
  · rintro ⟨h', hok', hagrees⟩ hdebt hcollateral
    obtain rfl : h = h' := Except.ok.inj (hok.symm.trans hok')
    -- No deposit counts: the account is flagged, and its health is the highest there is.
    by_contra hnone
    have hpos : 0 < pricedDebt reserves groups pos := hdust.trans_le hdebt
    have hworst := (not_lt.1 hnone).trans_lt hpos
    obtain ⟨-, hlow⟩ := hagrees (hflag.2 ⟨hdebt, hcollateral, hworst⟩)
    rw [hfactor, if_neg hpos.not_ge, if_pos (not_lt.1 hnone)] at hlow
    norm_num at hlow
  · intro hcounts
    refine ⟨h, hok, fun hset => ⟨bandFromKlendHealth_eq_critical_iff.2 hset, ?_⟩⟩
    obtain ⟨hdebt, hcollateral, hlt⟩ := hflag.1 hset
    have hpos : 0 < pricedDebt reserves groups pos := hdust.trans_le hdebt
    rw [hfactor, if_neg hpos.not_ge, if_neg (hcounts hdebt hcollateral).not_ge, div_lt_one hpos]
    exact hlt

/-- The known reserves, the first of them with a threshold of 0%. -/
def zeroThreshold : Reserves :=
  ((∅ : Reserves).insert (Pubkey.test 3 1)
    { Discovery.dollarReserve 1 with liquidationThresholdPct := 0 }).insert (Pubkey.test 3 3)
    (Discovery.dollarReserve 3)

/-- 100 dollars that count for nothing, against a debt of 90. -/
def uncounted : LiveObligationPositions where
  header := threeReservesPositions.header
  deposits := [⟨Pubkey.test 3 1, 100, 0⟩]
  borrows := [⟨Pubkey.test 3 3, 90 * fractionScale, 0⟩]

/-- It is flagged, and in the critical band, with the health factor of an obligation without
debt. -/
theorem critical_with_healthy_factor :
    ∃ h, computeObligationHealthLiveWithElevation .bitcoin uncounted zeroThreshold none = .ok h ∧
      h.isLiquidatable = true ∧ bandFromKlendHealth h = .critical ∧ h.healthFactor = 1000 := by
  obtain ⟨h, hok⟩ : ∃ h, computeObligationHealthLiveWithElevation .bitcoin uncounted
    zeroThreshold none = .ok h := ⟨_, rfl⟩
  have hliq : h.isLiquidatable = true := by
    rw [isLiquidatable_iff hok]
    decide +kernel
  have hfactor : h.healthFactor = 1000 := by
    rw [healthFactor_eq hok]
    decide +kernel
  exact ⟨h, hok, hliq, bandFromKlendHealth_eq_critical_iff.2 hliq, hfactor⟩

end Grokbotliq.Kamino
