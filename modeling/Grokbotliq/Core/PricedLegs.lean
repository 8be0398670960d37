import Grokbotliq.Core.Health

/-!
# The health of deposits and borrows at given prices

Kamino and Save value an obligation with the same two loops: every deposit that is not empty adds
its value weighted by its liquidation threshold, every borrow that is not empty adds its value,
and the first leg without a price ends the computation with an error.  `legsHealth` is these
loops, over what they read of a leg.

When it returns, both sums are the exact ones (`allowedValue`, `borrowedValue`), and with at most
ten deposits the scaled health factor has room, so the verdict compares the two sums
(`legsLiquidatable_eq_ok`).

Neither the weighting nor the sums nor the scaling overflow: a leg is worth at most a `10^9`-th of
the range, so ten weighted deposits are still far below its top (`allowedValue_room`).  What is
left to go wrong are the powers of ten, and `legsHealth_ne_panic_iff` says which of them are
reached.
-/

namespace Grokbotliq

open MachineInt

/-- An amount of a token. -/
structure TokenLeg where
  mint : Pubkey
  amount : UInt64
  decimals : UInt8
  deriving DecidableEq

/-- A deposit, which counts up to its liquidation threshold, in basis points. -/
structure DepositLeg extends TokenLeg where
  liqThresholdBps : UInt16
  deriving DecidableEq

section Legs

variable {ε : Type} (price : Pubkey → Option PriceFx) (missing : ε)

def legUsd (l : TokenLeg) : Outcome ε ℕ :=
  match price l.mint with
  | none => .err missing
  | some px => amountToUsdMicro l.amount.toNat l.decimals px

def legAllowed (d : DepositLeg) : Outcome ε ℕ := do
  let usd ← legUsd price missing d.toTokenLeg
  let weighted ← checked FitsU128 (usd * d.liqThresholdBps.toNat)
  return weighted / 10000

/-- The health factor, what the deposits allow to borrow, and what is borrowed. -/
def legsHealth (deposits : List DepositLeg) (borrows : List TokenLeg) :
    Outcome ε (HealthFx × ℕ × ℕ) := do
  let allowed ← checkedSum FitsU128 (legAllowed price missing) 0
    (deposits.filter fun d => d.amount ≠ 0)
  let borrowed ← checkedSum FitsU128 (legUsd price missing) 0
    (borrows.filter fun b => b.amount ≠ 0)
  return (healthFactorRatio allowed borrowed, allowed, borrowed)

def legsLiquidatable (deposits : List DepositLeg) (borrows : List TokenLeg) : Outcome ε Bool := do
  let (hf, _, borrowed) ← legsHealth price missing deposits borrows
  return 0 < borrowed && hf.isLiquidatable

/-! ## Exact values -/

/-- The value of a leg in micro-dollars, nothing without a price. -/
def legValue (l : TokenLeg) : ℕ :=
  match price l.mint with
  | none => 0
  | some px => usdMicro l.amount.toNat l.decimals px

def weightedValue (d : DepositLeg) : ℕ :=
  legValue price d.toTokenLeg * d.liqThresholdBps.toNat / 10000

/-- What the deposits allow to borrow, each rounded down. -/
def allowedValue (deposits : List DepositLeg) : ℕ :=
  ((deposits.filter fun d => d.amount ≠ 0).map (weightedValue price)).sum

def borrowedValue (borrows : List TokenLeg) : ℕ :=
  ((borrows.filter fun b => b.amount ≠ 0).map (legValue price)).sum

/-- Every leg that is not empty has a price. -/
def LegsPriced (deposits : List DepositLeg) (borrows : List TokenLeg) : Prop :=
  (∀ d ∈ deposits, d.amount ≠ 0 → price d.mint ≠ none) ∧
    ∀ b ∈ borrows, b.amount ≠ 0 → price b.mint ≠ none

variable {price missing}

lemma legValue_of_some {l : TokenLeg} {px : PriceFx} (h : price l.mint = some px) :
    legValue price l = usdMicro l.amount.toNat l.decimals px := by
  rw [legValue, h]

lemma legUsd_of_none {l : TokenLeg} (h : price l.mint = none) :
    legUsd price missing l = .err missing := by
  rw [legUsd, h]

lemma legUsd_of_some {l : TokenLeg} {px : PriceFx} (h : price l.mint = some px) :
    legUsd price missing l = amountToUsdMicro l.amount.toNat l.decimals px := by
  rw [legUsd, h]

lemma legUsd_eq_ok_iff {l : TokenLeg} {v : ℕ} :
    legUsd price missing l = .ok v ↔
      price l.mint ≠ none ∧ l.decimals.toNat ≤ 38 ∧ v = legValue price l := by
  cases hprice : price l.mint with
  | none =>
      rw [legUsd_of_none hprice]
      simp only [reduceCtorEq, ne_eq, not_true_eq_false, false_and]
  | some px =>
      rw [legUsd_of_some hprice, legValue_of_some hprice, amountToUsdMicro_eq_ok_iff]
      simp only [ne_eq, reduceCtorEq, not_false_iff, true_and]

lemma legUsd_eq_err_iff {l : TokenLeg} {e : ε} :
    legUsd price missing l = .err e ↔ price l.mint = none ∧ e = missing := by
  cases hprice : price l.mint with
  | none =>
      rw [legUsd_of_none hprice, Outcome.err.injEq, eq_comm]
      simp only [true_and]
  | some px =>
      rw [legUsd_of_some hprice]
      simp only [amountToUsdMicro_ne_err, reduceCtorEq, false_and]

lemma legValue_le (l : TokenLeg) : legValue price l ≤ maxU128 / PriceFx.scale := by
  cases hprice : price l.mint with
  | none =>
      rw [legValue, hprice]
      exact Nat.zero_le _
  | some px =>
      rw [legValue_of_some hprice]
      exact usdMicro_le _ _ px

lemma weightedValue_le (d : DepositLeg) :
    weightedValue price d ≤ maxU128 / PriceFx.scale * 65535 / 10000 := by
  apply Nat.div_le_div_right
  exact Nat.mul_le_mul (legValue_le _) (Nat.le_pred_of_lt d.liqThresholdBps.toNat_lt)

lemma fitsU128_weighted (d : DepositLeg) :
    FitsU128 (legValue price d.toTokenLeg * d.liqThresholdBps.toNat) := by
  have hmul : legValue price d.toTokenLeg * d.liqThresholdBps.toNat ≤
      maxU128 / PriceFx.scale * 65535 :=
    Nat.mul_le_mul (legValue_le _) (Nat.le_pred_of_lt d.liqThresholdBps.toNat_lt)
  exact hmul.trans (by norm_num [maxU128, PriceFx.scale])

/-- The weighting never overflows. -/
lemma legAllowed_eq (d : DepositLeg) :
    legAllowed price missing d =
      (do
        let usd ← legUsd price missing d.toTokenLeg
        return usd * d.liqThresholdBps.toNat / 10000) := by
  rw [legAllowed]
  cases husd : legUsd price missing d.toTokenLeg with
  | ok usd =>
      have hfits : FitsU128 (usd * d.liqThresholdBps.toNat) := by
        obtain ⟨-, -, rfl⟩ := legUsd_eq_ok_iff.1 husd
        exact fitsU128_weighted d
      rw [Outcome.ok_bind, Outcome.ok_bind, checked, if_pos hfits, Outcome.ok_bind]
  | err e => rfl
  | panic => rfl

lemma legAllowed_eq_ok_iff {d : DepositLeg} {v : ℕ} :
    legAllowed price missing d = .ok v ↔
      price d.mint ≠ none ∧ d.decimals.toNat ≤ 38 ∧ v = weightedValue price d := by
  rw [legAllowed_eq, Outcome.bind_eq_ok]
  constructor
  · rintro ⟨usd, husd, hdiv⟩
    obtain ⟨hprice, hdec, rfl⟩ := legUsd_eq_ok_iff.1 husd
    cases hdiv
    exact ⟨hprice, hdec, rfl⟩
  · rintro ⟨hprice, hdec, rfl⟩
    exact ⟨_, legUsd_eq_ok_iff.2 ⟨hprice, hdec, rfl⟩, rfl⟩

lemma legAllowed_eq_err_iff {d : DepositLeg} {e : ε} :
    legAllowed price missing d = .err e ↔ price d.mint = none ∧ e = missing := by
  rw [legAllowed_eq, Outcome.bind_eq_err, legUsd_eq_err_iff]
  simp only [Outcome.pure_eq, reduceCtorEq, and_false, exists_false, or_false]

/-! ## The two sums -/

lemma sum_allowed_eq_ok_iff {deposits : List DepositLeg} {total : ℕ} :
    checkedSum FitsU128 (legAllowed price missing) 0 (deposits.filter fun d => d.amount ≠ 0) =
        .ok total ↔
      (∀ d ∈ deposits, d.amount ≠ 0 → price d.mint ≠ none ∧ d.decimals.toNat ≤ 38) ∧
        total = allowedValue price deposits ∧ FitsU128 total := by
  rw [checkedSum_nat_eq_ok_iff fun d v => legAllowed_eq_ok_iff.trans and_assoc.symm,
    ← allowedValue]
  simp only [List.mem_filter, decide_eq_true_eq, and_imp]

lemma sum_borrowed_eq_ok_iff {borrows : List TokenLeg} {total : ℕ} :
    checkedSum FitsU128 (legUsd price missing) 0 (borrows.filter fun b => b.amount ≠ 0) =
        .ok total ↔
      (∀ b ∈ borrows, b.amount ≠ 0 → price b.mint ≠ none ∧ b.decimals.toNat ≤ 38) ∧
        total = borrowedValue price borrows ∧ FitsU128 total := by
  rw [checkedSum_nat_eq_ok_iff fun b v => legUsd_eq_ok_iff.trans and_assoc.symm, ← borrowedValue]
  simp only [List.mem_filter, decide_eq_true_eq, and_imp]

variable {deposits : List DepositLeg} {borrows : List TokenLeg}

lemma legsHealth_eq_ok {r : HealthFx × ℕ × ℕ}
    (h : legsHealth price missing deposits borrows = .ok r) :
    LegsPriced price deposits borrows ∧
      r = (healthFactorRatio (allowedValue price deposits) (borrowedValue price borrows),
        allowedValue price deposits, borrowedValue price borrows) := by
  obtain ⟨allowed, hallowed, hrest⟩ := Outcome.bind_eq_ok.1 h
  obtain ⟨borrowed, hborrowed, hpair⟩ := Outcome.bind_eq_ok.1 hrest
  obtain ⟨hdeposits, rfl, -⟩ := sum_allowed_eq_ok_iff.1 hallowed
  obtain ⟨hborrows, rfl, -⟩ := sum_borrowed_eq_ok_iff.1 hborrowed
  cases hpair
  exact ⟨⟨fun d hd hne => (hdeposits d hd hne).1, fun b hb hne => (hborrows b hb hne).1⟩, rfl⟩

lemma legsHealth_eq_err {e : ε} (h : legsHealth price missing deposits borrows = .err e) :
    e = missing ∧ ¬ LegsPriced price deposits borrows := by
  rcases Outcome.bind_eq_err.1 h with hallowed | ⟨allowed, -, hrest⟩
  · obtain ⟨d, hd, herr⟩ := exists_of_checkedSum_eq_err hallowed
    obtain ⟨hprice, rfl⟩ := legAllowed_eq_err_iff.1 herr
    obtain ⟨hmem, hne⟩ := List.mem_filter.1 hd
    exact ⟨rfl, fun hall => hall.1 d hmem (of_decide_eq_true hne) hprice⟩
  · rcases Outcome.bind_eq_err.1 hrest with hborrowed | ⟨borrowed, -, hpair⟩
    · obtain ⟨b, hb, herr⟩ := exists_of_checkedSum_eq_err hborrowed
      obtain ⟨hprice, rfl⟩ := legUsd_eq_err_iff.1 herr
      obtain ⟨hmem, hne⟩ := List.mem_filter.1 hb
      exact ⟨rfl, fun hall => hall.2 b hmem (of_decide_eq_true hne) hprice⟩
    · cases hpair

/-! ## The verdict -/

/-- Ten deposits leave room for the scale. -/
lemma allowedValue_room (hcount : deposits.length ≤ 10) :
    allowedValue price deposits * HealthFx.scale < 2 ^ 127 := by
  set active := deposits.filter fun d => d.amount ≠ 0 with hactive
  set worth := maxU128 / PriceFx.scale * 65535 / 10000 with hworth
  have hlength : active.length ≤ 10 := (List.length_filter_le _ _).trans hcount
  have hsum : allowedValue price deposits ≤ active.length * worth := by
    have hbound := List.sum_le_card_nsmul (active.map (weightedValue price)) worth (by
      intro v hv
      obtain ⟨d, -, rfl⟩ := List.mem_map.1 hv
      exact weightedValue_le d)
    rwa [List.length_map, smul_eq_mul] at hbound
  calc allowedValue price deposits * HealthFx.scale
      ≤ 10 * worth * HealthFx.scale :=
        Nat.mul_le_mul_right _ (hsum.trans (Nat.mul_le_mul_right _ hlength))
    _ < 2 ^ 127 := by norm_num [hworth, maxU128, PriceFx.scale, HealthFx.scale]

lemma legsLiquidatable_eq_ok (hcount : deposits.length ≤ 10) {b : Bool}
    (h : legsLiquidatable price missing deposits borrows = .ok b) :
    LegsPriced price deposits borrows ∧
      (b = true ↔ 0 < borrowedValue price borrows ∧
        allowedValue price deposits < borrowedValue price borrows) := by
  obtain ⟨r, hhealth, hverdict⟩ := Outcome.bind_eq_ok.1 h
  obtain ⟨hpriced, rfl⟩ := legsHealth_eq_ok hhealth
  refine ⟨hpriced, ?_⟩
  cases hverdict
  rw [Bool.and_eq_true, decide_eq_true_iff]
  exact and_congr_right fun hpos =>
    isLiquidatable_healthFactorRatio_iff hpos (allowedValue_room hcount)

lemma legsLiquidatable_eq_err {e : ε}
    (h : legsLiquidatable price missing deposits borrows = .err e) :
    e = missing ∧ ¬ LegsPriced price deposits borrows := by
  rcases Outcome.bind_eq_err.1 h with hhealth | ⟨r, -, hverdict⟩
  · exact legsHealth_eq_err hhealth
  · cases hverdict

/-- What a verdict says: it compares the exact sums, it is missing where a price is, and the
health factor behind it is the exact ratio. -/
structure ExactVerdict (price : Pubkey → Option PriceFx) (missing : ε)
    (deposits : List DepositLeg) (borrows : List TokenLeg)
    (health : Outcome ε (HealthFx × ℕ × ℕ)) (liquidatable : Outcome ε Bool) : Prop where
  liquidatable_iff : liquidatable = .ok true ↔
    LegsPriced price deposits borrows ∧ 0 < borrowedValue price borrows ∧
      allowedValue price deposits < borrowedValue price borrows
  missing_iff : liquidatable = .err missing ↔ ¬ LegsPriced price deposits borrows
  health_eq : ∀ hf allowed borrowed, health = .ok (hf, allowed, borrowed) →
    allowed = allowedValue price deposits ∧ borrowed = borrowedValue price borrows ∧
      hf.raw = (if borrowed = 0 then 1000 * HealthFx.scale
        else allowed * HealthFx.scale / borrowed : ℕ)

/-- **The verdict is exact** with at most ten deposits, unless a power of ten overflows. -/
theorem legsLiquidatable_exact (hcount : deposits.length ≤ 10)
    (hreturns : legsLiquidatable price missing deposits borrows ≠ .panic) :
    ExactVerdict price missing deposits borrows (legsHealth price missing deposits borrows)
      (legsLiquidatable price missing deposits borrows) where
  liquidatable_iff := by
    cases hverdict : legsLiquidatable price missing deposits borrows with
    | ok b =>
        obtain ⟨hpriced, hiff⟩ := legsLiquidatable_eq_ok hcount hverdict
        rw [Outcome.ok.injEq, hiff]
        simp only [hpriced, true_and]
    | err e =>
        obtain ⟨-, hunpriced⟩ := legsLiquidatable_eq_err hverdict
        simp only [hunpriced, reduceCtorEq, false_and]
    | panic => exact absurd hverdict hreturns
  missing_iff := by
    cases hverdict : legsLiquidatable price missing deposits borrows with
    | ok b =>
        obtain ⟨hpriced, -⟩ := legsLiquidatable_eq_ok hcount hverdict
        simp only [hpriced, reduceCtorEq, not_true_eq_false]
    | err e =>
        obtain ⟨rfl, hunpriced⟩ := legsLiquidatable_eq_err hverdict
        simp only [hunpriced, not_false_iff]
    | panic => exact absurd hverdict hreturns
  health_eq := by
    intro hf allowed borrowed hhealth
    obtain ⟨-, hpair⟩ := legsHealth_eq_ok hhealth
    cases hpair
    refine ⟨rfl, rfl, ?_⟩
    -- Nothing borrowed is the highest health there is; otherwise the quotient is rounded down.
    split_ifs with hzero
    · rw [healthFactorRatio, if_pos hzero]
      push_cast
      rfl
    · exact healthFactorRatio_raw (Nat.pos_of_ne_zero hzero) (allowedValue_room hcount)

/-! ## Prices that move against the borrower

Both sums are monotone in the prices, so the comparison can only go one way. -/

variable {price' : Pubkey → Option PriceFx}

lemma legValue_mono {l : TokenLeg} (h : price l.mint ≠ none) (h' : price' l.mint ≠ none)
    (hle : ∀ px px', price l.mint = some px → price' l.mint = some px' → px' ≤ px) :
    legValue price' l ≤ legValue price l := by
  obtain ⟨px, hpx⟩ := Option.ne_none_iff_exists'.1 h
  obtain ⟨px', hpx'⟩ := Option.ne_none_iff_exists'.1 h'
  rw [legValue_of_some hpx, legValue_of_some hpx']
  exact usdMicro_mono _ _ (hle px px' hpx hpx')

/-- Where every deposit is priced no higher and every borrow no lower, what was liquidatable
stays so. -/
theorem legsLiquidatable_mono (hcount : deposits.length ≤ 10)
    (hdeposits : ∀ d ∈ deposits, ∀ px px', price d.mint = some px → price' d.mint = some px' →
      px' ≤ px)
    (hborrows : ∀ b ∈ borrows, ∀ px px', price b.mint = some px → price' b.mint = some px' →
      px ≤ px')
    (hbefore : legsLiquidatable price missing deposits borrows = .ok true) {b : Bool}
    (hafter : legsLiquidatable price' missing deposits borrows = .ok b) : b = true := by
  obtain ⟨hpriced, hiff⟩ := legsLiquidatable_eq_ok hcount hbefore
  obtain ⟨hpriced', hiff'⟩ := legsLiquidatable_eq_ok hcount hafter
  obtain ⟨hpos, hlt⟩ := hiff.1 rfl
  -- Leg by leg, the deposits are worth no more and the borrows no less.
  have hallowed : allowedValue price' deposits ≤ allowedValue price deposits := by
    apply List.sum_le_sum
    intro d hd
    obtain ⟨hmem, hactive⟩ := List.mem_filter.1 hd
    have hne := of_decide_eq_true hactive
    apply Nat.div_le_div_right
    apply Nat.mul_le_mul_right
    exact legValue_mono (hpriced.1 d hmem hne) (hpriced'.1 d hmem hne) (hdeposits d hmem)
  have hborrowed : borrowedValue price borrows ≤ borrowedValue price' borrows := by
    apply List.sum_le_sum
    intro l hl
    obtain ⟨hmem, hactive⟩ := List.mem_filter.1 hl
    have hne := of_decide_eq_true hactive
    refine legValue_mono (hpriced'.2 l hmem hne) (hpriced.2 l hmem hne) ?_
    intro px' px hpx' hpx
    exact hborrows l hmem px px' hpx hpx'
  exact hiff'.2 ⟨hpos.trans_le hborrowed, hallowed.trans_lt (hlt.trans_le hborrowed)⟩

/-! ## Powers of ten -/

lemma legUsd_eq_panic_iff {l : TokenLeg} :
    legUsd price missing l = .panic ↔ price l.mint ≠ none ∧ 38 < l.decimals.toNat := by
  cases hprice : price l.mint with
  | none =>
      rw [legUsd_of_none hprice]
      simp only [reduceCtorEq, ne_eq, not_true_eq_false, false_and]
  | some px =>
      rw [legUsd_of_some hprice]
      rcases Nat.lt_or_ge 38 l.decimals.toNat with hlarge | hsmall
      · rw [amountToUsdMicro_of_lt hlarge]
        simp only [ne_eq, reduceCtorEq, not_false_iff, hlarge, and_self]
      · rw [amountToUsdMicro_of_le hsmall]
        simp only [reduceCtorEq, false_iff, not_and, not_lt]
        exact fun _ => hsmall

lemma legAllowed_eq_panic_iff {d : DepositLeg} :
    legAllowed price missing d = .panic ↔ price d.mint ≠ none ∧ 38 < d.decimals.toNat := by
  rw [legAllowed_eq, Outcome.bind_eq_panic, legUsd_eq_panic_iff]
  simp only [Outcome.pure_eq, reduceCtorEq, and_false, exists_false, or_false]

lemma sum_allowed_eq_panic_iff (hone : deposits.length ≤ 1) :
    checkedSum FitsU128 (legAllowed price missing) 0 (deposits.filter fun d => d.amount ≠ 0) =
        .panic ↔
      ∃ d ∈ deposits, d.amount ≠ 0 ∧ price d.mint ≠ none ∧ 38 < d.decimals.toNat := by
  have hfits : ∀ d ∈ deposits.filter fun d => d.amount ≠ 0, ∀ v,
      legAllowed price missing d = .ok v → FitsU128 v := by
    intro d _ v hv
    obtain ⟨-, -, rfl⟩ := legAllowed_eq_ok_iff.1 hv
    exact (weightedValue_le d).trans (by norm_num [maxU128, PriceFx.scale])
  rw [checkedSum_eq_panic_iff ((List.length_filter_le _ _).trans hone) hfits]
  simp only [legAllowed_eq_panic_iff, List.mem_filter, decide_eq_true_eq, and_assoc]

lemma sum_borrowed_eq_panic_iff (hone : borrows.length ≤ 1) :
    checkedSum FitsU128 (legUsd price missing) 0 (borrows.filter fun b => b.amount ≠ 0) =
        .panic ↔
      ∃ b ∈ borrows, b.amount ≠ 0 ∧ price b.mint ≠ none ∧ 38 < b.decimals.toNat := by
  have hfits : ∀ b ∈ borrows.filter fun b => b.amount ≠ 0, ∀ v,
      legUsd price missing b = .ok v → FitsU128 v := by
    intro b _ v hv
    obtain ⟨-, -, rfl⟩ := legUsd_eq_ok_iff.1 hv
    exact (legValue_le b).trans (by norm_num [maxU128, PriceFx.scale])
  rw [checkedSum_eq_panic_iff ((List.length_filter_le _ _).trans hone) hfits]
  simp only [legUsd_eq_panic_iff, List.mem_filter, decide_eq_true_eq, and_assoc]

/-- No power of ten that is reached overflows: those of the deposits in use, and of the borrows
unless a deposit without a price comes before them. -/
def PowersFit (price : Pubkey → Option PriceFx) (deposits : List DepositLeg)
    (borrows : List TokenLeg) : Prop :=
  (∀ d ∈ deposits, d.amount ≠ 0 → price d.mint ≠ none → d.decimals.toNat ≤ 38) ∧
    ((∀ d ∈ deposits, d.amount ≠ 0 → price d.mint ≠ none) →
      ∀ b ∈ borrows, b.amount ≠ 0 → price b.mint ≠ none → b.decimals.toNat ≤ 38)

/-- Where no power of ten overflows, the deposits are added up when all are priced. -/
lemma exists_sum_allowed_eq_ok_iff (hcount : deposits.length ≤ 10)
    (hdec : ∀ d ∈ deposits, d.amount ≠ 0 → price d.mint ≠ none → d.decimals.toNat ≤ 38) :
    (∃ allowed, checkedSum FitsU128 (legAllowed price missing) 0
      (deposits.filter fun d => d.amount ≠ 0) = .ok allowed) ↔
        ∀ d ∈ deposits, d.amount ≠ 0 → price d.mint ≠ none := by
  constructor
  · rintro ⟨allowed, hok⟩ d hd hne
    exact ((sum_allowed_eq_ok_iff.1 hok).1 d hd hne).1
  · intro hpriced
    have hroom : allowedValue price deposits * HealthFx.scale < 2 ^ 127 := allowedValue_room hcount
    refine ⟨allowedValue price deposits, sum_allowed_eq_ok_iff.2 ⟨?_, rfl, ?_⟩⟩
    · intro d hd hne
      exact ⟨hpriced d hd hne, hdec d hd hne (hpriced d hd hne)⟩
    · rw [HealthFx.scale] at hroom
      rw [FitsU128, maxU128]
      omega

/-- With one deposit and one borrow at most there is nothing else to overflow. -/
theorem legsHealth_ne_panic_iff (hdeposits : deposits.length ≤ 1) (hborrows : borrows.length ≤ 1) :
    legsHealth price missing deposits borrows ≠ .panic ↔ PowersFit price deposits borrows := by
  have hallowed : ¬ checkedSum FitsU128 (legAllowed price missing) 0
      (deposits.filter fun d => d.amount ≠ 0) = .panic ↔
        ∀ d ∈ deposits, d.amount ≠ 0 → price d.mint ≠ none → d.decimals.toNat ≤ 38 := by
    rw [sum_allowed_eq_panic_iff hdeposits]
    push Not
    rfl
  have hborrowed : ¬ checkedSum FitsU128 (legUsd price missing) 0
      (borrows.filter fun b => b.amount ≠ 0) = .panic ↔
        ∀ b ∈ borrows, b.amount ≠ 0 → price b.mint ≠ none → b.decimals.toNat ≤ 38 := by
    rw [sum_borrowed_eq_panic_iff hborrows]
    push Not
    rfl
  rw [legsHealth, ne_eq, Outcome.bind_eq_panic, not_or, hallowed, PowersFit]
  refine and_congr_right fun hdec => ?_
  have hcount : deposits.length ≤ 10 := hdeposits.trans (by norm_num)
  rw [← exists_sum_allowed_eq_ok_iff hcount hdec, ← hborrowed]
  -- The borrows are priced only after the deposits, so only when these have not ended the call.
  constructor
  · rintro hnone ⟨allowed, hok⟩ hpanic
    exact hnone ⟨allowed, hok, Outcome.bind_eq_panic.2 (.inl hpanic)⟩
  · rintro himp ⟨allowed, hok, hrest⟩
    rcases Outcome.bind_eq_panic.1 hrest with hpanic | ⟨borrowed, -, hpair⟩
    · exact himp ⟨allowed, hok⟩ hpanic
    · cases hpair

end Legs

end Grokbotliq
