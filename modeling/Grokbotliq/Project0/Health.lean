import Grokbotliq.Core.Health

/-!
# Maintenance health of a Project0 account

Assets count at `P * (1 - c)` and their maintenance weight, liabilities at `P * (1 + c)` and
theirs, where the confidence `c` is capped at 5%.  The health is the difference of the two sums,
and negative where the account can be liquidated.

A health that is returned is a sum over the balances (`maintenanceHealth_eq_ok_iff`), and a sum
does not depend on the order and grows with its summands.  An error does depend on the order only
where another balance panics, since every error that the loop returns is the same one.
-/

namespace Grokbotliq.Project0

open MachineInt

inductive P0Error
  | missingPrice
  | healthy
  | profitCap
  | feeState (message : String)
  | paused
  deriving DecidableEq

structure BankMeta where
  bank : Pubkey
  mint : Pubkey
  /-- `1e6` is 1. -/
  maintAssetWeightFx : UInt64
  maintLiabWeightFx : UInt64
  decimals : UInt8
  deriving DecidableEq

inductive BalanceKind
  | asset
  | liability
  | empty
  deriving DecidableEq

structure Balance where
  bank : Pubkey
  kind : BalanceKind
  amount : UInt64
  deriving DecidableEq

structure MarginfiAccountView where
  address : Pubkey
  group : Pubkey
  balances : List Balance
  deriving DecidableEq

structure BankBook where
  banks : List BankMeta
  /-- Prices by mint. -/
  prices : List (Pubkey × PriceFx)
  /-- Confidences by mint, in millionths. -/
  confidence : List (Pubkey × UInt64)

/-- 5% in millionths. -/
def maxConfidence : UInt64 := 50000

namespace BankBook

def bankOf (book : BankBook) (key : Pubkey) : Option BankMeta :=
  book.banks.find? fun b => b.bank = key

def price (book : BankBook) (mint : Pubkey) : Option PriceFx := firstPrice book.prices mint

/-- The confidence of a mint, capped; 0 where none is given. -/
def conf (book : BankBook) (mint : Pubkey) : UInt64 :=
  ((book.confidence.find? fun entry => entry.1 = mint).map
    fun entry => min entry.2 maxConfidence).getD 0

end BankBook

/-- `option.ok_or(P0Error::MissingPrice)`. -/
def orMissing {α : Type} : Option α → Outcome P0Error α
  | none => .err .missingPrice
  | some a => .ok a

/-- A price times so many millionths. -/
def scaledPrice (px : PriceFx) (millionths : ℕ) : PriceFx :=
  ⟨satMulU128 px.raw millionths / 1000000,
    Nat.lt_of_le_of_lt (Nat.div_le_self _ _) (satMulU128_lt _ _)⟩

/-- `usd as i128 * weight as i128 / 1_000_000`. -/
def weighted (usd : ℕ) (weight : UInt64) : Outcome P0Error ℤ := do
  let product ← checked FitsI128 (asI128 usd * weight.toNat)
  return product.tdiv 1000000

/-- What a balance adds to the assets and to the liabilities. -/
def balanceWorth (book : BankBook) (bal : Balance) : Outcome P0Error (ℤ × ℤ) := do
  let bank ← orMissing (book.bankOf bal.bank)
  let px ← orMissing (book.price bank.mint)
  let c := (book.conf bank.mint).toNat
  match bal.kind with
  | .asset =>
    let usd ← amountToUsdMicro bal.amount.toNat bank.decimals (scaledPrice px (1000000 - c))
    let value ← weighted usd bank.maintAssetWeightFx
    return (value, 0)
  | .liability =>
    let usd ← amountToUsdMicro bal.amount.toNat bank.decimals (scaledPrice px (1000000 + c))
    let value ← weighted usd bank.maintLiabWeightFx
    return (0, value)
  | .empty => return (0, 0)

/-- The two running totals. -/
abbrev FitsTotals (t : ℤ × ℤ) : Prop := FitsI128 t.1 ∧ FitsI128 t.2

def Balance.Counts (bal : Balance) : Prop := ¬ (bal.kind = .empty ∨ bal.amount = 0)

instance : DecidablePred Balance.Counts := fun bal =>
  inferInstanceAs (Decidable (¬ (bal.kind = .empty ∨ bal.amount = 0)))

/-- Maintenance health in weighted micro-dollars; it can be negative. -/
def maintenanceHealth (account : MarginfiAccountView) (book : BankBook) : Outcome P0Error ℤ := do
  let (assets, liabs) ← checkedSum FitsTotals (balanceWorth book) 0
    (account.balances.filter fun bal => bal.Counts)
  checked FitsI128 (assets - liabs)

/-! ## What a balance is worth -/

/-- The exact value of an amount at a price, weighted. -/
def weightedUsd (bal : Balance) (bank : BankMeta) (px : PriceFx) (weight : UInt64) : ℕ :=
  usdMicro bal.amount.toNat bank.decimals px * weight.toNat / 1000000

/-- What a balance adds, nothing without a bank or a price. -/
def balanceValue (book : BankBook) (bal : Balance) : ℤ × ℤ :=
  match book.bankOf bal.bank with
  | none => 0
  | some bank =>
    match book.price bank.mint with
    | none => 0
    | some px =>
      let c := (book.conf bank.mint).toNat
      match bal.kind with
      | .asset => (weightedUsd bal bank (scaledPrice px (1000000 - c)) bank.maintAssetWeightFx, 0)
      | .liability =>
        (0, weightedUsd bal bank (scaledPrice px (1000000 + c)) bank.maintLiabWeightFx)
      | .empty => 0

lemma weighted_eq_ok {usd : ℕ} {weight : UInt64} {v : ℤ} (husd : usd ≤ maxU128 / PriceFx.scale)
    (h : weighted usd weight = .ok v) : v = (usd * weight.toNat / 1000000 : ℕ) := by
  have hcast : asI128 usd = usd :=
    asI128_of_lt (husd.trans_lt (by norm_num [maxU128, PriceFx.scale]))
  obtain ⟨product, hproduct, hdiv⟩ := Outcome.bind_eq_ok.1 h
  obtain ⟨rfl, -⟩ := checked_eq_ok_iff.1 hproduct
  cases hdiv
  rw [hcast, ← Nat.cast_mul]
  rfl

lemma weighted_ne_err {usd : ℕ} {weight : UInt64} {e : P0Error} : weighted usd weight ≠ .err e := by
  intro h
  rcases Outcome.bind_eq_err.1 h with hproduct | ⟨product, -, hdiv⟩
  · exact checked_ne_err hproduct
  · cases hdiv

lemma orMissing_eq_ok {α : Type} {x : Option α} {a : α} (h : orMissing x = .ok a) :
    x = some a := by
  cases x with
  | none => cases h
  | some b =>
      cases h
      rfl

lemma orMissing_eq_err {α : Type} {x : Option α} {e : P0Error} (h : orMissing x = .err e) :
    e = .missingPrice := by
  cases x with
  | none =>
      cases h
      rfl
  | some b => cases h

/-! Assets and liabilities are valued alike: `pair` puts the value in its place. -/

section Side

variable {bal : Balance} {bank : BankMeta} {px : PriceFx} {weight : UInt64} {pair : ℤ → ℤ × ℤ}

lemma side_eq_ok {v : ℤ × ℤ}
    (h : (do
      let usd ← amountToUsdMicro bal.amount.toNat bank.decimals px
      let value ← weighted usd weight
      return pair value : Outcome P0Error (ℤ × ℤ)) = .ok v) :
    v = pair (weightedUsd bal bank px weight) := by
  obtain ⟨usd, husd, hvalue⟩ := Outcome.bind_eq_ok.1 h
  obtain ⟨value, hweighted, hpair⟩ := Outcome.bind_eq_ok.1 hvalue
  obtain ⟨-, rfl⟩ := amountToUsdMicro_eq_ok_iff.1 husd
  cases hpair
  rw [weighted_eq_ok (usdMicro_le _ _ _) hweighted]
  rfl

lemma side_ne_err {e : P0Error} :
    (do
      let usd ← amountToUsdMicro bal.amount.toNat bank.decimals px
      let value ← weighted usd weight
      return pair value : Outcome P0Error (ℤ × ℤ)) ≠ .err e := by
  intro h
  rcases Outcome.bind_eq_err.1 h with husd | ⟨usd, -, hvalue⟩
  · exact amountToUsdMicro_ne_err husd
  rcases Outcome.bind_eq_err.1 hvalue with hweighted | ⟨value, -, hpair⟩
  · exact weighted_ne_err hweighted
  · cases hpair

end Side

/-- A balance that is worth something has a bank and a price. -/
lemma balanceWorth_eq_ok {book : BankBook} {bal : Balance} {v : ℤ × ℤ}
    (h : balanceWorth book bal = .ok v) :
    (∃ bank px, book.bankOf bal.bank = some bank ∧ book.price bank.mint = some px) ∧
      v = balanceValue book bal := by
  obtain ⟨bank, hbank, hrest⟩ := Outcome.bind_eq_ok.1 h
  obtain ⟨px, hpx, hkind⟩ := Outcome.bind_eq_ok.1 hrest
  have hbank := orMissing_eq_ok hbank
  have hpx := orMissing_eq_ok hpx
  refine ⟨⟨bank, px, hbank, hpx⟩, ?_⟩
  simp only [balanceValue, hbank, hpx]
  cases hkindOf : bal.kind with
  | asset =>
      simp only [hkindOf] at hkind
      exact side_eq_ok hkind
  | liability =>
      simp only [hkindOf] at hkind
      exact side_eq_ok hkind
  | empty =>
      simp only [hkindOf] at hkind
      cases hkind
      rfl

/-- Past the two lookups nothing is missing any more. -/
lemma balanceWorth_eq_err {book : BankBook} {bal : Balance} {e : P0Error}
    (h : balanceWorth book bal = .err e) : e = .missingPrice := by
  rcases Outcome.bind_eq_err.1 h with hbank | ⟨bank, -, hrest⟩
  · exact orMissing_eq_err hbank
  rcases Outcome.bind_eq_err.1 hrest with hpx | ⟨px, -, hkind⟩
  · exact orMissing_eq_err hpx
  cases hkindOf : bal.kind with
  | asset =>
      simp only [hkindOf] at hkind
      exact absurd hkind side_ne_err
  | liability =>
      simp only [hkindOf] at hkind
      exact absurd hkind side_ne_err
  | empty =>
      simp only [hkindOf] at hkind
      cases hkind

lemma balanceValue_nonneg (book : BankBook) (bal : Balance) : 0 ≤ balanceValue book bal := by
  rw [balanceValue]
  cases book.bankOf bal.bank with
  | none => exact le_rfl
  | some bank =>
      dsimp only
      cases book.price bank.mint with
      | none => exact le_rfl
      | some px =>
          dsimp only
          cases bal.kind with
          | asset => exact ⟨Int.natCast_nonneg _, le_rfl⟩
          | liability => exact ⟨le_rfl, Int.natCast_nonneg _⟩
          | empty => exact le_rfl

/-! ## The health as one sum -/

/-- Assets less liabilities. -/
def net : ℤ × ℤ →+ ℤ := AddMonoidHom.fst ℤ ℤ - AddMonoidHom.snd ℤ ℤ

lemma net_apply (t : ℤ × ℤ) : net t = t.1 - t.2 := rfl

/-- Every balance that counts is worth something. -/
def AllWorth (book : BankBook) (balances : List Balance) : Prop :=
  ∀ bal ∈ balances.filter fun bal => bal.Counts, ∃ v, balanceWorth book bal = .ok v

lemma fitsTotals_of_le (a b : ℤ × ℤ) (ha : 0 ≤ a) (hab : a ≤ b) (hb : FitsTotals b) :
    FitsTotals a := by
  obtain ⟨hb1, hb2⟩ := hb
  have h1 : (0 : ℤ) ≤ a.1 := ha.1
  have h2 : (0 : ℤ) ≤ a.2 := ha.2
  have h3 : a.1 ≤ b.1 := hab.1
  have h4 : a.2 ≤ b.2 := hab.2
  exact ⟨⟨by omega, by omega⟩, ⟨by omega, by omega⟩⟩

variable {account account' : MarginfiAccountView} {book book' : BankBook}

/-- The exact totals of the balances that count. -/
def totals (book : BankBook) (balances : List Balance) : ℤ × ℤ :=
  ((balances.filter fun bal => bal.Counts).map (balanceValue book)).sum

lemma maintenanceHealth_eq_ok_iff {health : ℤ} :
    maintenanceHealth account book = .ok health ↔
      AllWorth book account.balances ∧ FitsTotals (totals book account.balances) ∧
        health = net (totals book account.balances) := by
  -- The loop is a checked sum of pairs, each not negative.
  have hsum : ∀ t : ℤ × ℤ, checkedSum FitsTotals (balanceWorth book) 0
      (account.balances.filter fun bal => bal.Counts) = .ok t ↔
        AllWorth book account.balances ∧ t = totals book account.balances ∧ FitsTotals t := by
    intro t
    have hvalue : ∀ bal ∈ account.balances.filter fun bal => bal.Counts, ∀ v,
        balanceWorth book bal = .ok v → v = balanceValue book bal ∧ 0 ≤ v := by
      intro bal _ v hv
      obtain ⟨-, rfl⟩ := balanceWorth_eq_ok hv
      exact ⟨rfl, balanceValue_nonneg book bal⟩
    rw [checkedSum_eq_ok_iff fitsTotals_of_le hvalue le_rfl (by decide), zero_add]
    rfl
  have hnonneg : 0 ≤ totals book account.balances := by
    apply List.sum_nonneg
    intro v hv
    obtain ⟨bal, -, rfl⟩ := List.mem_map.1 hv
    exact balanceValue_nonneg book bal
  rw [maintenanceHealth, Outcome.bind_eq_ok]
  constructor
  · rintro ⟨t, ht, hdiff⟩
    obtain ⟨hall, rfl, hfits⟩ := (hsum t).1 ht
    obtain ⟨rfl, -⟩ := checked_eq_ok_iff.1 hdiff
    exact ⟨hall, hfits, rfl⟩
  · rintro ⟨hall, hfits, rfl⟩
    refine ⟨_, (hsum _).2 ⟨hall, rfl, hfits⟩, checked_eq_ok_iff.2 ⟨rfl, ?_⟩⟩
    -- neither total is negative, so their difference is in range with them
    have hassets : (0 : ℤ) ≤ (totals book account.balances).1 := hnonneg.1
    have hliabs : (0 : ℤ) ≤ (totals book account.balances).2 := hnonneg.2
    obtain ⟨⟨-, h1⟩, ⟨-, h2⟩⟩ := hfits
    show FitsI128 ((totals book account.balances).1 - (totals book account.balances).2)
    exact ⟨by omega, by omega⟩

lemma maintenanceHealth_eq_err {e : P0Error} (h : maintenanceHealth account book = .err e) :
    e = .missingPrice := by
  rcases Outcome.bind_eq_err.1 h with hsum | ⟨t, -, hdiff⟩
  · obtain ⟨bal, -, herr⟩ := exists_of_checkedSum_eq_err hsum
    exact balanceWorth_eq_err herr
  · exact absurd hdiff checked_ne_err

/-! ## Prices and confidences -/

lemma scaledPrice_mono {px px' : PriceFx} {m m' : ℕ} (hpx : px ≤ px') (hm : m ≤ m') :
    scaledPrice px m ≤ scaledPrice px' m' := by
  have hraw : px.raw ≤ px'.raw := hpx
  show satMulU128 px.raw m / 1000000 ≤ satMulU128 px'.raw m' / 1000000
  apply Nat.div_le_div_right
  apply min_le_min_right
  exact Nat.mul_le_mul hraw hm

lemma weightedUsd_mono (bal : Balance) (bank : BankMeta) {px px' : PriceFx} (weight : UInt64)
    (h : px ≤ px') : weightedUsd bal bank px weight ≤ weightedUsd bal bank px' weight := by
  apply Nat.div_le_div_right
  apply Nat.mul_le_mul_right
  exact usdMicro_mono _ _ h

/-- In `book'` the mint of this balance is priced in its favour: an asset no lower, a liability no
higher, and with no more confidence. -/
def Favours (book book' : BankBook) (bal : Balance) : Prop :=
  ∀ bank px px', book.bankOf bal.bank = some bank → book.price bank.mint = some px →
    book'.price bank.mint = some px' → book'.conf bank.mint ≤ book.conf bank.mint ∧
      (bal.kind = .asset → px ≤ px') ∧ (bal.kind = .liability → px' ≤ px)

lemma net_balanceValue_mono {bal : Balance} (hbanks : book'.banks = book.banks)
    (hfavours : Favours book book' bal) {v v' : ℤ × ℤ} (hv : balanceWorth book bal = .ok v)
    (hv' : balanceWorth book' bal = .ok v') :
    net (balanceValue book bal) ≤ net (balanceValue book' bal) := by
  obtain ⟨⟨bank, px, hbank, hpx⟩, -⟩ := balanceWorth_eq_ok hv
  obtain ⟨⟨bank', px', hbank', hpx'⟩, -⟩ := balanceWorth_eq_ok hv'
  have hsame : book'.bankOf bal.bank = book.bankOf bal.bank := by
    rw [BankBook.bankOf, BankBook.bankOf, hbanks]
  obtain rfl : bank = bank' := Option.some.inj (hbank.symm.trans (hsame.symm.trans hbank'))
  obtain ⟨hconf, hasset, hliability⟩ := hfavours bank px px' hbank hpx hpx'
  have hc : (book'.conf bank.mint).toNat ≤ (book.conf bank.mint).toNat :=
    UInt64.le_iff_toNat_le.1 hconf
  -- An asset is weighed at the price less the confidence, a liability at the price and it.
  simp only [balanceValue, hbank, hbank', hpx, hpx', net_apply]
  cases hkind : bal.kind with
  | asset =>
      simp only [sub_zero, Nat.cast_le]
      apply weightedUsd_mono
      exact scaledPrice_mono (hasset hkind) (Nat.sub_le_sub_left hc _)
  | liability =>
      simp only [zero_sub, neg_le_neg_iff, Nat.cast_le]
      apply weightedUsd_mono
      exact scaledPrice_mono (hliability hkind) (Nat.add_le_add_left hc _)
  | empty => exact le_rfl

/-- Prices and confidences that move in the account's favour do not lower its health. -/
lemma maintenanceHealth_mono (hbanks : book'.banks = book.banks)
    (hfavours : ∀ bal ∈ account.balances, bal.Counts → Favours book book' bal)
    {health health' : ℤ}
    (hok : maintenanceHealth account book = .ok health)
    (hok' : maintenanceHealth account book' = .ok health') : health ≤ health' := by
  obtain ⟨hworth, -, rfl⟩ := maintenanceHealth_eq_ok_iff.1 hok
  obtain ⟨hworth', -, rfl⟩ := maintenanceHealth_eq_ok_iff.1 hok'
  rw [totals, totals, map_list_sum, map_list_sum, List.map_map, List.map_map]
  apply List.sum_le_sum
  intro bal hbal
  obtain ⟨v, hv⟩ := hworth bal hbal
  obtain ⟨v', hv'⟩ := hworth' bal hbal
  obtain ⟨hmem, hcounts⟩ := List.mem_filter.1 hbal
  exact net_balanceValue_mono hbanks (hfavours bal hmem (of_decide_eq_true hcounts)) hv hv'

/-- The two lists name the same mints, with confidences that agree once capped. -/
def SameCapped (cs cs' : List (Pubkey × UInt64)) : Prop :=
  List.Forall₂ (fun e e' => e.1 = e'.1 ∧ min e.2 maxConfidence = min e'.2 maxConfidence) cs cs'

lemma conf_eq_of_sameCapped (hsame : SameCapped book.confidence book'.confidence)
    (mint : Pubkey) : book.conf mint = book'.conf mint := by
  rw [BankBook.conf, BankBook.conf]
  generalize book.confidence = cs at hsame ⊢
  generalize book'.confidence = cs' at hsame ⊢
  induction hsame with
  | nil => rfl
  | @cons e e' cs cs' hhead _ ih =>
      obtain ⟨hkey, hcap⟩ := hhead
      rw [List.find?_cons, List.find?_cons]
      by_cases hmint : e.1 = mint
      · have hmint' : e'.1 = mint := hkey.symm.trans hmint
        simp only [hmint, hmint', decide_true, Option.map_some, hcap]
      · have hmint' : ¬ e'.1 = mint := fun heq => hmint (hkey.trans heq)
        simp only [hmint, hmint', decide_false, ih]

/-- Only the capped confidences enter the health. -/
lemma maintenanceHealth_congr (hbanks : book'.banks = book.banks)
    (hprices : book'.prices = book.prices)
    (hsame : SameCapped book.confidence book'.confidence) :
    maintenanceHealth account book' = maintenanceHealth account book := by
  have hworth : balanceWorth book' = balanceWorth book := by
    funext bal
    simp only [balanceWorth, BankBook.bankOf, BankBook.price, hbanks, hprices,
      conf_eq_of_sameCapped hsame]
  rw [maintenanceHealth, maintenanceHealth, hworth]

/-! ## The order of the balances

A missing price is found when the loop comes to it, and a panic before that hides it. -/

/-- A health that is returned does not depend on the order. -/
lemma maintenanceHealth_perm (hperm : account.balances.Perm account'.balances) {health : ℤ}
    (hok : maintenanceHealth account book = .ok health) :
    maintenanceHealth account' book = .ok health := by
  have hfilter := hperm.filter fun bal => decide bal.Counts
  have htotals : totals book account'.balances = totals book account.balances :=
    ((hfilter.map (balanceValue book)).sum_eq).symm
  obtain ⟨hworth, hfits, rfl⟩ := maintenanceHealth_eq_ok_iff.1 hok
  refine maintenanceHealth_eq_ok_iff.2 ⟨?_, ?_, ?_⟩
  · intro bal hbal
    exact hworth bal (hfilter.mem_iff.2 hbal)
  · rwa [htotals]
  · rw [htotals]

/-- Without a panic nothing depends on the order. -/
lemma maintenanceHealth_perm_of_ne_panic (hperm : account.balances.Perm account'.balances)
    (hreturns : maintenanceHealth account book ≠ .panic)
    (hreturns' : maintenanceHealth account' book ≠ .panic) :
    maintenanceHealth account book = maintenanceHealth account' book := by
  cases hhealth : maintenanceHealth account book with
  | ok health => exact (maintenanceHealth_perm hperm hhealth).symm
  | panic => exact absurd hhealth hreturns
  | err e =>
      cases hhealth' : maintenanceHealth account' book with
      | ok health' =>
          rw [maintenanceHealth_perm hperm.symm hhealth'] at hhealth
          exact absurd hhealth (by simp)
      | panic => exact absurd hhealth' hreturns'
      | err e' => rw [maintenanceHealth_eq_err hhealth, maintenanceHealth_eq_err hhealth']

/-- **What prices, confidences and order do to the health.**  A move in the account's favour does
not lower it; a confidence above the cap counts as the cap; and the order of the balances shows
only in whether a panic or a missing price comes first. -/
theorem maintenanceHealth_relations :
    (∀ (account : MarginfiAccountView) (book book' : BankBook) (health health' : ℤ),
      book'.banks = book.banks →
      (∀ bal ∈ account.balances, bal.Counts → Favours book book' bal) →
      maintenanceHealth account book = .ok health →
      maintenanceHealth account book' = .ok health' → health ≤ health') ∧
    (∀ (account : MarginfiAccountView) (book book' : BankBook),
      book'.banks = book.banks → book'.prices = book.prices →
      SameCapped book.confidence book'.confidence →
      maintenanceHealth account book' = maintenanceHealth account book) ∧
    ∀ (account account' : MarginfiAccountView) (book : BankBook),
      account.balances.Perm account'.balances →
      (∀ health, maintenanceHealth account book = .ok health →
        maintenanceHealth account' book = .ok health) ∧
      (maintenanceHealth account book ≠ .panic → maintenanceHealth account' book ≠ .panic →
        maintenanceHealth account book = maintenanceHealth account' book) := by
  refine ⟨?_, ?_, ?_⟩
  · intro account book book' health health' hbanks hfavours hok hok'
    exact maintenanceHealth_mono hbanks hfavours hok hok'
  · intro account book book' hbanks hprices hsame
    exact maintenanceHealth_congr hbanks hprices hsame
  · intro account account' book hperm
    constructor
    · intro health hok
      exact maintenanceHealth_perm hperm hok
    · intro hreturns hreturns'
      exact maintenanceHealth_perm_of_ne_panic hperm hreturns hreturns'

/-- Two banks, with weights of 90% and 110%: bank `1` of mint `3` with these decimals, and bank `2`
of mint `4` with six.  Mint `4` is worth a dollar. -/
def twoBanks (decimals : UInt8) (price : ℕ) (confidence : UInt64) : BankBook where
  banks := [⟨.test 1 0, .test 3 0, 900000, 1100000, decimals⟩,
    ⟨.test 2 0, .test 4 0, 900000, 1100000, 6⟩]
  prices := [(.test 3 0, .ofNat price), (.test 4 0, .ofNat 1000000000)]
  confidence := [(.test 3 0, confidence)]

def accountOf (balances : List Balance) : MarginfiAccountView := ⟨.default, .default, balances⟩

/-- Two tokens of mint `3`. -/
def twoHeld : Balance := ⟨.test 1 0, .asset, 2000000⟩

/-- A token of mint `4`. -/
def oneOwed : Balance := ⟨.test 2 0, .liability, 1000000⟩

/-- Two tokens against one: at a dollar in either order, and at two dollars with half the
confidence. -/
theorem maintenanceHealth_relations_twoBanks :
    ∃ health health' : ℤ,
      maintenanceHealth (accountOf [twoHeld, oneOwed]) (twoBanks 6 1000000000 40000) =
        .ok health ∧
      maintenanceHealth (accountOf [twoHeld, oneOwed]) (twoBanks 6 2000000000 20000) =
        .ok health' ∧ health ≤ health' ∧
      maintenanceHealth (accountOf [oneOwed, twoHeld]) (twoBanks 6 1000000000 40000) =
        .ok health := by
  have hbefore : maintenanceHealth (accountOf [twoHeld, oneOwed])
      (twoBanks 6 1000000000 40000) = .ok 628000 := by
    decide +kernel
  have hafter : maintenanceHealth (accountOf [twoHeld, oneOwed])
      (twoBanks 6 2000000000 20000) = .ok 2428000 := by
    decide +kernel
  refine ⟨_, _, hbefore, hafter, ?_, ?_⟩
  · refine maintenanceHealth_relations.1 _ (twoBanks 6 1000000000 40000)
      (twoBanks 6 2000000000 20000) _ _ rfl ?_ hbefore hafter
    intro bal hbal _ bank px px' hbank hpx hpx'
    rcases List.mem_pair.1 hbal with rfl | rfl
    · cases hbank
      cases hpx
      cases hpx'
      decide
    · cases hbank
      cases hpx
      cases hpx'
      decide
  · have hperm : (accountOf [twoHeld, oneOwed]).balances.Perm
        (accountOf [oneOwed, twoHeld]).balances := List.Perm.swap oneOwed twoHeld []
    exact (maintenanceHealth_relations.2.2 _ _ _ hperm).1 _ hbefore

/-- A token with 39 decimals beside a bank that is not in the book: the power of ten overflows
before the bank is looked up, or the bank is missing before. -/
theorem maintenanceHealth_order_matters :
    maintenanceHealth (accountOf [⟨.test 1 0, .asset, 1⟩, ⟨.test 5 0, .asset, 1⟩])
        (twoBanks 39 1000000000 0) = .panic ∧
      maintenanceHealth (accountOf [⟨.test 5 0, .asset, 1⟩, ⟨.test 1 0, .asset, 1⟩])
        (twoBanks 39 1000000000 0) = .err .missingPrice := by
  decide +kernel

end Grokbotliq.Project0
