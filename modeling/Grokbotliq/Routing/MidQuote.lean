import Grokbotliq.Core.Health
import Grokbotliq.Framework.Narrowing

/-!
# Quotes at the mid price

The naive router: the value of the input less a flat slippage, in tokens of the output.  It
panics for a slippage above 100% and for tokens with more than 38 decimals, and narrows cost and
output to 64 bits; `midQuote_sound_iff` says when the answer is what its fields say.

Soundness is about a pair of requests, since one of its parts is that more slippage does not give
more.  Over the integers it does not (`tokensOut_antitone`); after narrowing it may, and
`Framework/Narrowing.lean` has the condition.
-/

namespace Grokbotliq.Routing

open MachineInt

structure QuoteRequest where
  inputMint : Pubkey
  outputMint : Pubkey
  amountIn : UInt64
  inputDecimals : UInt8
  outputDecimals : UInt8
  inputPrice : PriceFx
  outputPrice : PriceFx
  /-- Assumed slippage bps for stub. -/
  slippageBps : UInt16

structure Quote where
  amountOut : UInt64
  costUsdMicro : UInt64
  routeLabel : String
  deriving DecidableEq

inductive RouteError
  | noRoute
  deriving DecidableEq

def midQuote (req : QuoteRequest) (label : String) : Outcome RouteError Quote := do
  let inUsd ← amountToUsdMicro req.amountIn.toNat req.inputDecimals req.inputPrice
  let kept ← subU128 10000 req.slippageBps.toNat
  let product ← checked FitsU128 (inUsd * kept)
  let afterSlip := product / 10000
  let cost ← subU128 inUsd afterSlip
  let unit ← powTen req.outputDecimals
  let out := satMulU128 (satMulU128 afterSlip unit) PriceFx.scale /
    max (satMulU128 req.outputPrice.raw 1000000) 1
  return ⟨truncU64 out, truncU64 cost, label⟩

namespace QuoteRequest

variable (req : QuoteRequest)

/-- The request with another slippage. -/
def withSlippage (slippageBps : UInt16) : QuoteRequest := { req with slippageBps := slippageBps }

/-- The value of the input in micro-dollars. -/
def inUsd : ℕ := usdMicro req.amountIn.toNat req.inputDecimals req.inputPrice

/-- The value after slippage. -/
def afterSlip : ℕ := req.inUsd * (10000 - req.slippageBps.toNat) / 10000

/-- What the slippage costs, over the integers. -/
def exactCost : ℕ := req.inUsd - req.afterSlip

/-- The value after slippage in tokens of the output, saturated at 128 bits. -/
def tokensOut : ℕ :=
  min (req.afterSlip * 10 ^ req.outputDecimals.toNat * PriceFx.scale) maxU128 /
    max (min (req.outputPrice.raw * 1000000) maxU128) 1

/-- No power of ten overflows and the slippage is at most 100%. -/
structure Sensible : Prop where
  inputDecimals : req.inputDecimals.toNat ≤ 38
  outputDecimals : req.outputDecimals.toNat ≤ 38
  slippage : req.slippageBps.toNat ≤ 10000

/-- The reported cost and the value after slippage make up the value of the input. -/
def Balances (q : Quote) : Prop := q.costUsdMicro.toNat + req.afterSlip = req.inUsd

variable {req}

lemma afterSlip_le : req.afterSlip ≤ req.inUsd := by
  apply Nat.div_le_of_le_mul
  rw [mul_comm 10000]
  exact Nat.mul_le_mul_left _ (Nat.sub_le _ _)

lemma afterSlip_antitone {larger : UInt16} (h : req.slippageBps ≤ larger) :
    (req.withSlippage larger).afterSlip ≤ req.afterSlip := by
  have hle : req.slippageBps.toNat ≤ larger.toNat := UInt16.le_iff_toNat_le.1 h
  exact Nat.div_le_div_right (Nat.mul_le_mul_left _ (Nat.sub_le_sub_left hle 10000))

lemma tokensOut_antitone {larger : UInt16} (h : req.slippageBps ≤ larger) :
    (req.withSlippage larger).tokensOut ≤ req.tokensOut := by
  apply Nat.div_le_div_right
  apply min_le_min_right
  exact Nat.mul_le_mul_right _ (Nat.mul_le_mul_right _ (afterSlip_antitone h))

/-- **The answer**, for a sensible request. -/
theorem midQuote_of_sensible (h : req.Sensible) (label : String) :
    midQuote req label = .ok ⟨truncU64 req.tokensOut, truncU64 req.exactCost, label⟩ := by
  have hproduct : FitsU128 (req.inUsd * (10000 - req.slippageBps.toNat)) := by
    have hin := usdMicro_le req.amountIn.toNat req.inputDecimals req.inputPrice
    exact (Nat.mul_le_mul hin (Nat.sub_le 10000 _)).trans (by norm_num [PriceFx.scale, maxU128])
  have hkept : (subU128 10000 req.slippageBps.toNat : Outcome RouteError ℕ) =
      .ok (10000 - req.slippageBps.toNat) := if_pos h.slippage
  have hcost : (subU128 req.inUsd req.afterSlip : Outcome RouteError ℕ) = .ok req.exactCost :=
    if_pos req.afterSlip_le
  rw [midQuote, amountToUsdMicro_of_le h.inputDecimals, Outcome.ok_bind, hkept, Outcome.ok_bind]
  show (checked FitsU128 (req.inUsd * (10000 - req.slippageBps.toNat)) >>= _) = _
  rw [checked_eq_ok_iff.2 ⟨rfl, hproduct⟩, Outcome.ok_bind]
  show (subU128 req.inUsd req.afterSlip >>= _) = _
  rw [hcost, Outcome.ok_bind, powTen_of_le h.outputDecimals, Outcome.ok_bind,
    satMulU128_satMulU128 _ _ (by norm_num [PriceFx.scale])]
  rfl

/-- Any other request panics. -/
lemma sensible_of_midQuote_eq_ok {label : String} {q : Quote} (h : midQuote req label = .ok q) :
    req.Sensible := by
  obtain ⟨inUsd, hin, h⟩ := Outcome.bind_eq_ok.1 h
  obtain ⟨kept, hkept, h⟩ := Outcome.bind_eq_ok.1 h
  obtain ⟨product, -, h⟩ := Outcome.bind_eq_ok.1 h
  obtain ⟨cost, -, h⟩ := Outcome.bind_eq_ok.1 h
  obtain ⟨unit, hunit, -⟩ := Outcome.bind_eq_ok.1 h
  refine ⟨(amountToUsdMicro_eq_ok_iff.1 hin).1, ?_, ?_⟩
  · exact fitsU128_pow_iff.1 (checked_eq_ok_iff.1 hunit).2
  · by_contra hlarge
    rw [subU128, if_neg hlarge] at hkept
    exact absurd hkept (by simp)

lemma balances_iff {label : String} {out : UInt64} :
    req.Balances ⟨out, truncU64 req.exactCost, label⟩ ↔ req.exactCost < 2 ^ 64 := by
  have hle := req.afterSlip_le
  rw [Balances, toNat_truncU64, exactCost]
  omega

end QuoteRequest

open QuoteRequest

/-- **When a quote is sound**, against the quote with a larger slippage: both are returned, both
balance, and the larger slippage does not return more. -/
theorem midQuote_sound_iff (req : QuoteRequest) (larger : UInt16) (label : String)
    (h : req.slippageBps ≤ larger) :
    (∃ q q', midQuote req label = .ok q ∧ midQuote (req.withSlippage larger) label = .ok q' ∧
        req.Balances q ∧ (req.withSlippage larger).Balances q' ∧ q'.amountOut ≤ q.amountOut) ↔
      (req.withSlippage larger).Sensible ∧ (req.withSlippage larger).exactCost < 2 ^ 64 ∧
        NoBorrow req.tokensOut (req.withSlippage larger).tokensOut := by
  -- The amounts out are cut to 64 bits, so the order can be lost by a borrow there only.
  have hbits : truncU64 (req.withSlippage larger).tokensOut ≤ truncU64 req.tokensOut ↔
      NoBorrow req.tokensOut (req.withSlippage larger).tokensOut := by
    rw [UInt64.le_iff_toNat_le, toNat_truncU64, toNat_truncU64]
    exact low_le_iff (tokensOut_antitone h)
  constructor
  · rintro ⟨q, q', hq, hq', -, hbalances', hle⟩
    have hsensible := sensible_of_midQuote_eq_ok hq'
    rw [midQuote_of_sensible (sensible_of_midQuote_eq_ok hq)] at hq
    rw [midQuote_of_sensible hsensible] at hq'
    obtain rfl := Outcome.ok.inj hq
    obtain rfl := Outcome.ok.inj hq'
    exact ⟨hsensible, balances_iff.1 hbalances', hbits.1 hle⟩
  · rintro ⟨hsensible, hcost, hborrow⟩
    have hslippage : req.slippageBps.toNat ≤ larger.toNat := UInt16.le_iff_toNat_le.1 h
    have hsmaller : req.Sensible :=
      ⟨hsensible.inputDecimals, hsensible.outputDecimals, hslippage.trans hsensible.slippage⟩
    have hcost' : req.exactCost < 2 ^ 64 := by
      have hafter := afterSlip_antitone h
      exact Nat.lt_of_le_of_lt (Nat.sub_le_sub_left hafter _) hcost
    exact ⟨_, _, midQuote_of_sensible hsmaller label, midQuote_of_sensible hsensible label,
      balances_iff.2 hcost', balances_iff.2 hcost, hbits.2 hborrow⟩

/-- A billion base units of a token at a hundred dollars, for dollars, at 0.3%. -/
def sampleRequest : QuoteRequest where
  inputMint := .test 1 1
  outputMint := .test 1 2
  amountIn := 1000000000
  inputDecimals := 9
  outputDecimals := 6
  inputPrice := .ofNat 100000000000
  outputPrice := .ofNat 1000000000
  slippageBps := 30

/-- The quotes at 0.3% and 1% are sound. -/
theorem midQuote_sound_sampleRequest :
    ∃ q q', midQuote sampleRequest "stub-mid" = .ok q ∧
      midQuote (sampleRequest.withSlippage 100) "stub-mid" = .ok q' ∧
      sampleRequest.Balances q ∧ (sampleRequest.withSlippage 100).Balances q' ∧
      q'.amountOut ≤ q.amountOut :=
  (midQuote_sound_iff sampleRequest 100 "stub-mid" (by decide)).2
    ⟨⟨by decide, by decide, by decide⟩, by decide +kernel, by decide +kernel⟩

/-- A slippage above 100% underflows, and a token with 39 decimals overflows. -/
theorem midQuote_panics :
    midQuote (sampleRequest.withSlippage 10001) "stub-mid" = .panic ∧
      midQuote { sampleRequest with outputDecimals := 39 } "stub-mid" = .panic := by
  constructor <;> decide +kernel

end Grokbotliq.Routing
