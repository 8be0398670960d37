import Grokbotliq.Execution.Plan
import Grokbotliq.Kamino.PlanShape

/-!
# Receivership plans and the profit cap

The end of a receivership checks `seized <= repaid * (1 + max_fee)`.  The planner withdraws the
whole amount and repays nine tenths of it, and at a fee of a tenth `0.9 * 1.1` is less than one:
`receivership_never_within_cap` says that the check fails for every amount, whatever its
rounding.

The two amounts are read back from the bundle's own instructions (`encodedAmount`), so the
statement is about what is sent and not about what the planner had in mind.
-/

namespace Grokbotliq

namespace Project0

/-- The fee, in basis points, until the fee state is fetched. -/
def defaultReceivershipMaxFeeBps : UInt16 := 1000

/-- `receivership_profit_ok`: Seized <= Repaid * (1 + max_fee); the product wraps in `u128`. -/
def receivershipProfitOk (seizedEquityUsdMicro repaidEquityUsdMicro : ℕ) (maxFeeBps : UInt16) :
    Bool :=
  let cap := repaidEquityUsdMicro * (10000 + maxFeeBps.toNat) % 2 ^ 128 / 10000
  decide (seizedEquityUsdMicro ≤ cap)

/-- Who repays at most nine tenths of what is seized is over the cap. -/
lemma receivershipProfitOk_eq_false {seized repaid : ℕ} (hpos : 0 < seized)
    (hrepaid : 10 * repaid ≤ 9 * seized) :
    receivershipProfitOk seized repaid defaultReceivershipMaxFeeBps = false := by
  have hfee : 10000 + defaultReceivershipMaxFeeBps.toNat = 11000 := rfl
  have hwrap : repaid * 11000 % 2 ^ 128 ≤ repaid * 11000 := Nat.mod_le _ _
  have hcap : repaid * 11000 % 2 ^ 128 / 10000 < seized := by
    rw [Nat.div_lt_iff_lt_mul (by omega)]
    omega
  simp only [receivershipProfitOk, hfee, decide_eq_false_iff_not, Nat.not_le]
  exact hcap

/-! ## The amounts of a plan -/

/-- The amount carried by the first marginfi call of the plan with this discriminator. -/
def encodedAmount (tag : List UInt8) (plan : Plan) : Option ℕ :=
  (plan.find? fun l => l.ix.IsCall Programs.marginfi tag).map Kamino.amountOf

lemma amountOf_encode {tag : List UInt8} (htag : tag.length = 8) (label : String)
    (program : Pubkey) (metas : List AccountMeta) (amount : UInt64) (rest : List UInt8) :
    Kamino.amountOf ⟨label, program, metas, tag ++ Wire.leBytes 8 amount.toNat ++ rest⟩ =
      amount.toNat := by
  have hfits : amount.toNat < 256 ^ 8 := amount.toNat_lt
  have hdrop : (tag ++ Wire.leBytes 8 amount.toNat ++ rest).drop 8 =
      Wire.leBytes 8 amount.toNat ++ rest := by
    rw [List.append_assoc, ← htag, List.drop_left]
  have htake : (Wire.leBytes 8 amount.toNat ++ rest).take 8 = Wire.leBytes 8 amount.toNat :=
    List.take_left' (Wire.length_leBytes 8 _)
  simp only [Kamino.amountOf, hdrop, htake]
  exact Wire.ofLeBytes_leBytes_of_lt hfits

lemma encodedAmount_append_cons {tag : List UInt8} {before after : Plan} {l : LabeledIx}
    (hbefore : ∀ x ∈ before, ¬ x.ix.IsCall Programs.marginfi tag)
    (hl : l.ix.IsCall Programs.marginfi tag) :
    encodedAmount tag (before ++ l :: after) = some (Kamino.amountOf l) := by
  have hnone : before.find? (fun x => decide (x.ix.IsCall Programs.marginfi tag)) = none := by
    rw [List.find?_eq_none]
    exact fun x hx => by simpa using hbefore x hx
  rw [encodedAmount, List.find?_append, hnone, Option.none_or,
    List.find?_cons_of_pos (by simpa using hl), Option.map_some]

variable (p : ReceivershipBuildParams)

lemma not_isCall_computeBudget (tag : List UInt8) :
    ∀ l ∈ computeBudgetIxs p.cuLimit p.cuPrice, ¬ l.ix.IsCall Programs.marginfi tag := by
  have hprograms : Programs.computeBudget ≠ Programs.marginfi := by decide
  intro l hl hcall
  rcases List.mem_pair.1 hl with rfl | rfl <;> exact hprograms hcall.1

lemma ReceivershipBuildParams.isCall_startIx :
    p.startIx.ix.IsCall Programs.marginfi Disc.startLiquidation :=
  ⟨rfl, List.prefix_refl _⟩

lemma ReceivershipBuildParams.isCall_withdrawIx :
    p.withdrawIx.ix.IsCall Programs.marginfi Disc.lendingAccountWithdraw :=
  ⟨rfl, (List.prefix_append _ _).trans (List.prefix_append _ _)⟩

lemma ReceivershipBuildParams.isCall_repayIx :
    p.repayIx.ix.IsCall Programs.marginfi Disc.lendingAccountRepay :=
  ⟨rfl, (List.prefix_append _ _).trans (List.prefix_append _ _)⟩

/-- The withdrawal of the bundle carries the amount to withdraw. -/
lemma encodedAmount_withdraw :
    encodedAmount Disc.lendingAccountWithdraw (buildReceivershipTx p []) =
      some p.withdrawAmount.toNat := by
  have hsplit : buildReceivershipTx p [] =
      (computeBudgetIxs p.cuLimit p.cuPrice ++ [p.startIx]) ++
        p.withdrawIx :: [p.repayIx, p.endIx] := by
    simp [buildReceivershipTx]
  rw [hsplit, encodedAmount_append_cons (fun l hl hcall => ?_) p.isCall_withdrawIx]
  · exact congrArg some (amountOf_encode rfl _ _ _ _ _)
  · rcases List.mem_append.1 hl with hbudget | hstart
    · exact not_isCall_computeBudget p _ l hbudget hcall
    · obtain rfl := List.mem_singleton.1 hstart
      exact absurd (hcall.tag_eq p.isCall_startIx rfl) (by decide)

/-- The repayment of the bundle carries the amount to repay. -/
lemma encodedAmount_repay :
    encodedAmount Disc.lendingAccountRepay (buildReceivershipTx p []) =
      some p.repayAmount.toNat := by
  have hsplit : buildReceivershipTx p [] =
      (computeBudgetIxs p.cuLimit p.cuPrice ++ [p.startIx, p.withdrawIx]) ++
        p.repayIx :: [p.endIx] := by
    simp [buildReceivershipTx]
  rw [hsplit, encodedAmount_append_cons (fun l hl hcall => ?_) p.isCall_repayIx]
  · exact congrArg some (amountOf_encode rfl _ _ _ _ _)
  · rcases List.mem_append.1 hl with hbudget | hrest
    · exact not_isCall_computeBudget p _ l hbudget hcall
    · rcases List.mem_pair.1 hrest with rfl | rfl
      · exact absurd (hcall.tag_eq p.isCall_startIx rfl) (by decide)
      · exact absurd (hcall.tag_eq p.isCall_withdrawIx rfl) (by decide)

end Project0

namespace Execution

open MachineInt Project0

/-- The planner's repayment, saturating product included, is at most nine tenths of the
amount. -/
lemma ten_mul_repayAmount_le (amount : UInt64) :
    10 * (satMulU64 amount 9 / 10).toNat ≤ 9 * amount.toNat := by
  have hten : (10 : UInt64).toNat = 10 := rfl
  have hnine : (9 : UInt64).toNat = 9 := rfl
  have hsat : (satMulU64 amount 9).toNat ≤ 9 * amount.toNat := by
    rw [satMulU64, hnine]
    split_ifs with hfits
    · rw [UInt64.toNat_mul, hnine, Nat.mod_eq_of_lt hfits, Nat.mul_comm]
    · have htop : (UInt64.ofNat (2 ^ 64 - 1)).toNat = 2 ^ 64 - 1 := rfl
      rw [htop]
      omega
  rw [UInt64.toNat_div, hten]
  omega

/-- What the bundle withdraws and what it repays, as its instructions encode them, in the
planner's own instructions. -/
def bundleAmounts (plan : Plan) : Option (ℕ × ℕ) :=
  (encodedAmount Disc.lendingAccountWithdraw plan).bind fun withdrawn =>
    (encodedAmount Disc.lendingAccountRepay plan).map fun repaid => (withdrawn, repaid)

/-- **No receivership bundle passes the cap**: for every amount, account set and positive unit
price, what is withdrawn is worth more than the cap on what is repaid. -/
theorem receivership_never_within_cap (h : PdaHash) (a : PlanAccountSet) (amount : UInt64)
    (blob : JupiterQuoteBlob) {price : ℕ} (hamount : 1 ≤ amount.toNat) (hprice : 0 < price) :
    let plan := (buildStrategyIxs h .project0 .project0Receivership a amount blob).labeled
    ∃ own : Plan, plan = own.take 4 ++ blob.instructions ++ own.drop 4 ∧
      ∃ withdrawn repaid, bundleAmounts own = some (withdrawn, repaid) ∧
        receivershipProfitOk (withdrawn * price) (repaid * price)
          defaultReceivershipMaxFeeBps = false := by
  intro plan
  let p := a.receivershipParams amount
  refine ⟨buildReceivershipTx p [], ?_, amount.toNat, (satMulU64 amount 9 / 10).toNat, ?_, ?_⟩
  · show buildReceivershipTx p blob.instructions = _
    simp [buildReceivershipTx, computeBudgetIxs]
  · rw [bundleAmounts, encodedAmount_withdraw, encodedAmount_repay]
    rfl
  · refine receivershipProfitOk_eq_false (Nat.mul_pos hamount hprice) ?_
    calc 10 * ((satMulU64 amount 9 / 10).toNat * price)
        = 10 * (satMulU64 amount 9 / 10).toNat * price := (Nat.mul_assoc _ _ _).symm
      _ ≤ 9 * amount.toNat * price := Nat.mul_le_mul_right _ (ten_mul_repayAmount_le amount)
      _ = 9 * (amount.toNat * price) := Nat.mul_assoc _ _ _

theorem receivership_never_within_cap_hundred :
    ∃ own : Plan,
      (buildStrategyIxs .prefixHash .project0 .project0Receivership
        (PlanAccountSet.fromSeed (Pubkey.test 7 1)) 100 JupiterQuoteBlob.default).labeled =
          own.take 4 ++ JupiterQuoteBlob.default.instructions ++ own.drop 4 ∧
      ∃ withdrawn repaid, bundleAmounts own = some (withdrawn, repaid) ∧
        receivershipProfitOk (withdrawn * 1) (repaid * 1) defaultReceivershipMaxFeeBps = false :=
  receivership_never_within_cap .prefixHash (PlanAccountSet.fromSeed (Pubkey.test 7 1)) 100
    JupiterQuoteBlob.default (by decide) Nat.one_pos

/-- A hundred units withdrawn and ninety repaid: the cap on ninety is ninety-nine. -/
theorem receivership_hundred_over_cap :
    bundleAmounts (buildStrategyIxs .prefixHash .project0 .project0Receivership
        (PlanAccountSet.fromSeed (Pubkey.test 7 1)) 100 JupiterQuoteBlob.default).labeled =
      some (100, 90) ∧
    receivershipProfitOk 100 90 defaultReceivershipMaxFeeBps = false := by
  refine ⟨?_, by decide⟩
  show bundleAmounts (buildReceivershipTx _ []) = _
  rw [bundleAmounts, encodedAmount_withdraw, encodedAmount_repay]
  rfl

end Execution

end Grokbotliq
