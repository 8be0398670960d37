import Grokbotliq.Kamino.LiveHealth
import Grokbotliq.Streaming.Redact

/-!
# Classifying discovered obligations

A klend obligation found on chain is decoded, its health recomputed, and the account reported
with its band and with notes on how it was arrived at.  A leg without a price, or an elevation
group without parameters, is noted at most; it does not keep the account out of the `CRITICAL`
band.  `critical_only_complete_iff` says for which obligations the band nevertheless rests on
complete data.

A report's band goes back to one comparison, whether the priced legs look under water.  With all
legs priced that comparison is about the whole obligation; with some of them missing it is about
what is left, and the band does not tell the two apart.
-/

namespace Grokbotliq

open Kamino

/-- The notes of a report, each with what its text shows. -/
inductive Note
  | tooShortForValueFields
  | market (short : String)
  | hasDebt (b : Bool)
  | nDeposits (n : ℕ)
  | nBorrows (n : ℕ)
  | repayRes (short : String)
  | withdrawRes (short : String)
  | staleSfHf (ratio : ℚ)
  | elevationGroup (id : UInt8)
  | ltv (ratio : ℚ)
  | unhealthyUsdMicro (n : ℕ)
  | bfDebtUsdMicro (n : ℕ)
  | missingReserves (n : ℕ)
  | liquidatable
  | belowMaintenance
  | healthy
  | healthIncompleteNoPrices
  | noDebtOrZeroBorrowSf
  | healthErr (e : KaminoError)
  | noReserveMapSkipCritical
  | positionsDecodeFailedHeaderOnly
  | decodeErr (e : DecodeError)
  deriving DecidableEq

structure DiscoveredAccount where
  protocol : String
  kind : String
  pubkey : Option String
  pubkeyShort : String
  dataLen : ℕ
  decode : String
  health : Option ℚ
  band : Option String
  notes : List Note
  deriving DecidableEq

namespace Discovery

/-- The part of a report that the decoding and the health decide. -/
structure Finding where
  decode : String
  health : Option ℚ
  band : Option String
  notes : List Note
  deriving DecidableEq

/-- The notes on decoded positions. -/
def positionNotes (c : Base58) (pos : LiveObligationPositions) : List Note :=
  let h := pos.header
  let picked : List Note :=
    match pickLiquidateReserves pos with
    | some (repay, withdraw) =>
      [.repayRes (shortText (repay.toBase58 c)), .withdrawRes (shortText (withdraw.toBase58 c))]
    | none => []
  let debtSf :=
    if 0 < h.borrowFactorAdjustedDebtValueSf then h.borrowFactorAdjustedDebtValueSf
    else h.borrowedAssetsMarketValueSf
  let stale : List Note :=
    if h.hasDebt then
      (staleSfHeaderHealthRatio debtSf h.unhealthyBorrowValueSf).toList.map Note.staleSfHf
    else []
  [.market (shortText (h.lendingMarket.toBase58 c)), .hasDebt h.hasDebt,
    .nDeposits pos.deposits.length, .nBorrows pos.borrows.length] ++ picked ++ stale

/-- The health and band of an obligation, with the notes on them. -/
def classifyHealth (hasDebt : Bool) (notes : List Note)
    (health : Except KaminoError KlendComputedHealth) : Finding :=
  match health with
  | .error e => ⟨"live_health", none, none, notes ++ [.healthErr e]⟩
  | .ok ch =>
    let missing : List Note :=
      if ch.missingReserves ≠ [] then [.missingReserves ch.missingReserves.length] else []
    let notes := notes ++ [.ltv ch.ltv, .unhealthyUsdMicro ch.unhealthyBorrowValueUsdMicro,
      .bfDebtUsdMicro ch.borrowFactorAdjustedDebtUsdMicro] ++ missing
    if 0 < ch.borrowFactorAdjustedDebtUsdMicro ∨ 0 < ch.depositedValueUsdMicro then
      let verdict : Note :=
        if ch.isLiquidatable then .liquidatable
        else if ch.belowMaintenance then .belowMaintenance
        else .healthy
      ⟨"live_health", some ch.healthFactor, some (bandFromKlendHealth ch).asStr,
        notes ++ [verdict]⟩
    else if hasDebt then ⟨"live_health", none, none, notes ++ [.healthIncompleteNoPrices]⟩
    else ⟨"live_health", none, none, notes ++ [.noDebtOrZeroBorrowSf]⟩

/-- What is found of an obligation whose positions decode. -/
def classifyPositions (c : Base58) (pos : LiveObligationPositions) (reserves : Option Reserves)
    (groups : ElevationGroups) : Finding :=
  let notes := positionNotes c pos
  match reserves with
  | some map =>
    classifyHealth pos.header.hasDebt (notes ++ [.elevationGroup pos.header.elevationGroup])
      (computeObligationHealthLiveWithElevation c pos map groups)
  | none =>
    if pos.header.hasDebt then
      ⟨"live_positions", none, none, notes ++ [.noReserveMapSkipCritical]⟩
    else ⟨"live_positions", none, none, notes ++ [.noDebtOrZeroBorrowSf]⟩

/-- What is found of an obligation account. -/
def findObligation (c : Base58) (addr : Pubkey) (data : List UInt8) (reserves : Option Reserves)
    (groups : ElevationGroups) : Outcome Empty Finding :=
  if data.length < 2260 then .ok ⟨"incomplete", none, none, [.tooShortForValueFields]⟩
  else
    match decodeObligationLivePositions addr data with
    | .ok pos => .ok (classifyPositions c pos reserves groups)
    | .err _ =>
      match decodeObligationLiveHeader addr data with
      | .ok h =>
        .ok ⟨"live_header", none, none, [.market (shortText (h.lendingMarket.toBase58 c)),
          .hasDebt h.hasDebt, .positionsDecodeFailedHeaderOnly]⟩
      | .err e => .ok ⟨"unknown", none, none, [.decodeErr e]⟩
      | .panic => .panic
    | .panic => .panic

/-- `classify_klend_obligation_full`. -/
def classifyKlendObligationFull (c : Base58) (addr : Pubkey) (data : List UInt8)
    (reserves : Option Reserves) (groups : ElevationGroups) : Outcome Empty DiscoveredAccount := do
  let found ← findObligation c addr data reserves groups
  return {
    protocol := "Kamino"
    kind := "obligation"
    pubkey := some (addr.toBase58 c)
    pubkeyShort := shortText (addr.toBase58 c)
    dataLen := data.length
    decode := found.decode
    health := found.health
    band := found.band
    notes := found.notes }

/-! ## Where the CRITICAL band comes from -/

lemma asStr_eq_critical_iff {band : CandidateBand} :
    band.asStr = "CRITICAL" ↔ band = .critical := by
  cases band <;> simp [CandidateBand.asStr]

/-- Only a health that is liquidatable is reported `CRITICAL`. -/
lemma classifyHealth_critical {hasDebt : Bool} {notes : List Note} {h : KlendComputedHealth}
    (hband : (classifyHealth hasDebt notes (.ok h)).band = some "CRITICAL") :
    h.isLiquidatable = true := by
  unfold classifyHealth at hband
  by_cases hshown : 0 < h.borrowFactorAdjustedDebtUsdMicro ∨ 0 < h.depositedValueUsdMicro
  · have hcritical : (bandFromKlendHealth h).asStr = "CRITICAL" := by
      simp only [if_pos hshown] at hband
      exact Option.some.inj hband
    exact bandFromKlendHealth_eq_critical_iff.1 (asStr_eq_critical_iff.1 hcritical)
  · simp only [if_neg hshown] at hband
    cases hasDebt <;> exact absurd hband (by simp)

lemma band_classifyKlendObligationFull {c : Base58} {addr : Pubkey} {data : List UInt8}
    {reserves : Option Reserves} {groups : ElevationGroups} {pos : LiveObligationPositions}
    {account : DiscoveredAccount} (hpos : decodeObligationLivePositions addr data = .ok pos)
    (haccount : classifyKlendObligationFull c addr data reserves groups = .ok account) :
    account.band = (classifyPositions c pos reserves groups).band := by
  have hlong : ¬data.length < 2260 := fun hshort => by
    have hheader : decodeObligationLiveHeader addr data = .err .tooShort :=
      if_pos (hshort.trans (by decide))
    obtain ⟨_, hheader', _⟩ := Outcome.bind_eq_ok.1 hpos
    exact absurd (hheader.symm.trans hheader') (by simp)
  obtain ⟨found, hfound, hacc⟩ := Outcome.bind_eq_ok.1 haccount
  rw [findObligation, if_neg hlong, hpos, Outcome.ok.injEq] at hfound
  rw [Outcome.pure_eq, Outcome.ok.injEq] at hacc
  rw [← hacc, ← hfound]

/-- **When a liquidatable verdict rests on complete data.**  The health of an obligation is
called liquidatable, and the account `CRITICAL`, only with every leg priced and the elevation
group found, exactly when that is so anyway or the priced legs do not look under water. -/
theorem critical_only_complete_iff (c : Base58) (pos : LiveObligationPositions)
    (reserves : Reserves) (groups : ElevationGroups) :
    ((∃ h, computeObligationHealthLiveWithElevation c pos reserves groups = .ok h ∧
        (h.isLiquidatable = true → h.missingReserves = [] ∧
          (pos.header.elevationGroup ≠ 0 → (elevationOf pos groups).isSome)) ∧
        (bandFromKlendHealth h = .critical → CompleteData reserves groups pos)) ∧
      ∀ addr data account, decodeObligationLivePositions addr data = .ok pos →
        classifyKlendObligationFull c addr data (some reserves) groups = .ok account →
        account.band = some "CRITICAL" → CompleteData reserves groups pos) ↔
    CompleteData reserves groups pos ∨ ¬UnderWater reserves groups pos := by
  obtain ⟨h, hok⟩ : ∃ h, computeObligationHealthLiveWithElevation c pos reserves groups = .ok h :=
    ⟨_, rfl⟩
  have hliq := isLiquidatable_iff hok
  have hmissing := missingReserves_eq_nil_iff hok
  constructor
  · rintro ⟨⟨h', hok', _, hband⟩, _⟩
    obtain rfl : h = h' := Except.ok.inj (hok.symm.trans hok')
    -- Under water the band is critical, whether the data is complete or not.
    by_cases hunder : UnderWater reserves groups pos
    · exact Or.inl (hband (bandFromKlendHealth_eq_critical_iff.2 (hliq.2 hunder)))
    · exact Or.inr hunder
  · intro hsafe
    have hcomplete : h.isLiquidatable = true → CompleteData reserves groups pos :=
      fun htrue => hsafe.resolve_right fun hdry => hdry (hliq.1 htrue)
    refine ⟨⟨h, hok, fun htrue => ?_, fun hband => ?_⟩, fun addr data account hpos hacc hband => ?_⟩
    · have hall := hcomplete htrue
      exact ⟨hmissing.2 ⟨hall.deposits, hall.borrows⟩, hall.elevation⟩
    · exact hcomplete (bandFromKlendHealth_eq_critical_iff.1 hband)
    · rw [band_classifyKlendObligationFull hpos hacc, classifyPositions, hok] at hband
      exact hcomplete (classifyHealth_critical hband)

/-! ## An obligation with one unknown reserve -/

/-- A reserve of a token worth a dollar, with no shares issued and a threshold of 80%. -/
def dollarReserve (reserve : UInt64) : LiveReserveRisk where
  address := Pubkey.test 3 reserve
  lendingMarket := Pubkey.default
  liquidityMint := Pubkey.test 4 reserve
  mintDecimals := 0
  loanToValuePct := 75
  liquidationThresholdPct := 80
  borrowFactorPct := 100
  marketPriceSf := fractionScale
  totalAvailableAmount := 0
  borrowedAmountSf := 0
  accumulatedProtocolFeesSf := 0
  accumulatedReferrerFeesSf := 0
  pendingReferrerFeesSf := 0
  collateralMintTotalSupply := 0
  pythOracle := Pubkey.default
  switchboardPrice := Pubkey.default
  scopePrices := Pubkey.default

/-- 100 dollars in one reserve and 1000 in a second, against a debt of 90 in a third. -/
def wellCovered : LiveObligationPositions where
  header := threeReservesPositions.header
  deposits := [⟨Pubkey.test 3 1, 100, 0⟩, ⟨Pubkey.test 3 2, 1000, 0⟩]
  borrows := [⟨Pubkey.test 3 3, 90 * fractionScale, 0⟩]

/-- The second reserve is unknown. -/
def secondUnknown : Reserves :=
  ((∅ : Reserves).insert (Pubkey.test 3 1) (dollarReserve 1)).insert (Pubkey.test 3 3)
    (dollarReserve 3)

/-- The obligation is called liquidatable on its first deposit alone. -/
theorem liquidatable_with_missing_deposit :
    ∃ h, computeObligationHealthLiveWithElevation .bitcoin wellCovered secondUnknown none =
        .ok h ∧ h.isLiquidatable = true ∧ bandFromKlendHealth h = .critical ∧
      h.missingReserves = [(Pubkey.test 3 2).toBase58 .bitcoin] := by
  obtain ⟨h, hok⟩ : ∃ h, computeObligationHealthLiveWithElevation .bitcoin wellCovered
    secondUnknown none = .ok h := ⟨_, rfl⟩
  have hliq : h.isLiquidatable = true := by
    rw [isLiquidatable_iff hok]
    decide +kernel
  have hmissing : h.missingReserves = [(Pubkey.test 3 2).toBase58 .bitcoin] := by
    obtain rfl := Except.ok.inj hok
    rfl
  exact ⟨h, hok, hliq, bandFromKlendHealth_eq_critical_iff.2 hliq, hmissing⟩

end Discovery

end Grokbotliq
