import Grokbotliq.Fixtures.Fixtures
import Grokbotliq.Kamino.Accounts
import Grokbotliq.Project0.TxBuilder
import Grokbotliq.Save.Flash

/-!
# Replaying fixtures

The replay binary seeds its price book with the first tick of every asset, streams the other
ticks through the oracle path in file order, and prints a record for every hit.  The slots and
write versions of the ticks go into the versioned store but decide nothing: a hit is a crossing
of the move from the price the asset's previous tick in the file showed (`hitsAlong_eq`).

So the records are read off the two files (`replay_reports`): one for each tick after the first
of its asset and each trigger on that asset which the move crosses, of the accounts' last
entries; no hit is without a borrower, and the binary does not panic.  This is the release
build's arithmetic: the net profit of a record is a signed 64-bit difference, which wraps there
and would panic in a build that checks overflow (`ProfitInput.NetFits`).

The records of one tick come by ascending trigger price.  Accounts with one trigger price stand
in a hash set, whose order is the process's own (`ScanOrder`); another process over the same
files prints the same records up to that order (`sameBlocks_expectedHits`).

The stream is compared with the file in two steps.  `hitsAlong_eq` turns the hits of a stream into
those of the moves between consecutive ticks, given what the book shows at the start;
`seeds_replaySeed` says what it shows.  The records are then computed hit by hit.
-/

namespace Grokbotliq.Fixtures

open Execution Liquidator

variable {F : Type*} (fx : FloatCasts F)

/-! ## The hits of a stream -/

/-- `seed` is called with the first tick of each asset, and a count of the calls so far. -/
def seedFirst (seed : ℕ → OracleTriggerPath → OracleTickFixture F → OracleTriggerPath) :
    ℕ → List Pubkey → OracleTriggerPath → List (OracleTickFixture F) → OracleTriggerPath
  | _, _, p, [] => p
  | n, seeded, p, t :: ts =>
    if t.asset.toPubkey ∈ seeded then seedFirst seed n seeded p ts
    else seedFirst seed (n + 1) (t.asset.toPubkey :: seeded) (seed n p t) ts

/-- The update made for a price event. -/
@[simps] def priceUpdate (source : UpdateSource) (order : ScanOrder) (recvTsUs : ℕ)
    (asset : Pubkey) (priceFx : PriceFx) (slot writeVersion : ℕ) : OracleUpdate where
  asset := asset
  newPrice := priceFx
  slot := slot
  writeVersion := writeVersion
  source := source
  recvTsUs := recvTsUs
  order := order

/-- The hits of a stream of events, each with the slot of its event; `clock n` is the reading
for the `n`-th event. -/
def hitsAlong (source : UpdateSource) (order : ScanOrder) (clock : ℕ → ℕ) :
    ℕ → OracleTriggerPath → List StreamEvent → List (TriggerHit × ℕ)
  | _, _, [] => []
  | n, p, .price asset priceFx slot writeVersion :: evs =>
    let u := priceUpdate source order (clock n) asset priceFx slot writeVersion
    (p.hits u).map (fun hit => (hit, slot)) ++ hitsAlong source order clock (n + 1) (p.update u) evs
  | n, p, .account _ :: evs => hitsAlong source order clock (n + 1) p evs
  | n, p, .slot _ _ _ :: evs => hitsAlong source order clock (n + 1) p evs

/-- The hits of a stream depend on the book and the index alone: not on the versioned store, the
source of the updates or the clock. -/
lemma hitsAlong_congr {source source' : UpdateSource} {order : ScanOrder}
    {clock clock' : ℕ → ℕ} :
    ∀ (evs : List StreamEvent) (n : ℕ) {p q : OracleTriggerPath}, p.index = q.index →
      (∀ asset, p.prices.lookup asset = q.prices.lookup asset) →
      hitsAlong source order clock n p evs = hitsAlong source' order clock' n q evs
  | [], _, _, _, _, _ => rfl
  | .account _ :: evs, n, _, _, hindex, hprices => hitsAlong_congr evs (n + 1) hindex hprices
  | .slot _ _ _ :: evs, n, _, _, hindex, hprices => hitsAlong_congr evs (n + 1) hindex hprices
  | .price asset priceFx slot writeVersion :: evs, n, p, q, hindex, hprices => by
      unfold hitsAlong
      refine congrArg₂ _ ?_ (hitsAlong_congr evs (n + 1) ?_ fun a => ?_)
      · rw [OracleTriggerPath.hits_eq, OracleTriggerPath.hits_eq, hindex]
        simp only [priceUpdate_asset, priceUpdate_newPrice, hprices]
        rfl
      · rw [OracleTriggerPath.update_index, OracleTriggerPath.update_index, hindex]
      · rw [OracleTriggerPath.update_prices, OracleTriggerPath.update_prices, hprices]
        simp only [priceUpdate_asset, priceUpdate_newPrice]

/-- The price the latest of some ticks of an asset shows. -/
def previousPrice (ticks : List (OracleTickFixture F)) (asset : Pubkey) : Option PriceFx :=
  (latest? (fun t => t.asset.toPubkey = asset) ticks).map fun t => fx.priceFx t.priceUsd

lemma previousPrice_concat (ticks : List (OracleTickFixture F)) (t : OracleTickFixture F)
    (asset : Pubkey) :
    previousPrice fx (ticks ++ [t]) asset =
      if t.asset.toPubkey = asset then some (fx.priceFx t.priceUsd)
      else previousPrice fx ticks asset := by
  unfold previousPrice
  rw [latest?_concat]
  by_cases h : t.asset.toPubkey = asset <;> simp [h]

/-- The hits the file describes: those of each tick's move from the price its asset showed
before. -/
def expectedHits (order : ScanOrder) (ix : CandidateIndex) :
    List (OracleTickFixture F) → List (OracleTickFixture F) → List (TriggerHit × ℕ)
  | _, [] => []
  | pre, t :: ts =>
    (match previousPrice fx pre t.asset.toPubkey with
      | none => []
      | some prev => (ix.onPriceUpdate order t.asset.toPubkey prev (fx.priceFx t.priceUsd)).map
          fun hit => (hit, t.slot)) ++ expectedHits order ix (pre ++ [t]) ts

lemma mem_expectedHits {order : ScanOrder} {ix : CandidateIndex} {hit : TriggerHit} {slot : ℕ} :
    ∀ {pre ts : List (OracleTickFixture F)}, (hit, slot) ∈ expectedHits fx order ix pre ts ↔
      ∃ before t after prev, ts = before ++ t :: after ∧
        previousPrice fx (pre ++ before) t.asset.toPubkey = some prev ∧ slot = t.slot ∧
        hit ∈ ix.onPriceUpdate order t.asset.toPubkey prev (fx.priceFx t.priceUsd)
  | pre, [] => by simp [expectedHits]
  | pre, t :: ts => by
      rw [expectedHits, List.mem_append, mem_expectedHits]
      -- A hit is of the first tick, or of a later one that has the first among those before it.
      constructor
      · rintro (hhead | ⟨before, t', after, prev, rfl, hprev, hslot, hmem⟩)
        · cases hprev : previousPrice fx pre t.asset.toPubkey with
          | none => simp [hprev] at hhead
          | some prev =>
              simp only [hprev, List.mem_map, Prod.mk.injEq] at hhead
              obtain ⟨h, hmem, rfl, rfl⟩ := hhead
              exact ⟨[], t, ts, prev, rfl, by rw [List.append_nil, hprev], rfl, hmem⟩
        · refine ⟨t :: before, t', after, prev, rfl, ?_, hslot, hmem⟩
          rw [← hprev, List.append_assoc, List.singleton_append]
      · rintro ⟨before, t', after, prev, hsplit, hprev, hslot, hmem⟩
        cases before with
        | nil =>
            obtain ⟨rfl, rfl⟩ := List.cons.inj hsplit
            rw [List.append_nil] at hprev
            refine Or.inl ?_
            simp [hprev, hslot, hmem]
        | cons t₀ before =>
            obtain ⟨rfl, rfl⟩ := List.cons.inj hsplit
            refine Or.inr ⟨before, t', after, prev, rfl, ?_, hslot, hmem⟩
            rw [List.append_assoc, List.singleton_append, hprev]

/-- Two processes over one file: each has its own order of the hits at one trigger price. -/
lemma sameBlocks_expectedHits (order order' : ScanOrder) (ix : CandidateIndex)
    (pre ts : List (OracleTickFixture F)) :
    SameBlocks (fun x : TriggerHit × ℕ => (x.1.crossing, x.2)) (expectedHits fx order ix pre ts)
      (expectedHits fx order' ix pre ts) := by
  induction ts generalizing pre with
  | nil => exact .nil
  | cons t ts ih =>
      rw [expectedHits, expectedHits]
      refine SameBlocks.append ?_ (ih _)
      cases previousPrice fx pre t.asset.toPubkey with
      | none => exact .nil
      | some prev =>
          exact (ix.sameBlocks_onPriceUpdate order order' t.asset.toPubkey prev
            (fx.priceFx t.priceUsd)).map (fun k => (k, t.slot)) fun _ => rfl

/-! ## The stream against the file -/

/-- A seed puts the tick's price in the book and leaves the index alone. -/
structure Seeds (seed : ℕ → OracleTriggerPath → OracleTickFixture F → OracleTriggerPath) :
    Prop where
  index : ∀ n p t, (seed n p t).index = p.index
  prices : ∀ n p t asset, (seed n p t).prices.lookup asset =
    if asset = t.asset.toPubkey then some (fx.priceFx t.priceUsd) else p.prices.lookup asset

/-- The first price a file shows for an asset. -/
def firstPrice (ticks : List (OracleTickFixture F)) (asset : Pubkey) : Option PriceFx :=
  (ticks.find? fun t => t.asset.toPubkey = asset).map fun t => fx.priceFx t.priceUsd

variable {fx}

lemma Seeds.seedFirst_index
    {seed : ℕ → OracleTriggerPath → OracleTickFixture F → OracleTriggerPath}
    (hseed : Seeds fx seed) :
    ∀ (ts : List (OracleTickFixture F)) (n : ℕ) (seeded : List Pubkey) (p : OracleTriggerPath),
      (seedFirst seed n seeded p ts).index = p.index
  | [], _, _, _ => rfl
  | t :: ts, n, seeded, p => by
      unfold seedFirst
      split_ifs
      · exact hseed.seedFirst_index ts n seeded p
      · rw [hseed.seedFirst_index ts, hseed.index]

lemma Seeds.seedFirst_prices
    {seed : ℕ → OracleTriggerPath → OracleTickFixture F → OracleTriggerPath}
    (hseed : Seeds fx seed) (asset : Pubkey) :
    ∀ (ts : List (OracleTickFixture F)) (n : ℕ) (seeded : List Pubkey) (p : OracleTriggerPath),
      (seedFirst seed n seeded p ts).prices.lookup asset =
        if asset ∈ seeded then p.prices.lookup asset
        else (firstPrice fx ts asset).or (p.prices.lookup asset)
  | [], n, seeded, p => by simp [seedFirst, firstPrice]
  | t :: ts, n, seeded, p => by
      unfold seedFirst
      by_cases hin : t.asset.toPubkey ∈ seeded
      · rw [if_pos hin, hseed.seedFirst_prices asset ts]
        by_cases hasset : asset ∈ seeded
        · rw [if_pos hasset, if_pos hasset]
        · have hne : ¬ t.asset.toPubkey = asset := by
            rintro rfl
            exact hasset hin
          simp [hasset, firstPrice, hne]
      · rw [if_neg hin, hseed.seedFirst_prices asset ts, hseed.prices]
        by_cases heq : asset = t.asset.toPubkey
        · subst heq
          simp [hin, firstPrice]
        · have hne : ¬ t.asset.toPubkey = asset := fun h => heq h.symm
          simp [heq, firstPrice, hne]

/-- **The hits of the stream are those the file describes**, when the book shows for each
asset its previous price, or its first one where no tick has passed. -/
lemma hitsAlong_eq (source : UpdateSource) (order : ScanOrder) (clock : ℕ → ℕ) :
    ∀ (ts pre : List (OracleTickFixture F)) (seen : List Pubkey) (n : ℕ) (p : OracleTriggerPath),
      (∀ asset, asset ∈ seen ↔ previousPrice fx pre asset ≠ none) →
      (∀ asset, p.prices.lookup asset =
        (previousPrice fx pre asset).or (firstPrice fx ts asset)) →
      hitsAlong source order clock n p (laterEvents seen (ticksToEvents fx ts)) =
        expectedHits fx order p.index pre ts
  | [], _, _, _, _, _, _ => rfl
  | t :: ts, pre, seen, n, p, hseen, hbook => by
      have hevents : ticksToEvents fx (t :: ts) =
          .price t.asset.toPubkey (fx.priceFx t.priceUsd) t.slot t.writeVersion ::
            ticksToEvents fx ts := rfl
      have hhead : firstPrice fx (t :: ts) t.asset.toPubkey = some (fx.priceFx t.priceUsd) := by
        simp [firstPrice]
      have htail : ∀ asset, ¬ t.asset.toPubkey = asset →
          firstPrice fx (t :: ts) asset = firstPrice fx ts asset := by
        intro asset hne
        simp [firstPrice, hne]
      -- The first tick of an asset is not streamed, and the book holds its price already.
      rw [hevents, laterEvents, expectedHits]
      by_cases hin : t.asset.toPubkey ∈ seen
      · -- a later tick: the book shows the asset's previous price
        obtain ⟨prev, hprev⟩ := Option.ne_none_iff_exists'.1 ((hseen _).1 hin)
        let u := priceUpdate source order (clock n) t.asset.toPubkey (fx.priceFx t.priceUsd) t.slot
          t.writeVersion
        have hhits : p.hits u = p.index.onPriceUpdate order t.asset.toPubkey prev
            (fx.priceFx t.priceUsd) := by
          rw [OracleTriggerPath.hits_eq, priceUpdate_asset, hbook, hprev]
          rfl
        have hrest :=
          hitsAlong_eq source order clock ts (pre ++ [t]) seen (n + 1) (p.update u) ?_ ?_
        · rw [if_pos hin, hitsAlong, hprev, hhits, hrest, OracleTriggerPath.update_index]
        · intro asset
          rw [hseen, previousPrice_concat]
          by_cases heq : t.asset.toPubkey = asset
          · simp [← heq, hprev]
          · rw [if_neg heq]
        · intro asset
          rw [OracleTriggerPath.update_prices, previousPrice_concat, hbook, priceUpdate_asset]
          by_cases heq : t.asset.toPubkey = asset
          · rw [if_pos heq.symm, if_pos heq]
            rfl
          · rw [if_neg fun h => heq h.symm, if_neg heq, htail asset heq]
      · -- the first tick of its asset, which the book already shows
        have hnone : previousPrice fx pre t.asset.toPubkey = none :=
          not_not.1 fun h => hin ((hseen _).2 h)
        rw [if_neg hin, hnone, List.nil_append]
        refine hitsAlong_eq source order clock ts (pre ++ [t]) _ n p ?_ ?_
        · intro asset
          rw [List.mem_cons, hseen, previousPrice_concat]
          by_cases heq : t.asset.toPubkey = asset
          · simp [heq]
          · rw [if_neg heq, or_iff_right fun h => heq h.symm]
        · intro asset
          rw [hbook, previousPrice_concat]
          by_cases heq : t.asset.toPubkey = asset
          · rw [if_pos heq, ← heq, hnone, hhead]
            rfl
          · rw [if_neg heq, htail asset heq]

/-! ## The records -/

/-- `{:?}` of a reason. -/
def reasonName : ProfitRejectReason → String
  | .belowMinProfit => "BelowMinProfit"
  | .belowMinRoi => "BelowMinRoi"
  | .costTooHigh => "CostTooHigh"
  | .notionalTooSmall => "NotionalTooSmall"
  | .negativeNet => "NegativeNet"

/-- How a record spells a decision. -/
def decisionText : ProfitDecision → String
  | .accept net roi =>
    "Accept" ++ ("(net=" ++ toString net.toInt ++ ",roi_bps=" ++ toString roi.toNat ++ ")")
  | .reject reason net =>
    "Reject" ++ ("(" ++ reasonName reason ++ ",net=" ++ toString net.toInt ++ ")")

/-- `text.starts_with("Accept")`. -/
def startsWithAccept (text : String) : Bool := "Accept".toList.isPrefixOf text.toList

/-- The spelling tells the accepted decisions from the others. -/
lemma startsWithAccept_decisionText (d : ProfitDecision) :
    startsWithAccept (decisionText d) = d.isAccept := by
  unfold startsWithAccept decisionText
  cases d with
  | accept net roi => simp [ProfitDecision.isAccept]
  | reject reason net => simp [ProfitDecision.isAccept, List.isPrefixOf]

/-- `plan_ixs`: the labels a record lists for a protocol. -/
def planIxs : Protocol → List String
  | .kamino => ["ComputeBudget", "scope_refresh_optional", "refresh_reserve*",
      "refresh_obligation", "liquidate_obligation_and_redeem_reserve_collateral_v2",
      "swap_optional"]
  | .project0 => ["ComputeBudget", "lending_account_liquidate"]
  | .save => ["ComputeBudget", "RefreshReserve*", "RefreshObligation",
      "LiquidateObligationAndRedeemReserveCollateral", "SwapOptional"]

/-- `encode_preview` before it is spelt in hex: the first sixteen bytes. -/
def encodePreview (protocol : Protocol) (repay : UInt64) : List UInt8 :=
  (match protocol with
    | .kamino => Kamino.encodeLiquidateV2Data repay 0 0
    | .project0 => Project0.encodeClassicLiquidate repay
    | .save => Save.encodeLiquidateAndRedeem repay).take 16

structure OpportunityRecord where
  protocol : Protocol
  account : Pubkey
  asset : Pubkey
  side : TriggerSide
  triggerPrice : PriceFx
  newPrice : PriceFx
  health : HealthFx
  band : String
  planIxs : List String
  ixDataPreview : List UInt8
  notionalUsdMicro : UInt64
  expectedProfitUsdMicro : Int64
  profitDecision : String
  slot : ℕ

variable (fx)

/-- The economics of a borrower's plan, under the costs both binaries assume. -/
def profitInput (plan : PlanFixture F) : ProfitInput where
  grossProfitUsdMicro := fx.signedUsdMicro plan.grossProfitUsd
  swapCostUsdMicro := 100000
  chainCostUsdMicro := 50000
  capitalUsedUsdMicro := fx.usdMicro plan.capitalUsd
  notionalUsdMicro := fx.usdMicro plan.notionalUsd

/-- The record of a hit of a borrower whose entry reads as `m`. -/
def opportunity (hit : TriggerHit) (b : BorrowerFixture F) (m : CandidateMeta) (slot : ℕ) :
    OpportunityRecord :=
  let input := profitInput fx b.plan
  let decision := ProfitConfig.default.evaluate input
  { protocol := m.protocol
    account := m.account
    asset := hit.asset
    side := hit.side
    triggerPrice := hit.triggerPrice
    newPrice := hit.newPrice
    health := m.health
    band := m.band.asStr
    planIxs := planIxs m.protocol
    ixDataPreview := encodePreview m.protocol b.plan.repayAmount
    notionalUsdMicro := input.notionalUsdMicro
    expectedProfitUsdMicro := decision.netProfit
    profitDecision := decisionText decision
    slot := slot }

/-- `build_opportunity`, which expects the entry to read. -/
def buildOpportunity (hit : TriggerHit) (b : BorrowerFixture F) (slot : ℕ) :
    Outcome StreamError OpportunityRecord :=
  match borrowerToMeta fx b with
  | .ok m => .ok (opportunity fx hit b m slot)
  | _ => .panic

/-! ## The binary -/

structure ReplayLoop where
  path : OracleTriggerPath
  /-- The records printed so far. -/
  opportunities : List OpportunityRecord
  /-- The hits logged as having no borrower. -/
  unmatched : List TriggerHit

namespace ReplayLoop

def handleHit (borrowers : List (BorrowerFixture F)) (slot : ℕ) (s : ReplayLoop)
    (hit : TriggerHit) : Outcome StreamError ReplayLoop :=
  match findBorrower borrowers hit with
  | some b => do
    let record ← buildOpportunity fx hit b slot
    return { s with opportunities := s.opportunities ++ [record] }
  | none => return { s with unmatched := s.unmatched ++ [hit] }

def handleEvents (borrowers : List (BorrowerFixture F)) (order : ScanOrder) (clock : ℕ → ℕ) :
    ℕ → ReplayLoop → List StreamEvent → Outcome StreamError ReplayLoop
  | _, s, [] => .ok s
  | n, s, .price asset priceFx slot writeVersion :: evs => do
    let (path, hits) :=
      s.path.applyOracleUpdate (priceUpdate .replay order (clock n) asset priceFx slot writeVersion)
    let s ← hits.foldlM (handleHit fx borrowers slot) { s with path := path }
    handleEvents borrowers order clock (n + 1) s evs
  | n, s, .account _ :: evs => handleEvents borrowers order clock (n + 1) s evs
  | n, s, .slot _ _ _ :: evs => handleEvents borrowers order clock (n + 1) s evs

end ReplayLoop

/-- The seed of the replay: the price is set, and then applied as an update. -/
def replaySeed (order : ScanOrder) (clock : ℕ → ℕ) (n : ℕ) (p : OracleTriggerPath)
    (t : OracleTickFixture F) : OracleTriggerPath :=
  let price := fx.priceFx t.priceUsd
  { p with prices := p.prices.insert t.asset.toPubkey price }.update
    (priceUpdate .replay order (clock n) t.asset.toPubkey price t.slot t.writeVersion)

/-- The clock readings of a replay: by its seeds, by its events, by its one execution. -/
structure ReplayClock where
  seeds : ℕ → ℕ
  events : ℕ → ℕ
  checkedAt : ℕ
  begunAt : ℕ

/-- What a replay has printed and submitted when it ends. -/
structure Replayed where
  opportunities : List OpportunityRecord
  unmatched : List TriggerHit
  /-- What the dry execution of the first accepted opportunity comes to, if there is one. -/
  submitted : Option (Except ExecError SubmitResult)

/-- The transaction of an opportunity; it carries labels and no instructions. -/
def OpportunityRecord.prepare (o : OpportunityRecord) : PreparedTx where
  label := "replay-opportunity"
  protocol := o.protocol
  account := o.account
  notionalUsdMicro := o.notionalUsdMicro
  expectedProfitUsdMicro := o.expectedProfitUsdMicro
  ixs := o.planIxs
  instructions := []
  fundingStrategy := none

/-- The replay binary on the contents of its two files. -/
def replay (order : ScanOrder) (clock : ReplayClock) (ticks : List (OracleTickFixture F))
    (borrowers : List (BorrowerFixture F)) : Outcome StreamError Replayed := do
  let index ← loadIndex fx borrowers
  let path := seedFirst (replaySeed fx order clock.seeds) 0 [] (.new index Metrics.zero) ticks
  let s ← ReplayLoop.handleEvents fx borrowers order clock.events 0 ⟨path, [], []⟩
    (laterEvents [] (ticksToEvents fx ticks))
  let engine : ExecutionEngine := ⟨⟨true, .balanced⟩, .new .default, s.path.metrics⟩
  return {
    opportunities := s.opportunities
    unmatched := s.unmatched
    submitted := (s.opportunities.find? fun o => startsWithAccept o.profitDecision).map fun o =>
      (engine.execute o.prepare 0 clock.checkedAt clock.begunAt).2 }

/-! ## What a replay prints -/

/-- The record of a hit, where its borrower is known and can be read. -/
def recordOf (borrowers : List (BorrowerFixture F)) (x : TriggerHit × ℕ) :
    Option OpportunityRecord :=
  (findBorrower borrowers x.1).bind fun b =>
    match borrowerToMeta fx b with
    | .ok m => some (opportunity fx x.1 b m x.2)
    | _ => none

/-- Every borrower of the file can be read. -/
def AllRead (borrowers : List (BorrowerFixture F)) : Prop :=
  ∀ b ∈ borrowers, ∃ m, borrowerToMeta fx b = .ok m

variable {fx}

/-- The hits without a borrower. -/
def unmatchedOf (borrowers : List (BorrowerFixture F)) (hits : List (TriggerHit × ℕ)) :
    List TriggerHit :=
  (hits.filter fun x => (findBorrower borrowers x.1).isNone).map Prod.fst

namespace ReplayLoop

variable {borrowers : List (BorrowerFixture F)}

lemma handleHit_eq (hread : AllRead fx borrowers) (slot : ℕ) (s : ReplayLoop) (hit : TriggerHit) :
    handleHit fx borrowers slot s hit = .ok { s with
      opportunities := s.opportunities ++ (recordOf fx borrowers (hit, slot)).toList
      unmatched := s.unmatched ++ unmatchedOf borrowers [(hit, slot)] } := by
  unfold handleHit recordOf unmatchedOf
  cases hb : findBorrower borrowers hit with
  | none => simp [hb]
  | some b =>
      obtain ⟨m, hm⟩ := hread b (List.mem_of_find?_eq_some hb)
      simp [hb, buildOpportunity, hm]

lemma handleHits_eq (hread : AllRead fx borrowers) (slot : ℕ) :
    ∀ (hits : List TriggerHit) (s : ReplayLoop),
      hits.foldlM (handleHit fx borrowers slot) s = .ok { s with
        opportunities := s.opportunities ++
          (hits.map fun hit => (hit, slot)).filterMap (recordOf fx borrowers)
        unmatched := s.unmatched ++ unmatchedOf borrowers (hits.map fun hit => (hit, slot)) }
  | [], s => by simp [unmatchedOf]
  | hit :: hits, s => by
      rw [List.foldlM_cons, handleHit_eq hread, Outcome.ok_bind, handleHits_eq hread slot hits]
      have hcons : (hit :: hits).map (fun hit => (hit, slot)) =
          [(hit, slot)] ++ hits.map fun hit => (hit, slot) := rfl
      have hrecord : [(hit, slot)].filterMap (recordOf fx borrowers) =
          (recordOf fx borrowers (hit, slot)).toList := by
        cases hrec : recordOf fx borrowers (hit, slot) <;> simp [hrec]
      have hunmatched : unmatchedOf borrowers ((hit :: hits).map fun hit => (hit, slot)) =
          unmatchedOf borrowers [(hit, slot)] ++
            unmatchedOf borrowers (hits.map fun hit => (hit, slot)) := by
        unfold unmatchedOf
        rw [hcons, List.filter_append, List.map_append]
      rw [hunmatched, hcons, List.filterMap_append, hrecord, List.append_assoc, List.append_assoc]

lemma handleEvents_eq (hread : AllRead fx borrowers) (order : ScanOrder) (clock : ℕ → ℕ) :
    ∀ (evs : List StreamEvent) (n : ℕ) (s : ReplayLoop), ∃ path,
      handleEvents fx borrowers order clock n s evs = .ok ⟨path,
        s.opportunities ++
          (hitsAlong .replay order clock n s.path evs).filterMap (recordOf fx borrowers),
        s.unmatched ++ unmatchedOf borrowers (hitsAlong .replay order clock n s.path evs)⟩
  | [], n, s => ⟨s.path, by simp [handleEvents, hitsAlong, unmatchedOf]⟩
  | .account _ :: evs, n, s => handleEvents_eq hread order clock evs (n + 1) s
  | .slot _ _ _ :: evs, n, s => handleEvents_eq hread order clock evs (n + 1) s
  | .price asset priceFx slot writeVersion :: evs, n, s => by
      let u := priceUpdate .replay order (clock n) asset priceFx slot writeVersion
      have hstep : handleEvents fx borrowers order clock n s
          (.price asset priceFx slot writeVersion :: evs) =
            ((s.path.hits u).foldlM (handleHit fx borrowers slot)
              { s with path := s.path.update u } >>= fun s =>
                handleEvents fx borrowers order clock (n + 1) s evs) := rfl
      rw [hstep, handleHits_eq hread, Outcome.ok_bind]
      obtain ⟨path, hrest⟩ := handleEvents_eq hread order clock evs (n + 1)
        { s with
          path := s.path.update u
          opportunities := s.opportunities ++
            ((s.path.hits u).map fun hit => (hit, slot)).filterMap (recordOf fx borrowers)
          unmatched := s.unmatched ++
            unmatchedOf borrowers ((s.path.hits u).map fun hit => (hit, slot)) }
      refine ⟨path, hrest.trans ?_⟩
      have hhits :
          hitsAlong .replay order clock n s.path (.price asset priceFx slot writeVersion :: evs) =
            (s.path.hits u).map (fun hit => (hit, slot)) ++
              hitsAlong .replay order clock (n + 1) (s.path.update u) evs := rfl
      rw [hhits]
      simp only [unmatchedOf, List.filterMap_append, List.filter_append, List.map_append,
        List.append_assoc]

end ReplayLoop

/-- What seeding makes of the book: the first price of every asset. -/
lemma seeds_replaySeed (order : ScanOrder) (clock : ℕ → ℕ) :
    Seeds fx (replaySeed fx order clock) where
  index n p t := by
    unfold replaySeed
    rw [OracleTriggerPath.update_index]
  prices n p t asset := by
    unfold replaySeed
    rw [OracleTriggerPath.update_prices, priceUpdate_asset, priceUpdate_newPrice]
    by_cases h : asset = t.asset.toPubkey
    · rw [if_pos h, if_pos h]
    · rw [if_neg h, if_neg h]
      exact (KeyMap.lookup_insert_eq_ite ..).trans (if_neg h)

/-- The stream after seeding, from an empty book. -/
lemma hitsAlong_seedFirst
    {seed : ℕ → OracleTriggerPath → OracleTickFixture F → OracleTriggerPath}
    (hseed : Seeds fx seed) (source : UpdateSource) (order : ScanOrder) (clock : ℕ → ℕ)
    (index : CandidateIndex) (metrics : Metrics) (ticks : List (OracleTickFixture F)) :
    hitsAlong source order clock 0 (seedFirst seed 0 [] (.new index metrics) ticks)
        (laterEvents [] (ticksToEvents fx ticks)) = expectedHits fx order index [] ticks := by
  have hindex := hseed.seedFirst_index ticks 0 [] (.new index metrics)
  rw [hitsAlong_eq source order clock ticks [] [] 0 _ ?_ ?_, hindex]
  · rfl
  · intro asset
    simp [previousPrice]
  · intro asset
    rw [hseed.seedFirst_prices asset ticks]
    simp [previousPrice, OracleTriggerPath.new, AList.lookup_empty]

/-- A hit of a loaded index belongs to an account of the file. -/
lemma exists_borrower_of_hit {borrowers : List (BorrowerFixture F)} {index : CandidateIndex}
    (hload : loadIndex fx borrowers = .ok index) {order : ScanOrder}
    {ticks : List (OracleTickFixture F)} {hit : TriggerHit} {slot : ℕ}
    (hhit : (hit, slot) ∈ expectedHits fx order index [] ticks) :
    ∃ b, findBorrower borrowers hit = some b := by
  obtain ⟨-, t, -, prev, -, -, -, hmem⟩ := (mem_expectedHits fx).1 hhit
  obtain ⟨hcons, htable⟩ := lookup_of_loadIndex fx hload
  obtain ⟨-, -, hcross, hindexed⟩ := (CandidateIndex.mem_onPriceUpdate ..).1 hmem
  obtain ⟨ts, hts, -⟩ := (hcons ..).1 hindexed
  obtain ⟨b, hb, -⟩ := (htable hit.account ts).1 hts
  have hfound := List.find?_some hb
  have hmem' : b ∈ borrowers := List.mem_reverse.1 (List.mem_of_find?_eq_some hb)
  exact Option.isSome_iff_exists.1 (List.find?_isSome.2 ⟨b, hmem', hfound⟩)

/-- The record a tick and a crossed trigger give rise to: the trigger is one of the account's
last entry in the file, what the record says of the account is taken from its first. -/
def Reported (fx : FloatCasts F) (ticks : List (OracleTickFixture F))
    (borrowers : List (BorrowerFixture F)) (o : OpportunityRecord) : Prop :=
  ∃ before t after prev account last triggers trigger first m hit,
    ticks = before ++ t :: after ∧
    previousPrice fx before t.asset.toPubkey = some prev ∧
    lastEntry borrowers account = some last ∧ borrowerTriggers fx last = .ok triggers ∧
    trigger ∈ triggers ∧ trigger.asset = t.asset.toPubkey ∧
    CandidateIndex.Crosses trigger.side trigger.triggerPrice prev (fx.priceFx t.priceUsd) ∧
    hit = ⟨account, t.asset.toPubkey, trigger.side, trigger.triggerPrice, fx.priceFx t.priceUsd⟩ ∧
    findBorrower borrowers hit = some first ∧ borrowerToMeta fx first = .ok m ∧
    o = opportunity fx hit first m t.slot

/-- The records of the hits the files describe. -/
lemma mem_records_iff {borrowers : List (BorrowerFixture F)} {index : CandidateIndex}
    (hload : loadIndex fx borrowers = .ok index) {order : ScanOrder}
    {ticks : List (OracleTickFixture F)} (o : OpportunityRecord) :
    o ∈ (expectedHits fx order index [] ticks).filterMap (recordOf fx borrowers) ↔
      Reported fx ticks borrowers o := by
  obtain ⟨hcons, htable⟩ := lookup_of_loadIndex fx hload
  rw [List.mem_filterMap]
  constructor
  -- A hit of the index is a trigger of the last row of its account; the record is of the first row
  -- that has it.
  · rintro ⟨⟨hit, slot⟩, hmem, hrecord⟩
    obtain ⟨before, t, after, prev, hsplit, hprev, rfl, hhit⟩ := (mem_expectedHits fx).1 hmem
    obtain ⟨hasset, hnew, hcross, hindexed⟩ := (CandidateIndex.mem_onPriceUpdate ..).1 hhit
    obtain ⟨triggers, hts, trigger, htrigger, htasset, htside, htprice⟩ := (hcons ..).1 hindexed
    obtain ⟨last, hlast, hread⟩ := (htable hit.account triggers).1 hts
    obtain ⟨first, hfirst, hrest⟩ := Option.bind_eq_some_iff.1 hrecord
    cases hm : borrowerToMeta fx first with
    | ok m =>
        rw [hm] at hrest
        refine ⟨before, t, after, prev, hit.account, last, triggers, trigger, first, m, hit, hsplit,
          by simpa using hprev, hlast, hread, htrigger, htasset.symm, ?_, ?_, hfirst, hm,
          (Option.some.inj hrest).symm⟩
        · rwa [← htside, ← htprice]
        · rw [← htside, ← htprice, ← hasset, ← hnew]
    | err e => simp [hm] at hrest
    | panic => simp [hm] at hrest
  · rintro ⟨before, t, after, prev, account, last, triggers, trigger, first, m, hit, hsplit, hprev,
      hlast, hread, htrigger, htasset, hcross, hhit, hfirst, hm, rfl⟩
    have hmem : hit ∈ index.onPriceUpdate order t.asset.toPubkey prev
        (fx.priceFx t.priceUsd) := by
      rw [hhit]
      refine (CandidateIndex.mem_onPriceUpdate ..).2 ⟨rfl, rfl, hcross, (hcons ..).2 ?_⟩
      exact ⟨triggers, (htable account triggers).2 ⟨last, hlast, hread⟩, trigger, htrigger,
        htasset.symm, rfl, rfl⟩
    refine ⟨(hit, t.slot), (mem_expectedHits fx).2
      ⟨before, t, after, prev, hsplit, by simpa using hprev, rfl, hmem⟩, ?_⟩
    simp [recordOf, hfirst, hm]

/-- A breaker with the default limits that nothing keeps from admitting but the amounts. -/
structure Idle (b : CircuitBreaker) : Prop where
  limits : b.limits = .default
  paused : b.paused = false
  closed : b.opened = false
  inFlight : b.inFlight = 0

lemma idle_new : Idle (.new .default) := ⟨rfl, rfl, rfl, rfl⟩

/-- An idle breaker looks at the amount and at what the window remembers. -/
lemma Idle.checkAllow {b : CircuitBreaker} (h : Idle b) (notional : UInt64) (now : ℕ) :
    b.checkAllow notional 0 now =
      if RiskLimits.default.maxNotionalPerLiqUsdMicro < notional then (b, .error .maxNotional)
      else ({ b with rolling := b.rolling.prune now },
        if RiskLimits.default.maxNotionalPerMinuteUsdMicro <
            MachineInt.satAddU64 (b.rolling.sum now).2 notional then .error .rollingNotional
        else .ok ()) := by
  have hstale : ¬ (0 : UInt64) > RiskLimits.default.oracleMaxStalenessSlots := by decide
  have hseats : ¬ (0 : UInt32) ≥ RiskLimits.default.maxConcurrentLiquidations := by decide
  have hsum : (b.rolling.sum now).1 = b.rolling.prune now := rfl
  unfold CircuitBreaker.checkAllow
  rw [h.limits, h.paused, h.closed, h.inFlight, if_neg Bool.false_ne_true,
    if_neg Bool.false_ne_true, if_neg hstale, if_neg hseats]
  simp only [hsum, gt_iff_lt]
  split_ifs <;> rfl

/-- The dry execution of an engine whose breaker is idle: refused for its amount, or a dry
result, and the breaker idle again. -/
lemma Idle.execute {e : ExecutionEngine} (h : Idle e.risk) (hdry : e.config.dryRun = true)
    (tx : PreparedTx) (checkedAt begunAt : ℕ) :
    Idle (e.execute tx 0 checkedAt begunAt).1.risk ∧
      (e.execute tx 0 checkedAt begunAt).1.config = e.config ∧
      (e.execute tx 0 checkedAt begunAt).2 =
        if RiskLimits.default.maxNotionalPerLiqUsdMicro < tx.notionalUsdMicro then
          .error (.risk .maxNotional)
        else if RiskLimits.default.maxNotionalPerMinuteUsdMicro <
            MachineInt.satAddU64 (e.risk.rolling.sum checkedAt).2 tx.notionalUsdMicro then
          .error (.risk .rollingNotional)
        else .ok ⟨true, true,
          e.config.bidProfile.computeBid (max tx.expectedProfitUsdMicro 0).toUInt64⟩ := by
  unfold ExecutionEngine.execute
  rw [h.checkAllow]
  -- Paused, open and busy are out, so the checks left are the two of the notional.
  by_cases hsingle : RiskLimits.default.maxNotionalPerLiqUsdMicro < tx.notionalUsdMicro
  · simp only [if_pos hsingle]
    exact ⟨h, trivial, trivial⟩
  · simp only [if_neg hsingle]
    by_cases hminute : RiskLimits.default.maxNotionalPerMinuteUsdMicro <
        MachineInt.satAddU64 (e.risk.rolling.sum checkedAt).2 tx.notionalUsdMicro
    · simp only [if_pos hminute]
      exact ⟨⟨h.limits, h.paused, h.closed, h.inFlight⟩, trivial, trivial⟩
    · simp only [if_neg hminute, hdry, if_true]
      refine ⟨⟨h.limits, h.paused, h.closed, ?_⟩, trivial, trivial⟩
      simp [CircuitBreaker.endSuccess, CircuitBreaker.leaveFlight,
        CircuitBreaker.beginLiquidation, h.inFlight]

/-- What the dry execution of a transaction by a fresh engine comes to. -/
lemma execute_fresh (bid : BidProfile) (metrics : Metrics) (tx : PreparedTx)
    (checkedAt begunAt : ℕ) :
    (ExecutionEngine.execute ⟨⟨true, bid⟩, .new .default, metrics⟩ tx 0 checkedAt begunAt).2 =
      if RiskLimits.default.maxNotionalPerLiqUsdMicro < tx.notionalUsdMicro then
        .error (.risk .maxNotional)
      else .ok ⟨true, true, bid.computeBid (max tx.expectedProfitUsdMicro 0).toUInt64⟩ := by
  obtain ⟨-, -, hresult⟩ := Idle.execute (e := ⟨⟨true, bid⟩, .new .default, metrics⟩) idle_new rfl
    tx checkedAt begunAt
  rw [hresult]
  by_cases hsingle : RiskLimits.default.maxNotionalPerLiqUsdMicro < tx.notionalUsdMicro
  · rw [if_pos hsingle, if_pos hsingle]
  -- A new window is empty, so the limit of a minute is met whenever that of one plan is.
  · have hempty : (RollingWindow.sum ⟨[], 60000000000⟩ checkedAt).2 = 0 := rfl
    have hle := UInt64.le_iff_toNat_le.1 (UInt64.not_lt.1 hsingle)
    have hfits : MachineInt.satAddU64 0 tx.notionalUsdMicro ≤
        RiskLimits.default.maxNotionalPerMinuteUsdMicro := by
      rw [MachineInt.satAddU64_le_iff (by decide)]
      exact (Nat.zero_add _).le.trans (hle.trans (by decide))
    rw [if_neg hsingle, if_neg hsingle]
    simp only [CircuitBreaker.new, hempty]
    rw [if_neg (UInt64.not_lt.2 hfits)]

lemma allRead_of_loadIndex {borrowers : List (BorrowerFixture F)} {index : CandidateIndex}
    (hload : loadIndex fx borrowers = .ok index) : AllRead fx borrowers :=
  fun _ hb => exists_meta_of_loadIndex fx hload hb

lemma unmatchedOf_expectedHits {borrowers : List (BorrowerFixture F)} {index : CandidateIndex}
    (hload : loadIndex fx borrowers = .ok index) (order : ScanOrder)
    (ticks : List (OracleTickFixture F)) :
    unmatchedOf borrowers (expectedHits fx order index [] ticks) = [] := by
  unfold unmatchedOf
  rw [List.map_eq_nil_iff, List.filter_eq_nil_iff]
  rintro ⟨hit, slot⟩ hmem
  obtain ⟨b, hb⟩ := exists_borrower_of_hit hload hmem
  simp [hb]

/-- The replay of files that load. -/
lemma replay_of_loadIndex (order : ScanOrder) (clock : ReplayClock)
    (ticks : List (OracleTickFixture F)) {borrowers : List (BorrowerFixture F)}
    {index : CandidateIndex} (hload : loadIndex fx borrowers = .ok index) :
    ∃ metrics, replay fx order clock ticks borrowers = .ok
      { opportunities := (expectedHits fx order index [] ticks).filterMap (recordOf fx borrowers)
        unmatched := []
        submitted := (((expectedHits fx order index [] ticks).filterMap
          (recordOf fx borrowers)).find? fun o => startsWithAccept o.profitDecision).map fun o =>
            (ExecutionEngine.execute ⟨⟨true, .balanced⟩, .new .default, metrics⟩ o.prepare 0
              clock.checkedAt clock.begunAt).2 } := by
  obtain ⟨path, hevents⟩ := ReplayLoop.handleEvents_eq (allRead_of_loadIndex hload) order
    clock.events (laterEvents [] (ticksToEvents fx ticks)) 0
    ⟨seedFirst (replaySeed fx order clock.seeds) 0 [] (.new index Metrics.zero) ticks, [], []⟩
  simp only [hitsAlong_seedFirst (seeds_replaySeed order clock.seeds),
    unmatchedOf_expectedHits hload, List.nil_append] at hevents
  refine ⟨path.metrics, ?_⟩
  unfold replay
  simp only [hload, Outcome.ok_bind, hevents, Outcome.pure_eq]

/-- **What a replay prints.**  It reads its files or fails with the first error in them, and, its
subtractions wrapping, never panics.  Every hit finds a borrower; the records are those of the
triggers, of each account's last entry, that a tick's move from its asset's previous tick
crosses; and the dry run at the end is refused exactly when the first accepted record's notional
is over the limit for one liquidation. -/
theorem replay_reports (fx : FloatCasts F) (order : ScanOrder) (clock : ReplayClock)
    (ticks : List (OracleTickFixture F)) (borrowers : List (BorrowerFixture F)) :
    replay fx order clock ticks borrowers ≠ .panic ∧
      (∀ e, replay fx order clock ticks borrowers = .err e ↔ loadIndex fx borrowers = .err e) ∧
      ∀ r, replay fx order clock ticks borrowers = .ok r →
        r.unmatched = [] ∧ (∀ o, o ∈ r.opportunities ↔ Reported fx ticks borrowers o) ∧
        ∀ e, r.submitted = some (.error e) ↔ e = .risk .maxNotional ∧
          ∃ o, r.opportunities.find? (fun o => startsWithAccept o.profitDecision) = some o ∧
            RiskLimits.default.maxNotionalPerLiqUsdMicro < o.notionalUsdMicro := by
  cases hload : loadIndex fx borrowers with
  | panic => exact absurd hload (loadIndex_ne_panic fx borrowers)
  | err e =>
      have hreplay : replay fx order clock ticks borrowers = .err e := by
        unfold replay
        rw [hload, Outcome.err_bind]
      rw [hreplay]
      exact ⟨by simp, by simp, by simp⟩
  | ok index =>
      obtain ⟨metrics, hreplay⟩ := replay_of_loadIndex order clock ticks hload
      rw [hreplay]
      refine ⟨by simp, by simp, fun r hr => ?_⟩
      obtain rfl := Outcome.ok.inj hr
      refine ⟨rfl, fun o => mem_records_iff hload o, fun e => ?_⟩
      rw [Option.map_eq_some_iff]
      constructor
      -- The breaker is new, so only the notional of the first accepted record can be refused.
      · rintro ⟨o, ho, he⟩
        rw [execute_fresh] at he
        by_cases hover : RiskLimits.default.maxNotionalPerLiqUsdMicro < o.prepare.notionalUsdMicro
        · rw [if_pos hover] at he
          exact ⟨(Except.error.inj he).symm, o, ho, hover⟩
        · rw [if_neg hover] at he
          exact absurd he (by simp)
      · rintro ⟨rfl, o, ho, hover⟩
        refine ⟨o, ho, ?_⟩
        rw [execute_fresh]
        exact if_pos hover

end Grokbotliq.Fixtures
