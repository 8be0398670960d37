import Grokbotliq.Fixtures.Replay

/-!
# The shadow run over fixtures

The shadow binary goes through the same files as the replay: the first tick of an asset only
sets its price, the others pass through the oracle path, and every hit of a known borrower is
printed.  A record that would be submitted is planned and executed dry, by one engine for the
whole run, and the first refusal ends the run.

What it prints is what the replay prints of the same files, up to a refusal and up to the order
of hits at one trigger price, which in each process is its hash sets' own (`shadow_prints`).  The
engine refuses a notional over the limit for one liquidation, or one that with the earlier ones
of the run exceeds the limit for a minute; every result of the engine is a dry one.

A run is either going on (`Running`) or was refused (`Refused`), and a submission leads from the
one to itself or to the other.  `Takes` puts the hits of an event, and then those of the stream,
together; what is printed is a list of records in both cases, complete in the first.
-/

namespace Grokbotliq.Fixtures

open Execution Liquidator

variable {F : Type*}

structure ShadowOpportunity where
  protocol : Protocol
  account : Pubkey
  asset : Pubkey
  side : TriggerSide
  triggerPrice : PriceFx
  newPrice : PriceFx
  health : HealthFx
  band : String
  planIxs : List String
  notionalUsdMicro : UInt64
  expectedProfitUsdMicro : Int64
  profitDecision : String
  wouldSubmit : Bool
  slot : ℕ

/-- All that a record says of its hit but whose it is, and the slot. -/
def ShadowOpportunity.crossing (o : ShadowOpportunity) :
    (Pubkey × TriggerSide × PriceFx × PriceFx) × ℕ :=
  ((o.asset, o.side, o.triggerPrice, o.newPrice), o.slot)

/-- Why a shadow run ends before its stream does. -/
inductive ShadowError
  | stream (e : StreamError)
  | exec (e : ExecError)
  /-- `shadow must only dry-run`. -/
  | notDry
  deriving DecidableEq

structure ShadowLoop where
  path : OracleTriggerPath
  risk : CircuitBreaker
  /-- The records printed so far. -/
  printed : List ShadowOpportunity
  /-- The results of the engine so far. -/
  submitted : List SubmitResult
  /-- `ok` while the run goes on. -/
  ended : Outcome ShadowError Unit

namespace ShadowLoop

variable (fx : FloatCasts F) (hash : PdaHash) (borrowers : List (BorrowerFixture F))

/-- The record of a hit of a borrower whose entry reads as `m`. -/
def opportunity (hit : TriggerHit) (b : BorrowerFixture F) (m : CandidateMeta) (slot : ℕ) :
    ShadowOpportunity :=
  let input := profitInput fx b.plan
  let decision := ProfitConfig.default.evaluate input
  { protocol := m.protocol
    account := m.account
    asset := hit.asset
    side := hit.side
    triggerPrice := hit.triggerPrice
    newPrice := hit.newPrice
    health := m.health
    band := m.band.asStr
    planIxs := planIxs m.protocol
    notionalUsdMicro := input.notionalUsdMicro
    expectedProfitUsdMicro := decision.netProfit
    profitDecision := decisionText decision
    wouldSubmit := decision.isAccept
    slot := slot }

/-- The transaction of a record that would be submitted. -/
def prepare (b : BorrowerFixture F) (m : CandidateMeta) (record : ShadowOpportunity)
    (swapBlob : JupiterQuoteBlob) : PreparedTx :=
  let strategy := FundingStrategy.borrowed m.protocol
  let planned := buildStrategyIxs hash m.protocol strategy (PlanAccountSet.fromSeed m.account)
    b.plan.repayAmount swapBlob
  { label := "shadow-would-submit"
    protocol := record.protocol
    account := record.account
    notionalUsdMicro := record.notionalUsdMicro
    expectedProfitUsdMicro := record.expectedProfitUsdMicro
    ixs := planned.labeled.map LabeledIx.label
    instructions := planned.labeled.map LabeledIx.ix
    fundingStrategy := some strategy.asStr }

/-- The dry execution of a transaction. -/
def submit (s : ShadowLoop) (tx : PreparedTx) (checkedAt begunAt : ℕ) : ShadowLoop :=
  let engine : ExecutionEngine := ⟨⟨true, .conservative⟩, s.risk, s.path.metrics⟩
  let (engine, result) := engine.execute tx 0 checkedAt begunAt
  let s := { s with risk := engine.risk, path := { s.path with metrics := engine.metrics } }
  match result with
  | .error e => { s with ended := .err (.exec e) }
  | .ok res =>
    if res.dryRun then { s with submitted := s.submitted ++ [res] }
    else { s with ended := .err .notDry }

def handleHit (slot : ℕ) (s : ShadowLoop) (hit : TriggerHit) (input : HitInput) : ShadowLoop :=
  match findBorrower borrowers hit with
  | none => s
  | some b =>
    match borrowerToMeta fx b with
    | .err e => { s with ended := .err (.stream e) }
    | .panic => { s with ended := .panic }
    | .ok m =>
      let record := opportunity fx hit b m slot
      let s := { s with printed := s.printed ++ [record] }
      if record.wouldSubmit then
        s.submit (prepare hash b m record input.swapBlob) input.checkedAt input.begunAt
      else s

/-- The loop over the hits of one event; `input n` is what the `n`-th of them reads. -/
def handleHits (slot : ℕ) (input : ℕ → HitInput) : ℕ → ShadowLoop → List TriggerHit → ShadowLoop
  | _, s, [] => s
  | n, s, hit :: hits =>
    if s.ended = .ok () then
      handleHits slot input (n + 1) (s.handleHit fx hash borrowers slot hit (input n)) hits
    else s

def handleEvents (order : ScanOrder) (clock : ℕ → ℕ) (input : ℕ → ℕ → HitInput) :
    ℕ → ShadowLoop → List StreamEvent → ShadowLoop
  | _, s, [] => s
  | n, s, .price asset priceFx slot writeVersion :: evs =>
    if s.ended = .ok () then
      let (path, hits) :=
        s.path.applyOracleUpdate (priceUpdate .mock order (clock n) asset priceFx slot writeVersion)
      handleEvents order clock input (n + 1)
        (handleHits fx hash borrowers slot (input n) 0 { s with path := path } hits) evs
    else s
  | n, s, .account _ :: evs => handleEvents order clock input (n + 1) s evs
  | n, s, .slot _ _ _ :: evs => handleEvents order clock input (n + 1) s evs

end ShadowLoop

/-- The seed of the shadow run: the price is set. -/
def shadowSeed (fx : FloatCasts F) (_ : ℕ) (p : OracleTriggerPath) (t : OracleTickFixture F) :
    OracleTriggerPath :=
  { p with prices := p.prices.insert t.asset.toPubkey (fx.priceFx t.priceUsd) }

/-- `run_fixture_shadow` on the contents of its two files. -/
def fixtureShadow (fx : FloatCasts F) (hash : PdaHash) (order : ScanOrder) (clock : ℕ → ℕ)
    (input : ℕ → ℕ → HitInput) (ticks : List (OracleTickFixture F))
    (borrowers : List (BorrowerFixture F)) : Outcome StreamError ShadowLoop := do
  let index ← loadIndex fx borrowers
  let path := seedFirst (shadowSeed fx) 0 [] (.new index Metrics.zero) ticks
  return ShadowLoop.handleEvents fx hash borrowers order clock input 0
    ⟨path, .new .default, [], [], .ok ()⟩ (laterEvents [] (ticksToEvents fx ticks))

/-! ## What one hit does -/

/-- A replay record as the shadow run prints it. -/
def OpportunityRecord.toShadow (o : OpportunityRecord) : ShadowOpportunity where
  protocol := o.protocol
  account := o.account
  asset := o.asset
  side := o.side
  triggerPrice := o.triggerPrice
  newPrice := o.newPrice
  health := o.health
  band := o.band
  planIxs := o.planIxs
  notionalUsdMicro := o.notionalUsdMicro
  expectedProfitUsdMicro := o.expectedProfitUsdMicro
  profitDecision := o.profitDecision
  wouldSubmit := startsWithAccept o.profitDecision
  slot := o.slot

lemma toShadow_opportunity (fx : FloatCasts F) (hit : TriggerHit) (b : BorrowerFixture F)
    (m : CandidateMeta) (slot : ℕ) :
    (opportunity fx hit b m slot).toShadow = ShadowLoop.opportunity fx hit b m slot := by
  unfold OpportunityRecord.toShadow ShadowLoop.opportunity opportunity
  simp only [startsWithAccept_decisionText]

/-- The notionals of the records that would be submitted. -/
def submittable (records : List ShadowOpportunity) : List UInt64 :=
  (records.filter ShadowOpportunity.wouldSubmit).map ShadowOpportunity.notionalUsdMicro

/-- The sum of some amounts, as a natural number. -/
def total (amounts : List UInt64) : ℕ := (amounts.map UInt64.toNat).sum

/-! ## The window

The sum of the window wraps, and under the limit it does not. -/

/-- What the window of an admitting breaker holds, against the limit for a minute. -/
def WithinMinute (b : CircuitBreaker) : Prop :=
  SlidingWindow.load UInt64.toNat b.rolling.events ≤
    RiskLimits.default.maxNotionalPerMinuteUsdMicro.toNat

lemma load_prune_le (w : RollingWindow) (now : ℕ) :
    SlidingWindow.load UInt64.toNat (w.prune now).events ≤
      SlidingWindow.load UInt64.toNat w.events :=
  SlidingWindow.load_le_of_sublist _ List.filter_sublist

/-- Under the limit the window's sum is the true one, so the check compares true amounts. -/
lemma minute_lt_iff {b : CircuitBreaker} (h : WithinMinute b) (notional : UInt64) (now : ℕ) :
    RiskLimits.default.maxNotionalPerMinuteUsdMicro <
        MachineInt.satAddU64 (b.rolling.sum now).2 notional ↔
      RiskLimits.default.maxNotionalPerMinuteUsdMicro.toNat <
        SlidingWindow.load UInt64.toNat (b.rolling.prune now).events + notional.toNat := by
  have hload := (load_prune_le b.rolling now).trans h
  have hexact := RollingWindow.sum_toNat (hload.trans_lt (UInt64.toNat_lt _))
  rw [← UInt64.not_le, MachineInt.satAddU64_le_iff (by decide), hexact, Nat.not_le]

/-- The window after an admitted dry execution. -/
lemma Idle.execute_rolling {e : ExecutionEngine} (h : Idle e.risk) (hdry : e.config.dryRun = true)
    {tx : PreparedTx} {checkedAt begunAt : ℕ} {res : SubmitResult}
    (hok : (e.execute tx 0 checkedAt begunAt).2 = .ok res) :
    (e.execute tx 0 checkedAt begunAt).1.risk.rolling =
      (e.risk.rolling.prune checkedAt).push begunAt tx.notionalUsdMicro := by
  have hlimits := h.execute hdry tx checkedAt begunAt
  rw [hlimits.2.2] at hok
  unfold ExecutionEngine.execute
  rw [h.checkAllow]
  split_ifs at hok with hsingle hminute
  simp only [if_neg hsingle, if_neg hminute, hdry, if_true]
  rfl

namespace ShadowLoop

/-! ## Runs -/

/-- A run that goes on: the breaker idle, within the limit for a minute, its window holding no
more than the submittable records come to, each of which has a dry result. -/
structure Running (s : ShadowLoop) : Prop where
  ended : s.ended = .ok ()
  idle : Idle s.risk
  minute : WithinMinute s.risk
  spent : SlidingWindow.load UInt64.toNat s.risk.rolling.events ≤ total (submittable s.printed)
  results : s.submitted.length = (submittable s.printed).length
  dry : ∀ res ∈ s.submitted, res.dryRun = true

/-- A run the breaker has ended: the last record would have been submitted, and its notional is
over the limit for one liquidation, or with the earlier ones over the limit for a minute. -/
structure Refused (s : ShadowLoop) : Prop where
  last : ∃ before record, s.printed = before ++ [record] ∧ record.wouldSubmit = true ∧
    (s.ended = .err (.exec (.risk .maxNotional)) ∧
        RiskLimits.default.maxNotionalPerLiqUsdMicro < record.notionalUsdMicro ∨
      s.ended = .err (.exec (.risk .rollingNotional)) ∧
        RiskLimits.default.maxNotionalPerMinuteUsdMicro.toNat < total (submittable s.printed))
  results : s.submitted.length + 1 = (submittable s.printed).length
  dry : ∀ res ∈ s.submitted, res.dryRun = true

lemma Refused.ended_ne {s : ShadowLoop} (h : s.Refused) : s.ended ≠ .ok () := by
  obtain ⟨-, -, -, -, ⟨hended, -⟩ | ⟨hended, -⟩⟩ := h.last <;> rw [hended] <;> simp

lemma submittable_concat (records : List ShadowOpportunity) {record : ShadowOpportunity}
    (h : record.wouldSubmit = true) :
    submittable (records ++ [record]) = submittable records ++ [record.notionalUsdMicro] := by
  unfold submittable
  rw [List.filter_append, List.map_append, List.filter_singleton, h]
  rfl

lemma submittable_concat_of_not (records : List ShadowOpportunity) {record : ShadowOpportunity}
    (h : record.wouldSubmit = false) :
    submittable (records ++ [record]) = submittable records := by
  unfold submittable
  rw [List.filter_append, List.map_append, List.filter_singleton, h]
  simp

lemma total_concat (amounts : List UInt64) (amount : UInt64) :
    total (amounts ++ [amount]) = total amounts + amount.toNat := by
  simp [total]

/-- The book, the index and the records are not the engine's to change. -/
lemma submit_frame (s : ShadowLoop) (tx : PreparedTx) (checkedAt begunAt : ℕ) :
    (s.submit tx checkedAt begunAt).path.prices = s.path.prices ∧
      (s.submit tx checkedAt begunAt).path.index = s.path.index ∧
      (s.submit tx checkedAt begunAt).printed = s.printed := by
  unfold submit
  simp only
  split
  · exact ⟨rfl, rfl, rfl⟩
  · split_ifs <;> exact ⟨rfl, rfl, rfl⟩

/-- **One submission**: after a record that would be submitted the run goes on, or the breaker
ends it. -/
lemma Running.submit {s : ShadowLoop} (h : s.Running) {record : ShadowOpportunity}
    (hwould : record.wouldSubmit = true) (tx : PreparedTx)
    (htx : tx.notionalUsdMicro = record.notionalUsdMicro) (checkedAt begunAt : ℕ) :
    (ShadowLoop.submit { s with printed := s.printed ++ [record] } tx checkedAt begunAt).Running ∨
      (ShadowLoop.submit { s with printed := s.printed ++ [record] } tx checkedAt
        begunAt).Refused := by
  let e : ExecutionEngine := ⟨⟨true, .conservative⟩, s.risk, s.path.metrics⟩
  have hidle : Idle e.risk := h.idle
  obtain ⟨hnext, -, hresult⟩ := hidle.execute (e := e) rfl tx checkedAt begunAt
  have hprune := load_prune_le s.risk.rolling checkedAt
  have hprinted := submittable_concat s.printed hwould
  have htotal : total (submittable (s.printed ++ [record])) =
      total (submittable s.printed) + tx.notionalUsdMicro.toNat := by
    rw [hprinted, total_concat, htx]
  have hcount : s.submitted.length + 1 = (submittable (s.printed ++ [record])).length := by
    rw [hprinted, List.length_append, h.results]
    rfl
  -- The engine is idle, so only the two notional limits can refuse the transaction.
  by_cases hsingle : RiskLimits.default.maxNotionalPerLiqUsdMicro < tx.notionalUsdMicro
  · rw [if_pos hsingle] at hresult
    refine Or.inr ⟨⟨s.printed, record, ?_, hwould, Or.inl ⟨?_, htx ▸ hsingle⟩⟩, ?_, ?_⟩
    all_goals simp only [ShadowLoop.submit, e, hresult]
    · exact hcount
    · exact h.dry
  · rw [if_neg hsingle] at hresult
    by_cases hminute : RiskLimits.default.maxNotionalPerMinuteUsdMicro <
        MachineInt.satAddU64 (s.risk.rolling.sum checkedAt).2 tx.notionalUsdMicro
    · rw [if_pos hminute] at hresult
      have hover := (minute_lt_iff h.minute _ _).1 hminute
      have hspent := h.spent
      refine Or.inr ⟨⟨s.printed, record, ?_, hwould, Or.inr ⟨?_, ?_⟩⟩, ?_, ?_⟩
      all_goals simp only [ShadowLoop.submit, e, hresult]
      · rw [htotal]
        omega
      · exact hcount
      · exact h.dry
    · rw [if_neg hminute] at hresult
      -- Within both limits it runs: what the window then holds is what it held and this notional.
      have hfits := mt (minute_lt_iff h.minute _ _).2 hminute
      have hrolling := hidle.execute_rolling (e := e) rfl hresult
      have hload : SlidingWindow.load UInt64.toNat
          (e.execute tx 0 checkedAt begunAt).1.risk.rolling.events ≤
            SlidingWindow.load UInt64.toNat (s.risk.rolling.prune checkedAt).events +
              tx.notionalUsdMicro.toNat := by
        have hprune' : SlidingWindow.load UInt64.toNat
            ((e.risk.rolling.prune checkedAt).prune begunAt).events ≤
              SlidingWindow.load UInt64.toNat (s.risk.rolling.prune checkedAt).events :=
          load_prune_le ..
        rw [hrolling]
        unfold RollingWindow.push
        simp only [SlidingWindow.load_append, SlidingWindow.load_cons, SlidingWindow.load_nil]
        omega
      have hspent := h.spent
      refine Or.inl ⟨?_, ?_, ?_, ?_, ?_, ?_⟩
      all_goals simp only [ShadowLoop.submit, e, hresult]
      · exact h.ended
      · exact hnext
      · exact hload.trans (Nat.not_lt.1 hfits)
      · rw [if_pos trivial, htotal]
        exact hload.trans (by omega)
      · rw [if_pos trivial, List.length_append]
        exact hcount
      · intro res hres
        rcases List.mem_append.1 hres with hold | hnew
        · exact h.dry res hold
        · rw [List.mem_singleton.1 hnew]

variable {fx : FloatCasts F} (hash : PdaHash) {borrowers : List (BorrowerFixture F)}

/-- The records of some hits, as the shadow run prints them. -/
def recordsOf (fx : FloatCasts F) (borrowers : List (BorrowerFixture F))
    (hits : List (TriggerHit × ℕ)) : List ShadowOpportunity :=
  (hits.filterMap (recordOf fx borrowers)).map OpportunityRecord.toShadow

lemma recordsOf_append (hits hits' : List (TriggerHit × ℕ)) :
    recordsOf fx borrowers (hits ++ hits') =
      recordsOf fx borrowers hits ++ recordsOf fx borrowers hits' := by
  unfold recordsOf
  rw [List.filterMap_append, List.map_append]

/-- Some hits take a run from `s` to `s'`: all their records are printed and the run goes on, or
some of them and it has been refused. -/
structure Takes (fx : FloatCasts F) (borrowers : List (BorrowerFixture F)) (s : ShadowLoop)
    (hits : List (TriggerHit × ℕ)) (s' : ShadowLoop) : Prop where
  prices : s'.path.prices = s.path.prices
  index : s'.path.index = s.path.index
  printed : s'.Running ∧ s'.printed = s.printed ++ recordsOf fx borrowers hits ∨
    s'.Refused ∧ ∃ rest, s'.printed ++ rest = s.printed ++ recordsOf fx borrowers hits

lemma takes_handleHit (hread : AllRead fx borrowers) {s : ShadowLoop} (h : s.Running)
    (slot : ℕ) (hit : TriggerHit) (input : HitInput) :
    Takes fx borrowers s [(hit, slot)] (s.handleHit fx hash borrowers slot hit input) := by
  unfold handleHit
  cases hb : findBorrower borrowers hit with
  | none =>
      have hnone : recordsOf fx borrowers [(hit, slot)] = [] := by
        simp [recordsOf, recordOf, hb]
      exact ⟨rfl, rfl, Or.inl ⟨h, by rw [hnone, List.append_nil]⟩⟩
  | some b =>
      obtain ⟨m, hm⟩ := hread b (List.mem_of_find?_eq_some hb)
      have hone : recordsOf fx borrowers [(hit, slot)] = [opportunity fx hit b m slot] := by
        simp [recordsOf, recordOf, hb, hm, toShadow_opportunity]
      simp only [hm]
      cases hwould : (opportunity fx hit b m slot).wouldSubmit with
      | false =>
          rw [if_neg Bool.false_ne_true]
          refine ⟨rfl, rfl, Or.inl ⟨⟨h.ended, h.idle, h.minute, ?_, ?_, h.dry⟩, by rw [hone]⟩⟩
          · rw [submittable_concat_of_not _ hwould]
            exact h.spent
          · rw [submittable_concat_of_not _ hwould]
            exact h.results
      | true =>
          rw [if_pos rfl]
          obtain ⟨hprices, hindex, hprinted⟩ := submit_frame
            { s with printed := s.printed ++ [opportunity fx hit b m slot] }
            (prepare hash b m (opportunity fx hit b m slot) input.swapBlob) input.checkedAt
            input.begunAt
          refine ⟨hprices, hindex, ?_⟩
          rcases h.submit hwould (prepare hash b m (opportunity fx hit b m slot)
            input.swapBlob) rfl input.checkedAt input.begunAt with hrun | hstop
          · exact Or.inl ⟨hrun, by rw [hprinted, hone]⟩
          · exact Or.inr ⟨hstop, [], by rw [List.append_nil, hprinted, hone]⟩

lemma Takes.of_refused {s s₁ : ShadowLoop} {hits : List (TriggerHit × ℕ)}
    (h : Takes fx borrowers s hits s₁) (hstop : s₁.Refused) (hits' : List (TriggerHit × ℕ)) :
    Takes fx borrowers s (hits ++ hits') s₁ := by
  refine ⟨h.prices, h.index, Or.inr ⟨hstop, ?_⟩⟩
  rw [recordsOf_append, ← List.append_assoc]
  rcases h.printed with ⟨-, hprinted⟩ | ⟨-, rest, hprinted⟩
  · exact ⟨recordsOf fx borrowers hits', by rw [hprinted]⟩
  · exact ⟨rest ++ recordsOf fx borrowers hits', by rw [← hprinted, List.append_assoc]⟩

lemma Takes.append {s s₁ s₂ : ShadowLoop} {hits hits' : List (TriggerHit × ℕ)}
    (hprinted : s₁.printed = s.printed ++ recordsOf fx borrowers hits)
    (h : Takes fx borrowers s hits s₁) (h' : Takes fx borrowers s₁ hits' s₂) :
    Takes fx borrowers s (hits ++ hits') s₂ := by
  refine ⟨h'.prices.trans h.prices, h'.index.trans h.index, ?_⟩
  rw [recordsOf_append, ← List.append_assoc, ← hprinted]
  exact h'.printed

lemma handleHits_of_ended {s : ShadowLoop} (h : s.ended ≠ .ok ()) (slot : ℕ)
    (input : ℕ → HitInput) (n : ℕ) (hits : List TriggerHit) :
    handleHits fx hash borrowers slot input n s hits = s := by
  cases hits with
  | nil => rfl
  | cons hit hits =>
      unfold handleHits
      rw [if_neg h]

lemma handleEvents_of_ended {s : ShadowLoop} (h : s.ended ≠ .ok ()) (order : ScanOrder)
    (clock : ℕ → ℕ) (input : ℕ → ℕ → HitInput) :
    ∀ (evs : List StreamEvent) (n : ℕ),
      handleEvents fx hash borrowers order clock input n s evs = s
  | [], _ => rfl
  | .account _ :: evs, n => handleEvents_of_ended h order clock input evs (n + 1)
  | .slot _ _ _ :: evs, n => handleEvents_of_ended h order clock input evs (n + 1)
  | .price asset priceFx slot writeVersion :: evs, n => by
      unfold handleEvents
      rw [if_neg h]

lemma takes_handleHits (hread : AllRead fx borrowers) (slot : ℕ) (input : ℕ → HitInput) :
    ∀ (hits : List TriggerHit) (n : ℕ) {s : ShadowLoop}, s.Running →
      Takes fx borrowers s (hits.map fun hit => (hit, slot))
        (handleHits fx hash borrowers slot input n s hits)
  | [], n, s, h => ⟨rfl, rfl, Or.inl ⟨h, by simp [handleHits, recordsOf]⟩⟩
  | hit :: hits, n, s, h => by
      have hone := takes_handleHit hash hread h slot hit (input n)
      have hsplit : (hit :: hits).map (fun hit => (hit, slot)) =
          [(hit, slot)] ++ hits.map fun hit => (hit, slot) := rfl
      rw [handleHits, if_pos h.ended, hsplit]
      rcases hone.printed with ⟨hrun, hprinted⟩ | ⟨hstop, -⟩
      · exact hone.append hprinted (takes_handleHits hread slot input hits (n + 1) hrun)
      · rw [handleHits_of_ended hash hstop.ended_ne]
        exact hone.of_refused hstop _

/-- **The run over the stream**, hit by hit. -/
lemma takes_handleEvents (hread : AllRead fx borrowers) (order : ScanOrder) (clock : ℕ → ℕ)
    (input : ℕ → ℕ → HitInput) :
    ∀ (evs : List StreamEvent) (n : ℕ) {s : ShadowLoop}, s.Running →
      ∃ s', handleEvents fx hash borrowers order clock input n s evs = s' ∧
        (s'.Running ∧ s'.printed = s.printed ++
            recordsOf fx borrowers (hitsAlong .mock order clock n s.path evs) ∨
          s'.Refused ∧ ∃ rest, s'.printed ++ rest = s.printed ++
            recordsOf fx borrowers (hitsAlong .mock order clock n s.path evs))
  | [], n, s, h => ⟨s, rfl, Or.inl ⟨h, by simp [hitsAlong, recordsOf]⟩⟩
  | .account _ :: evs, n, s, h => takes_handleEvents hread order clock input evs (n + 1) h
  | .slot _ _ _ :: evs, n, s, h => takes_handleEvents hread order clock input evs (n + 1) h
  | .price asset priceFx slot writeVersion :: evs, n, s, h => by
      let u := priceUpdate .mock order (clock n) asset priceFx slot writeVersion
      let s₀ : ShadowLoop := { s with path := s.path.update u }
      have hrun₀ : s₀.Running := ⟨h.ended, h.idle, h.minute, h.spent, h.results, h.dry⟩
      have hhits := takes_handleHits hash hread slot (input n) (s.path.hits u) 0 hrun₀
      have hstep : handleEvents fx hash borrowers order clock input n s
          (.price asset priceFx slot writeVersion :: evs) =
            handleEvents fx hash borrowers order clock input (n + 1)
              (handleHits fx hash borrowers slot (input n) 0 s₀ (s.path.hits u)) evs :=
        if_pos h.ended
      have hcons :
          hitsAlong .mock order clock n s.path (.price asset priceFx slot writeVersion :: evs) =
          (s.path.hits u).map (fun hit => (hit, slot)) ++
            hitsAlong .mock order clock (n + 1) (s.path.update u) evs := rfl
      rw [hstep, hcons, recordsOf_append, ← List.append_assoc]
      -- The hits of this event leave the run going, or refuse it and the later ones go unprinted.
      rcases hhits.printed with ⟨hrun, hprinted⟩ | ⟨hstop, rest, hprinted⟩
      · obtain ⟨s', hs', hrest⟩ := takes_handleEvents hread order clock input evs (n + 1) hrun
        refine ⟨s', hs', ?_⟩
        have hsame := @hitsAlong_congr .mock .mock order clock clock evs (n + 1) _ _ hhits.index
          fun a => by rw [hhits.prices]
        rwa [hprinted, hsame] at hrest
      · rw [handleEvents_of_ended hash hstop.ended_ne]
        refine ⟨_, rfl, Or.inr ⟨hstop, rest ++ recordsOf fx borrowers
          (hitsAlong .mock order clock (n + 1) (s.path.update u) evs), ?_⟩⟩
        rw [← List.append_assoc, hprinted]

end ShadowLoop

lemma seeds_shadowSeed (fx : FloatCasts F) : Seeds fx (shadowSeed fx) where
  index n p t := rfl
  prices n p t asset := by
    unfold shadowSeed
    exact KeyMap.lookup_insert_eq_ite ..

/-- A record's crossing is read off its hit. -/
lemma crossing_of_recordOf {fx : FloatCasts F} {borrowers : List (BorrowerFixture F)}
    {x : TriggerHit × ℕ} {o : OpportunityRecord} (h : recordOf fx borrowers x = some o) :
    o.toShadow.crossing = (x.1.crossing, x.2) := by
  obtain ⟨b, -, hb⟩ := Option.bind_eq_some_iff.1 h
  cases hm : borrowerToMeta fx b with
  | ok m =>
      rw [hm] at hb
      rw [← Option.some.inj hb]
      rfl
  | err e => simp [hm] at hb
  | panic => simp [hm] at hb

/-- **The shadow run prints what the replay prints**, of the same files, and of the hits at one
trigger price each in its own order: all of it, or up to a refusal of its breaker.  The refused
record is the last one printed, its notional is over the limit for one liquidation, or the
notionals submitted so far come to more than the limit for a minute.  Every result of the engine
is a dry one, one for each record that would be submitted. -/
theorem shadow_prints (fx : FloatCasts F) (hash : PdaHash) (order replayOrder : ScanOrder)
    (clock : ℕ → ℕ) (input : ℕ → ℕ → HitInput) (replayClock : ReplayClock)
    (ticks : List (OracleTickFixture F)) (borrowers : List (BorrowerFixture F)) {r : Replayed}
    {s : ShadowLoop} (hr : replay fx replayOrder replayClock ticks borrowers = .ok r)
    (hs : fixtureShadow fx hash order clock input ticks borrowers = .ok s) :
    ∃ records, SameBlocks ShadowOpportunity.crossing
        (r.opportunities.map OpportunityRecord.toShadow) records ∧
      (s.Running ∧ s.printed = records ∨ s.Refused ∧ s.printed <+: records) := by
  cases hload : loadIndex fx borrowers with
  | panic => exact absurd hload (loadIndex_ne_panic fx borrowers)
  | err e =>
      unfold replay at hr
      rw [hload, Outcome.err_bind] at hr
      exact absurd hr (by simp)
  | ok index =>
      obtain ⟨metrics, hreplay⟩ := replay_of_loadIndex replayOrder replayClock ticks hload
      rw [hreplay] at hr
      obtain rfl := Outcome.ok.inj hr
      -- Both runs start on the same index, this one with nothing printed and nothing spent.
      have hstart : (⟨seedFirst (shadowSeed fx) 0 [] (.new index Metrics.zero) ticks,
          .new .default, [], [], .ok ()⟩ : ShadowLoop).Running :=
        ⟨rfl, idle_new, Nat.zero_le _, Nat.zero_le _, rfl, fun _ h => absurd h List.not_mem_nil⟩
      obtain ⟨s', hrun, hprinted⟩ := ShadowLoop.takes_handleEvents hash
        (allRead_of_loadIndex hload) order clock input (laterEvents [] (ticksToEvents fx ticks)) 0
        hstart
      have hshadow : fixtureShadow fx hash order clock input ticks borrowers = .ok s' := by
        unfold fixtureShadow
        rw [hload, Outcome.ok_bind, ← hrun]
        rfl
      obtain rfl := Outcome.ok.inj (hshadow.symm.trans hs)
      rw [hitsAlong_seedFirst (seeds_shadowSeed fx), List.nil_append] at hprinted
      -- both walk the same ticks, each with its own order of the accounts at one price
      have hblocks := sameBlocks_expectedHits fx replayOrder order index [] ticks
      refine ⟨ShadowLoop.recordsOf fx borrowers (expectedHits fx order index [] ticks), ?_, ?_⟩
      · have hrecords : SameBlocks (fun o => o.toShadow.crossing)
            ((expectedHits fx replayOrder index [] ticks).filterMap (recordOf fx borrowers))
            ((expectedHits fx order index [] ticks).filterMap (recordOf fx borrowers)) :=
          hblocks.filterMap id fun _ _ ho => crossing_of_recordOf ho
        exact hrecords.map id fun _ => rfl
      · rcases hprinted with ⟨hgo, hall⟩ | ⟨hstop, rest, hprefix⟩
        · exact Or.inl ⟨hgo, hall⟩
        · exact Or.inr ⟨hstop, rest, hprefix⟩

/-! ## Two borrowers -/

/-- Whole dollars for floats. -/
def sampleCasts : FloatCasts ℕ where
  priceFx usd := .ofNat (usd * 1000000000)
  healthFx health := ⟨health * 1000000⟩
  signedUsdMicro usd := Int64.ofNat (usd * 1000000)
  usdMicro usd := UInt64.ofNat (usd * 1000000)

/-- A price falls from 120 to 95 dollars. -/
def sampleTicks : List (OracleTickFixture ℕ) :=
  [⟨⟨2, 1⟩, 120, 100, 1⟩, ⟨⟨2, 1⟩, 95, 101, 2⟩]

/-- A Kamino borrower whose collateral trigger is at a hundred dollars. -/
def sampleBorrower : BorrowerFixture ℕ where
  account := ⟨1, 1⟩
  protocol := "Kamino"
  band := "Hot"
  health := 1
  assets := [⟨2, 1⟩]
  triggers := [⟨⟨2, 1⟩, "CollateralDown", 100⟩]
  plan := ⟨500000000, 3, 500, 500⟩

/-- Two of them, whose triggers are at one price. -/
def sampleBorrowers : List (BorrowerFixture ℕ) :=
  [sampleBorrower, { sampleBorrower with account := ⟨1, 2⟩ }]

/-- Every set from its last element to its first. -/
def backwards : ScanOrder := fun _ _ _ =>
  ⟨fun set => set.elems.reverse, fun _ => List.reverse_perm _⟩

/-- The two binaries on the fall of that price, their sets in opposite orders: both print the two
records, the one run the other way round. -/
theorem shadow_prints_twoBorrowers :
    ∃ r s, replay sampleCasts .asStored ⟨id, id, 0, 0⟩ sampleTicks sampleBorrowers = .ok r ∧
      fixtureShadow sampleCasts .prefixHash backwards id (fun _ _ => ⟨1, 2, .default⟩) sampleTicks
        sampleBorrowers = .ok s ∧
      r.opportunities.map OpportunityRecord.account = [Pubkey.test 1 2, Pubkey.test 1 1] ∧
      s.printed.map ShadowOpportunity.account = [Pubkey.test 1 1, Pubkey.test 1 2] ∧
      ∃ records, SameBlocks ShadowOpportunity.crossing
          (r.opportunities.map OpportunityRecord.toShadow) records ∧
        (s.Running ∧ s.printed = records ∨ s.Refused ∧ s.printed <+: records) := by
  obtain ⟨r, hr, hrecords⟩ := Outcome.bind_eq_ok.1 (by decide +kernel :
    (replay sampleCasts .asStored ⟨id, id, 0, 0⟩ sampleTicks sampleBorrowers >>= fun r =>
      .ok (r.opportunities.map OpportunityRecord.account)) =
        .ok [Pubkey.test 1 2, Pubkey.test 1 1])
  obtain ⟨s, hs, hprinted⟩ := Outcome.bind_eq_ok.1 (by decide +kernel :
    (fixtureShadow sampleCasts .prefixHash backwards id (fun _ _ => ⟨1, 2, .default⟩) sampleTicks
      sampleBorrowers >>= fun s => .ok (s.printed.map ShadowOpportunity.account)) =
        .ok [Pubkey.test 1 1, Pubkey.test 1 2])
  exact ⟨r, s, hr, hs, Outcome.ok.inj hrecords, Outcome.ok.inj hprinted,
    shadow_prints _ _ _ _ _ _ _ _ _ hr hs⟩

end Grokbotliq.Fixtures
