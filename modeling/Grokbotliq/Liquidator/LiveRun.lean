import Grokbotliq.Fixtures.Shadow
import Grokbotliq.Liquidator.LoopStore

/-!
# A live run over fixtures

The liquidator enters what it can read of its borrowers: an entry whose protocol or band is unknown
may still set triggers, and one whose triggers cannot be read may still be a candidate.  Then it
streams the ticks, without seeding its book first.  The first tick of an asset is no move and wakes
nobody, so a live loop submits, once each and in order, the hits of the moves between the ticks of
an asset (`live_executes`): where the file loads, those the replay prints records for, up to the
order of hits at one trigger price (`live_as_replayed`).

The invariant of a run is `Follows`: how much of the file has been handled, that the book shows
for each asset the price of its latest tick, and that what was submitted is the hits of the ticks
handled.  A turn handles one tick more or ends the loop, and `follows_exec` is the run.
-/

namespace Grokbotliq

/-- `Result::ok`. -/
def Outcome.toOption {ε α : Type*} : Outcome ε α → Option α
  | .ok a => some a
  | .err _ => none
  | .panic => none

namespace Liquidator

open Fixtures

variable {F : Type*} (fx : FloatCasts F)

/-! ## The candidates -/

/-- The class of a borrower, if it can be read. -/
def enterMeta (ix : CandidateIndex) (b : Fixtures.BorrowerFixture F) : CandidateIndex :=
  match borrowerToMeta fx b with
  | .ok m => ix.upsertCandidate m
  | .err _ => ix
  | .panic => ix

/-- The triggers of a borrower, if all of them can be read. -/
def enterTriggers (ix : CandidateIndex) (b : Fixtures.BorrowerFixture F) : CandidateIndex :=
  match borrowerTriggers fx b with
  | .ok triggers => ix.setTriggers b.account.toPubkey triggers
  | .err _ => ix
  | .panic => ix

def loadCandidate (ix : CandidateIndex) (b : Fixtures.BorrowerFixture F) : CandidateIndex :=
  enterTriggers fx (enterMeta fx ix b) b

def loadCandidates (borrowers : List (Fixtures.BorrowerFixture F)) : CandidateIndex :=
  borrowers.foldl (loadCandidate fx) .new

/-- What the last entry of an account says, of those from which it can be read. -/
def lastRead {α : Type*} (read : Fixtures.BorrowerFixture F → Outcome StreamError α)
    (borrowers : List (Fixtures.BorrowerFixture F)) (account : Pubkey) : Option α :=
  borrowers.reverse.findSome? fun b =>
    if b.account.toPubkey = account then (read b).toOption else none

lemma lastRead_concat {α : Type*} (read : Fixtures.BorrowerFixture F → Outcome StreamError α)
    (bs : List (Fixtures.BorrowerFixture F)) (b : Fixtures.BorrowerFixture F) (account : Pubkey) :
    lastRead read (bs ++ [b]) account =
      if b.account.toPubkey = account then (read b).toOption.or (lastRead read bs account)
      else lastRead read bs account := by
  unfold lastRead
  rw [List.reverse_append, List.reverse_singleton, List.singleton_append, List.findSome?_cons]
  split_ifs
  · cases (read b).toOption <;> rfl
  · rfl

lemma account_of_borrowerToMeta {b : Fixtures.BorrowerFixture F} {m : CandidateMeta}
    (h : borrowerToMeta fx b = .ok m) : m.account = b.account.toPubkey := by
  unfold borrowerToMeta at h
  simp only [Outcome.bind_eq_ok, Outcome.pure_eq, Outcome.ok.injEq] at h
  obtain ⟨-, -, -, -, rfl⟩ := h
  rfl

variable {fx}

lemma get_enterMeta (ix : CandidateIndex) (b : Fixtures.BorrowerFixture F) (account : Pubkey) :
    (enterMeta fx ix b).get account =
      if b.account.toPubkey = account then (borrowerToMeta fx b).toOption.or (ix.get account)
      else ix.get account := by
  unfold enterMeta
  cases hm : borrowerToMeta fx b with
  | ok m =>
      dsimp only
      rw [get_upsertCandidate, account_of_borrowerToMeta fx hm]
      by_cases ha : b.account.toPubkey = account
      · rw [if_pos ha.symm, if_pos ha]
        rfl
      · rw [if_neg ha, if_neg fun h => ha h.symm]
  | err e => exact (ite_self _).symm
  | panic => exact (ite_self _).symm

lemma accountTriggers_enterMeta (ix : CandidateIndex) (b : Fixtures.BorrowerFixture F) :
    (enterMeta fx ix b).accountTriggers = ix.accountTriggers := by
  unfold enterMeta
  cases borrowerToMeta fx b <;> rfl

lemma get_enterTriggers (ix : CandidateIndex) (b : Fixtures.BorrowerFixture F)
    (account : Pubkey) : (enterTriggers fx ix b).get account = ix.get account := by
  unfold enterTriggers
  cases borrowerTriggers fx b with
  | ok ts => exact get_setTriggers ..
  | err e => rfl
  | panic => rfl

lemma accountTriggers_enterTriggers (ix : CandidateIndex) (b : Fixtures.BorrowerFixture F)
    (account : Pubkey) :
    (enterTriggers fx ix b).accountTriggers.lookup account =
      if b.account.toPubkey = account then
        (borrowerTriggers fx b).toOption.or (ix.accountTriggers.lookup account)
      else ix.accountTriggers.lookup account := by
  unfold enterTriggers
  cases borrowerTriggers fx b with
  | ok ts =>
      dsimp only
      rw [accountTriggers_setTriggers]
      by_cases ha : b.account.toPubkey = account
      · rw [if_pos ha.symm, if_pos ha]
        rfl
      · rw [if_neg ha, if_neg fun h => ha h.symm]
  | err e => exact (ite_self _).symm
  | panic => exact (ite_self _).symm

lemma consistent_loadCandidate {ix : CandidateIndex} (h : ix.Consistent)
    (b : Fixtures.BorrowerFixture F) : (loadCandidate fx ix b).Consistent := by
  have hmeta : (enterMeta fx ix b).Consistent := by
    unfold enterMeta
    cases borrowerToMeta fx b <;> exact h
  unfold loadCandidate enterTriggers
  cases borrowerTriggers fx b with
  | ok ts => exact CandidateIndex.consistent_setTriggers hmeta _ _
  | err e => exact hmeta
  | panic => exact hmeta

lemma loadCandidates_concat (bs : List (Fixtures.BorrowerFixture F))
    (b : Fixtures.BorrowerFixture F) :
    loadCandidates fx (bs ++ [b]) = loadCandidate fx (loadCandidates fx bs) b :=
  List.foldl_concat ..

/-- **The loaded index**: its two copies agree, and an account has the class and the triggers of
the last of its entries from which these can be read. -/
lemma lookups_loadCandidates (borrowers : List (Fixtures.BorrowerFixture F)) :
    (loadCandidates fx borrowers).Consistent ∧ ∀ account,
      (loadCandidates fx borrowers).get account =
          lastRead (borrowerToMeta fx) borrowers account ∧
        (loadCandidates fx borrowers).accountTriggers.lookup account =
          lastRead (borrowerTriggers fx) borrowers account := by
  -- By induction from the last row: what it reads of its account is what stands.
  induction borrowers using List.reverseRecOn with
  | nil =>
      exact ⟨CandidateIndex.consistent_new, fun account =>
        ⟨AList.lookup_empty account, AList.lookup_empty account⟩⟩
  | append_singleton bs b ih =>
      obtain ⟨hcons, hlookups⟩ := ih
      rw [loadCandidates_concat]
      refine ⟨consistent_loadCandidate hcons b, fun account => ?_⟩
      obtain ⟨hget, htriggers⟩ := hlookups account
      rw [lastRead_concat, lastRead_concat, ← hget, ← htriggers]
      unfold loadCandidate
      rw [get_enterTriggers, get_enterMeta, accountTriggers_enterTriggers,
        accountTriggers_enterMeta]
      exact ⟨rfl, rfl⟩

/-- Where the file loads in the replay, the liquidator loads the same index. -/
lemma loadCandidates_of_loadIndex {borrowers : List (Fixtures.BorrowerFixture F)}
    {ix : CandidateIndex} (h : loadIndex fx borrowers = .ok ix) :
    loadCandidates fx borrowers = ix := by
  induction borrowers using List.reverseRecOn generalizing ix with
  | nil => exact Outcome.ok.inj h
  | append_singleton bs b ih =>
      rw [loadIndex_concat, Outcome.bind_eq_ok] at h
      obtain ⟨ix₀, hbs, hb⟩ := h
      obtain ⟨m, ts, hm, hts, rfl⟩ := (loadBorrower_eq_ok fx).1 hb
      rw [loadCandidates_concat, ih hbs, loadCandidate, enterTriggers, hts, enterMeta, hm]

/-! ## The loop -/

/-- The amounts of a borrower's plan, as the loop converts them. -/
def planAmounts (fx : FloatCasts F) (b : Fixtures.BorrowerFixture F) : BorrowerFixture where
  account := b.account.toPubkey
  grossProfitUsdMicro := fx.signedUsdMicro b.plan.grossProfitUsd
  notionalUsdMicro := fx.usdMicro b.plan.notionalUsd
  capitalUsdMicro := fx.usdMicro b.plan.capitalUsd
  repayAmount := b.plan.repayAmount

/-- The loop over the contents of the two files. -/
def fixtureLoop (fx : FloatCasts F) (hash : PdaHash) (order : ScanOrder) (profit : ProfitConfig)
    (maxTicks : UInt64) (ticks : List (OracleTickFixture F))
    (borrowers : List (Fixtures.BorrowerFixture F)) : LoopConfig where
  hash := hash
  order := order
  profit := profit
  borrowers := borrowers.map (planAmounts fx)
  events := ticksToEvents fx ticks
  maxTicks := maxTicks

/-- The hits whose accounts are candidates. -/
def known (index : CandidateIndex) (hits : List TriggerHit) : List TriggerHit :=
  hits.filter fun hit => (index.get hit.account).isSome

namespace PlanLoop

variable {cfg : LoopConfig}

/-- The hits handed to the engine so far. -/
def submitted (s : PlanLoop) : List TriggerHit := s.executed.map Submission.hit

/-- A hit is submitted if its account is a candidate; index and book stay as they are. -/
lemma submitted_handleHit (s : PlanLoop) (hit : TriggerHit) (input : HitInput) :
    (s.handleHit cfg false hit input).submitted =
        s.submitted ++ known s.oraclePath.index [hit] ∧
      (s.handleHit cfg false hit input).oraclePath.index = s.oraclePath.index ∧
      (s.handleHit cfg false hit input).oraclePath.prices = s.oraclePath.prices := by
  unfold handleHit submitted known
  cases hmeta : s.oraclePath.index.get hit.account with
  | none => simp [hmeta]
  | some m =>
      obtain ⟨best, hbest⟩ := (cfg.economics hit).exists_best cfg.profit m.protocol
      simp [hbest, hmeta]

lemma submitted_handleHits (input : TickInput) (n : ℕ) (s : PlanLoop) (hits : List TriggerHit) :
    (handleHits cfg false input n s hits).submitted =
        s.submitted ++ known s.oraclePath.index hits ∧
      (handleHits cfg false input n s hits).oraclePath.index = s.oraclePath.index ∧
      (handleHits cfg false input n s hits).oraclePath.prices = s.oraclePath.prices := by
  induction hits generalizing n s with
  | nil => exact ⟨(List.append_nil _).symm, rfl, rfl⟩
  | cons hit hits ih =>
      obtain ⟨hsubmitted, hindex, hprices⟩ := @submitted_handleHit cfg s hit (input.hit n)
      obtain ⟨hrest, hindex', hprices'⟩ := ih (n + 1) (s.handleHit cfg false hit (input.hit n))
      have hcons : known s.oraclePath.index (hit :: hits) =
          known s.oraclePath.index [hit] ++ known s.oraclePath.index hits :=
        List.filter_append [hit] hits
      refine ⟨?_, hindex'.trans hindex, hprices'.trans hprices⟩
      rw [handleHits, hrest, hsubmitted, hindex, hcons, List.append_assoc]

/-- What a price event comes to. -/
lemma submitted_handleEvent (input : TickInput) (s : PlanLoop) (asset : Pubkey)
    (priceFx : PriceFx) (slot writeVersion : ℕ) :
    let u := priceUpdate .mock cfg.order input.recvTsUs asset priceFx slot writeVersion
    let s' := handleEvent cfg false input s (.price asset priceFx slot writeVersion)
    s'.submitted = s.submitted ++ known s.oraclePath.index (s.oraclePath.hits u) ∧
      s'.oraclePath.index = s.oraclePath.index ∧
      s'.oraclePath.prices = (s.oraclePath.update u).prices := by
  intro u s'
  obtain ⟨hsubmitted, hindex, hprices⟩ := @submitted_handleHits cfg input 0
    { s with oraclePath := s.oraclePath.update u } (s.oraclePath.hits u)
  refine ⟨hsubmitted.trans ?_, hindex.trans ?_, hprices⟩
  · dsimp only
    rw [OracleTriggerPath.update_index]
    rfl
  · exact OracleTriggerPath.update_index ..

end PlanLoop

lemma expectedHits_cons (order : ScanOrder) (ix : CandidateIndex)
    (pre ts : List (OracleTickFixture F)) (t : OracleTickFixture F) :
    expectedHits fx order ix pre (t :: ts) =
      expectedHits fx order ix pre [t] ++ expectedHits fx order ix (pre ++ [t]) ts := by
  rw [expectedHits, expectedHits, expectedHits, List.append_nil]

/-- The hits of one more tick. -/
lemma expectedHits_concat (order : ScanOrder) (ix : CandidateIndex)
    (pre ts : List (OracleTickFixture F)) (t : OracleTickFixture F) :
    expectedHits fx order ix pre (ts ++ [t]) =
      expectedHits fx order ix pre ts ++ expectedHits fx order ix (pre ++ ts) [t] := by
  induction ts generalizing pre with
  | nil => rw [List.nil_append, List.append_nil, expectedHits, List.nil_append]
  | cons t' ts ih =>
      rw [List.cons_append, expectedHits_cons order ix pre (ts ++ [t]), ih,
        expectedHits_cons order ix pre ts t', List.append_assoc, List.append_assoc,
        List.singleton_append]

/-- A tick moves its asset from the price before; the first one is no move. -/
lemma expectedHits_singleton (order : ScanOrder) (ix : CandidateIndex)
    (pre : List (OracleTickFixture F)) (t : OracleTickFixture F) :
    (expectedHits fx order ix pre [t]).map Prod.fst = ix.onPriceUpdate order t.asset.toPubkey
      ((previousPrice fx pre t.asset.toPubkey).getD (fx.priceFx t.priceUsd))
      (fx.priceFx t.priceUsd) := by
  rw [expectedHits, expectedHits, List.append_nil]
  cases previousPrice fx pre t.asset.toPubkey with
  | none => exact (CandidateIndex.onPriceUpdate_self ..).symm
  | some prev =>
      rw [List.map_map, Option.getD_some]
      exact List.map_id _

/-- Where a live loop is: the ticks `done` have been handled, `rest` are on the stream. -/
structure Follows (fx : FloatCasts F) (order : ScanOrder) (maxTicks : UInt64)
    (index : CandidateIndex) (done rest : List (OracleTickFixture F)) (s : PlanLoop) : Prop where
  rx : s.rx = ticksToEvents fx rest
  ticksDone : s.ticksDone.toNat = done.length
  inLimit : done.length ≤ maxTicks.toNat
  index_eq : s.oraclePath.index = index
  prices : ∀ asset, s.oraclePath.prices.lookup asset = previousPrice fx done asset
  submitted : s.submitted = known index ((expectedHits fx order index [] done).map Prod.fst)
  ended : s.stopped = true → rest = [] ∨ done.length = maxTicks.toNat

lemma follows_step {hash : PdaHash} {order : ScanOrder} {profit : ProfitConfig} {maxTicks : UInt64}
    {ticks done rest : List (OracleTickFixture F)}
    {borrowers : List (Fixtures.BorrowerFixture F)} {index : CandidateIndex} {s : PlanLoop}
    (h : Follows fx order maxTicks index done rest s) (input : TickInput) :
    ∃ done' rest', done' ++ rest' = done ++ rest ∧ Follows fx order maxTicks index done' rest'
        (s.step (fixtureLoop fx hash order profit maxTicks ticks borrowers) false input) ∧
      ((s.step (fixtureLoop fx hash order profit maxTicks ticks borrowers) false input).stopped =
          true ∨
        done'.length = done.length + 1) := by
  rcases @PlanLoop.step_cases (fixtureLoop fx hash order profit maxTicks ticks borrowers) false s
    input with ⟨ev, evs, -, hcons, hgoes, hlt, hstep⟩ | ⟨-, hstep⟩
  · -- a tick is handled
    have hlt' : s.ticksDone.toNat < maxTicks.toNat := UInt64.lt_iff_toNat_lt.1 hlt
    cases rest with
    | nil => exact absurd (hcons.symm.trans h.rx) (by simp [ticksToEvents])
    | cons t ts =>
        obtain ⟨rfl, rfl⟩ := List.cons.inj (hcons.symm.trans h.rx)
        have hturn := @PlanLoop.sameTurn_handleEvent
          (fixtureLoop fx hash order profit maxTicks ticks borrowers) false input
          { s with rx := ticksToEvents fx ts } (.price t.asset.toPubkey (fx.priceFx t.priceUsd)
            t.slot t.writeVersion)
        obtain ⟨hsubmitted, hindex, hprices⟩ := @PlanLoop.submitted_handleEvent
          (fixtureLoop fx hash order profit maxTicks ticks borrowers) input
          { s with rx := ticksToEvents fx ts } t.asset.toPubkey (fx.priceFx t.priceUsd) t.slot
          t.writeVersion
        have hlength : (done ++ [t]).length = done.length + 1 := by
          rw [List.length_append, List.length_singleton]
        refine ⟨done ++ [t], ts, by rw [List.append_assoc, List.singleton_append], ?_,
          Or.inr hlength⟩
        rw [hstep]
        constructor
        · exact hturn.rx
        · rw [hlength, ← h.ticksDone]
          exact PlanLoop.toNat_succ_of_lt hlt
        · rw [hlength, ← h.ticksDone]
          exact hlt'
        · exact hindex.trans h.index_eq
        · intro asset
          have hbook := congrArg (fun prices => AList.lookup asset prices) hprices
          refine hbook.trans ?_
          dsimp only
          rw [OracleTriggerPath.update_prices, previousPrice_concat, h.prices, priceUpdate_asset]
          by_cases ha : t.asset.toPubkey = asset
          · rw [if_pos ha.symm, if_pos ha]
            rfl
          · rw [if_neg ha, if_neg fun heq => ha heq.symm]
        · refine hsubmitted.trans ?_
          dsimp only
          rw [expectedHits_concat, List.map_append, List.nil_append, expectedHits_singleton,
            OracleTriggerPath.hits_eq, priceUpdate_asset, h.prices, h.index_eq]
          exact (congrArg (· ++ _) h.submitted).trans (List.filter_append ..).symm
        · intro hstopped
          exact absurd (hturn.stopped.symm.trans hstopped) (by simp [hgoes])
  · rcases hstep with ⟨hdry, -⟩ | ⟨hend, hstep⟩ | ⟨hended, hstep⟩
    · exact absurd hdry Bool.false_ne_true
    · -- the loop ends
      rw [hstep]
      refine ⟨done, rest, rfl, ⟨h.rx, h.ticksDone, h.inLimit, h.index_eq, h.prices, h.submitted,
        fun _ => ?_⟩, Or.inl rfl⟩
      rcases hend with hnil | hlimit
      · exact Or.inl (List.map_eq_nil_iff.1 (h.rx.symm.trans hnil))
      · have hle : maxTicks.toNat ≤ s.ticksDone.toNat :=
          UInt64.le_iff_toNat_le.1 (UInt64.not_lt.1 hlimit)
        rw [h.ticksDone] at hle
        exact Or.inr (Nat.le_antisymm h.inLimit hle)
    · rw [hstep]
      exact ⟨done, rest, rfl, h, Or.inl hended⟩

/-- A loop that has ended stays so. -/
lemma stopped_exec {cfg : LoopConfig} {s : PlanLoop} (h : s.stopped = true)
    (inputs : List TickInput) :
    (Runs.exec (PlanLoop.step cfg false) s inputs).stopped = true := by
  refine Runs.exec_invariant (fun s : PlanLoop => s.stopped = true) (fun s input hs => ?_) inputs h
  rw [PlanLoop.step, if_pos hs]
  exact hs

/-- Along a run every turn handles a tick until the loop ends. -/
lemma follows_exec {hash : PdaHash} {order : ScanOrder} {profit : ProfitConfig} {maxTicks : UInt64}
    {ticks : List (OracleTickFixture F)} {borrowers : List (Fixtures.BorrowerFixture F)}
    {index : CandidateIndex} {s : PlanLoop} (inputs : List TickInput)
    {done rest : List (OracleTickFixture F)} (h : Follows fx order maxTicks index done rest s) :
    let s' := Runs.exec
      (PlanLoop.step (fixtureLoop fx hash order profit maxTicks ticks borrowers) false) s inputs
    ∃ done' rest', done' ++ rest' = done ++ rest ∧ Follows fx order maxTicks index done' rest' s' ∧
      (s'.stopped = true ∨ done'.length = done.length + inputs.length) := by
  induction inputs generalizing s done rest with
  | nil => exact ⟨done, rest, rfl, h, Or.inr rfl⟩
  | cons input inputs ih =>
      obtain ⟨done₁, rest₁, hsplit₁, h₁, hturn⟩ := follows_step h input
      obtain ⟨done₂, rest₂, hsplit₂, h₂, hrun⟩ := ih h₁
      refine ⟨done₂, rest₂, hsplit₂.trans hsplit₁, h₂, ?_⟩
      rcases hturn with hstopped | hlength
      · exact Or.inl (stopped_exec hstopped inputs)
      · rcases hrun with hstopped | hrun
        · exact Or.inl hstopped
        · rw [List.length_cons]
          exact Or.inr (by omega)

/-- The loop from its start. -/
lemma follows_start (hash : PdaHash) (order : ScanOrder) (profit : ProfitConfig) (maxTicks : UInt64)
    (ticks : List (OracleTickFixture F)) (borrowers : List (Fixtures.BorrowerFixture F))
    (index : CandidateIndex) (store : StateStore (List UInt8)) (risk : CircuitBreaker)
    (metrics : Metrics) (inputs : List TickInput) :
    let cfg := fixtureLoop fx hash order profit maxTicks ticks borrowers
    let s := Runs.exec (PlanLoop.step cfg false) (.start cfg index store risk metrics) inputs
    ∃ done rest, ticks = done ++ rest ∧ Follows fx order maxTicks index done rest s ∧
      (ticks.length < inputs.length → s.stopped = true) ∧
      (s.stopped = true → done = ticks.take maxTicks.toNat) := by
  intro cfg s
  have hstart : Follows fx order maxTicks index [] ticks (.start cfg index store risk metrics) :=
    ⟨rfl, rfl, Nat.zero_le _, rfl, fun asset => AList.lookup_empty asset, rfl,
      fun hstopped => absurd hstopped Bool.false_ne_true⟩
  obtain ⟨done, rest, hsplit, h, hturns⟩ := follows_exec inputs hstart
  rw [List.nil_append] at hsplit
  refine ⟨done, rest, hsplit.symm, h, fun hmany => ?_, fun hstopped => ?_⟩
  · refine hturns.resolve_right fun hlength => ?_
    have hle : done.length ≤ ticks.length := by
      rw [← hsplit, List.length_append]
      exact Nat.le_add_right _ _
    rw [List.length_nil, Nat.zero_add] at hlength
    omega
  · rcases h.ended hstopped with rfl | hlimit
    · rw [List.append_nil] at hsplit
      rw [← hsplit, List.take_of_length_le h.inLimit]
    · rw [← hsplit, ← hlimit, List.take_left]

/-! ## What is submitted -/

/-- The hit is of a move between two ticks of its asset, across a trigger of the last entry of its
account whose triggers can be read; and the class of the account can be read from some entry. -/
def Crossed (fx : FloatCasts F) (ticks : List (OracleTickFixture F))
    (borrowers : List (Fixtures.BorrowerFixture F)) (hit : TriggerHit) : Prop :=
  ∃ before t after prev triggers trigger m, ticks = before ++ t :: after ∧
    previousPrice fx before t.asset.toPubkey = some prev ∧
    lastRead (borrowerTriggers fx) borrowers hit.account = some triggers ∧ trigger ∈ triggers ∧
    trigger.asset = t.asset.toPubkey ∧
    CandidateIndex.Crosses trigger.side trigger.triggerPrice prev (fx.priceFx t.priceUsd) ∧
    hit = ⟨hit.account, t.asset.toPubkey, trigger.side, trigger.triggerPrice,
      fx.priceFx t.priceUsd⟩ ∧
    lastRead (borrowerToMeta fx) borrowers hit.account = some m

lemma mem_known_iff (order : ScanOrder) (ticks : List (OracleTickFixture F))
    (borrowers : List (Fixtures.BorrowerFixture F)) (hit : TriggerHit) :
    hit ∈ known (loadCandidates fx borrowers)
        ((expectedHits fx order (loadCandidates fx borrowers) [] ticks).map Prod.fst) ↔
      Crossed fx ticks borrowers hit := by
  obtain ⟨hcons, hlookups⟩ := @lookups_loadCandidates F fx borrowers
  obtain ⟨hget, htriggers⟩ := hlookups hit.account
  rw [known, List.mem_filter, hget, Option.isSome_iff_exists, List.mem_map]
  -- Index and tables name the same triggers; a hit is one crossed by a tick after its first.
  constructor
  · rintro ⟨⟨⟨hit, slot⟩, hmem, rfl⟩, m, hm⟩
    obtain ⟨before, t, after, prev, hsplit, hprev, -, hhit⟩ := (mem_expectedHits fx).1 hmem
    obtain ⟨hasset, hnew, hcross, hindexed⟩ := (CandidateIndex.mem_onPriceUpdate ..).1 hhit
    obtain ⟨triggers, hts, trigger, htrigger, htasset, htside, htprice⟩ := (hcons ..).1 hindexed
    refine ⟨before, t, after, prev, triggers, trigger, m, hsplit, hprev, ?_, htrigger,
      htasset.symm, ?_, ?_, hm⟩
    · exact htriggers.symm.trans hts
    · rwa [← htside, ← htprice]
    · rw [← htside, ← htprice, ← hasset, ← hnew]
  · rintro ⟨before, t, after, prev, triggers, trigger, m, hsplit, hprev, hread, htrigger, htasset,
      hcross, hhit, hm⟩
    have hmem : hit ∈ (loadCandidates fx borrowers).onPriceUpdate order t.asset.toPubkey prev
        (fx.priceFx t.priceUsd) := by
      rw [hhit]
      refine (CandidateIndex.mem_onPriceUpdate ..).2 ⟨rfl, rfl, hcross, (hcons ..).2 ?_⟩
      exact ⟨triggers, htriggers.trans hread, trigger, htrigger, htasset.symm, rfl, rfl⟩
    exact ⟨⟨(hit, t.slot), (mem_expectedHits fx).2
      ⟨before, t, after, prev, hsplit, hprev, rfl, hmem⟩, rfl⟩, m, hm⟩

/-- **What a live loop submits.**  At any time of any run it has handled the first ticks of the
file; it ends when it has had more turns than there are ticks, and has then handled all that its
limit lets it; and it has submitted, in order and once each, the hits of the ticks handled whose
accounts are candidates: those of a move between two ticks of an asset across a trigger that was
entered, and no others. -/
theorem live_executes (fx : FloatCasts F) (hash : PdaHash) (order : ScanOrder)
    (profit : ProfitConfig) (maxTicks : UInt64) (ticks : List (OracleTickFixture F))
    (borrowers : List (Fixtures.BorrowerFixture F)) (store : StateStore (List UInt8))
    (risk : CircuitBreaker) (metrics : Metrics) (inputs : List TickInput) :
    let cfg := fixtureLoop fx hash order profit maxTicks ticks borrowers
    let index := loadCandidates fx borrowers
    let s := Runs.exec (PlanLoop.step cfg false) (.start cfg index store risk metrics) inputs
    ∃ done rest, ticks = done ++ rest ∧ s.ticksDone.toNat = done.length ∧
      (ticks.length < inputs.length → s.stopped = true) ∧
      (s.stopped = true → done = ticks.take maxTicks.toNat) ∧
      s.submitted = known index ((expectedHits fx order index [] done).map Prod.fst) ∧
      ∀ hit, hit ∈ s.submitted ↔ Crossed fx done borrowers hit := by
  intro cfg index s
  obtain ⟨done, rest, hsplit, h, hends, hall⟩ :=
    follows_start hash order profit maxTicks ticks borrowers index store risk metrics inputs
  refine ⟨done, rest, hsplit, h.ticksDone, hends, hall, h.submitted, fun hit => ?_⟩
  rw [h.submitted]
  exact mem_known_iff order done borrowers hit

/-! ## The same files in the replay

The replay stops at an entry it cannot read, the liquidator goes on.  They agree on the files that
the replay loads. -/

/-- The hit a record of the replay is about. -/
def hitOf (o : OpportunityRecord) : TriggerHit :=
  ⟨o.account, o.asset, o.side, o.triggerPrice, o.newPrice⟩

/-- The account of a readable entry is a candidate. -/
lemma isSome_get_loadCandidates {borrowers : List (Fixtures.BorrowerFixture F)}
    {b : Fixtures.BorrowerFixture F} (hb : b ∈ borrowers) {m : CandidateMeta}
    (hm : borrowerToMeta fx b = .ok m) :
    ((loadCandidates fx borrowers).get b.account.toPubkey).isSome = true := by
  rw [((lookups_loadCandidates borrowers).2 _).1, lastRead, List.findSome?_isSome_iff]
  refine ⟨b, List.mem_reverse.2 hb, ?_⟩
  rw [if_pos rfl, hm]
  rfl

/-- Of a file that loads every hit is a candidate's, and has its record. -/
lemma record_of_hit {borrowers : List (Fixtures.BorrowerFixture F)} {index : CandidateIndex}
    (hload : loadIndex fx borrowers = .ok index) {order : ScanOrder}
    {ticks : List (OracleTickFixture F)} {x : TriggerHit × ℕ}
    (hx : x ∈ expectedHits fx order index [] ticks) :
    (index.get x.1.account).isSome = true ∧
      ∃ o, recordOf fx borrowers x = some o ∧ hitOf o = x.1 := by
  obtain ⟨hit, slot⟩ := x
  obtain ⟨b, hb⟩ := exists_borrower_of_hit hload hx
  have hmem : b ∈ borrowers := List.mem_of_find?_eq_some hb
  have haccount : b.account.toPubkey = hit.account := by simpa using List.find?_some hb
  obtain ⟨m, hm⟩ := exists_meta_of_loadIndex fx hload hmem
  refine ⟨?_, opportunity fx hit b m slot, ?_, ?_⟩
  · rw [← haccount, ← loadCandidates_of_loadIndex hload]
    exact isSome_get_loadCandidates hmem hm
  · simp [recordOf, hb, hm]
  · have hown : m.account = hit.account := (account_of_borrowerToMeta fx hm).trans haccount
    simp [hitOf, opportunity, hown]

/-- **A live run submits what the replay printed.**  Where the replay gets through the two files
and the limit lets all ticks pass, a live loop over them, given more turns than ticks, has ended
and submitted the hits of the replay's records, in their order but for hits at one trigger price,
which each of the two processes meets in an order of its own. -/
theorem live_as_replayed (replayOrder : ScanOrder) (clock : ReplayClock) (hash : PdaHash)
    (order : ScanOrder) (profit : ProfitConfig) (maxTicks : UInt64)
    (ticks : List (OracleTickFixture F)) (borrowers : List (Fixtures.BorrowerFixture F))
    (store : StateStore (List UInt8)) (risk : CircuitBreaker) (metrics : Metrics)
    (inputs : List TickInput) {r : Replayed}
    (hreplay : replay fx replayOrder clock ticks borrowers = .ok r)
    (hlimit : ticks.length ≤ maxTicks.toNat) (hturns : ticks.length < inputs.length) :
    let cfg := fixtureLoop fx hash order profit maxTicks ticks borrowers
    let s := Runs.exec (PlanLoop.step cfg false)
      (.start cfg (loadCandidates fx borrowers) store risk metrics) inputs
    s.stopped = true ∧
      SameBlocks TriggerHit.crossing (r.opportunities.map hitOf) s.submitted := by
  intro cfg s
  obtain ⟨done, rest, -, h, hends, hall⟩ := follows_start hash order profit maxTicks ticks borrowers
    (loadCandidates fx borrowers) store risk metrics inputs
  have hstopped := hends hturns
  refine ⟨hstopped, ?_⟩
  obtain rfl : done = ticks := (hall hstopped).trans (List.take_of_length_le hlimit)
  cases hload : loadIndex fx borrowers with
  | panic => exact absurd hload (loadIndex_ne_panic fx borrowers)
  | err e => exact absurd hreplay (by simp [replay, hload])
  | ok index =>
      obtain ⟨final, hok⟩ := replay_of_loadIndex replayOrder clock done hload
      obtain rfl := Outcome.ok.inj (hok.symm.trans hreplay)
      -- every record is of a hit the files describe, in the replay's order
      have hrecords : ((expectedHits fx replayOrder index [] done).filterMap
          (recordOf fx borrowers)).map hitOf =
            (expectedHits fx replayOrder index [] done).map Prod.fst := by
        rw [List.map_filterMap]
        refine (List.filterMap_congr fun x hx => ?_).trans (congrFun List.filterMap_eq_map' _)
        obtain ⟨-, o, ho, hhit⟩ := record_of_hit hload hx
        rw [ho]
        exact congrArg some hhit
      -- and every hit of the loop is a candidate's
      have hsubmitted : s.submitted = (expectedHits fx order index [] done).map Prod.fst := by
        refine h.submitted.trans ?_
        rw [loadCandidates_of_loadIndex hload, known, List.filter_eq_self]
        intro hit hhit
        obtain ⟨x, hx, rfl⟩ := List.mem_map.1 hhit
        exact (record_of_hit hload hx).1
      dsimp only
      rw [hrecords, hsubmitted]
      exact (sameBlocks_expectedHits fx replayOrder order index [] done).map Prod.fst
        fun _ => rfl

/-- The fall of one price below the trigger of two borrowers, the sets of the two processes in
opposite orders. -/
theorem live_as_replayed_twoBorrowers :
    ∃ r, replay sampleCasts .asStored ⟨id, id, 0, 0⟩ sampleTicks sampleBorrowers = .ok r ∧
      let cfg := fixtureLoop sampleCasts .prefixHash backwards .default 5 sampleTicks
        sampleBorrowers
      let s := Runs.exec (PlanLoop.step cfg false)
        (.start cfg (loadCandidates sampleCasts sampleBorrowers) .new (.new .default) Metrics.zero)
        (List.replicate 3 ⟨0, fun _ => ⟨1, 2, .default⟩⟩)
      s.stopped = true ∧
        SameBlocks TriggerHit.crossing (r.opportunities.map hitOf) s.submitted := by
  obtain ⟨r, hr⟩ := Outcome.isOk_iff.1 (by decide +kernel :
    (replay sampleCasts .asStored ⟨id, id, 0, 0⟩ sampleTicks sampleBorrowers).isOk = true)
  exact ⟨r, hr, live_as_replayed .asStored _ .prefixHash backwards .default 5 sampleTicks
    sampleBorrowers .new (.new .default) Metrics.zero
    (List.replicate 3 ⟨0, fun _ => ⟨1, 2, .default⟩⟩) hr (by decide) (by decide)⟩

end Liquidator

end Grokbotliq
