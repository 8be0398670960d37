import Grokbotliq.Kamino.DecodeIdl
import Grokbotliq.Streaming.SteadyNetwork

/-!
# What discovery reports

`discovery_report` reads a report back to the accounts it was made from.  Whatever the network
does, a report that comes says of Kamino's obligations what classifying the accounts answered, one
by one, comes to: all those that can be liquidated, the unhealthiest first, of which it shows
thirty-two; the counts; the extremes of health; and, as its last word, that there are no candidates
if there are none.

The statement is about one run: the reserves and groups are those this run has found, and the
answer is what its own request for the obligations came to, from the session in which it was sent.
The last section runs discovery over a network of three accounts and reads the report back; what
such a network answers is computed once for every endpoint, since it does not matter which one is
asked.
-/

namespace Grokbotliq

open Kamino

/-! ## The scan of the obligations

The sort and the two ends of the sorted healths, from the tallies of the loop. -/

namespace Discovery

/-- The request for Kamino's obligations. -/
def obligationRequest (c : Codecs) : Call (List RawAccount) :=
  Bootstrap.getProgramAccountsFiltered c Programs.klend
    [dataSize Known.klendObligationDatasize, memcmp 32 Known.klendMainMarket]

/-- The health a candidate is ranked by. -/
def rankHealth (d : DiscoveredAccount) : ℚ := d.health.getD KlendScan.f64Max

/-- What a list of classified obligations, in any order, comes to in the statistics. -/
structure Sums (st : KlendHealthStats) (ds : List DiscoveredAccount) : Prop where
  decoded : st.obligationsDecoded = ds.length
  withDebt : st.withDebt = ds.countP hasDebt
  liquidatable : st.liquidatable = ds.countP isLiq
  least : ∀ m, st.minHealth = some m ↔
    m ∈ ds.filterMap DiscoveredAccount.health ∧ ∀ hf ∈ ds.filterMap DiscoveredAccount.health, m ≤ hf
  greatest : ∀ m, st.maxHealth = some m ↔
    m ∈ ds.filterMap DiscoveredAccount.health ∧ ∀ hf ∈ ds.filterMap DiscoveredAccount.health, hf ≤ m

/-- Sorted by a key, a list has its keys in order. -/
lemma pairwise_mergeSort_key {β : Type} (key : β → ℚ) (xs : List β) :
    (xs.mergeSort fun a b => decide (key a ≤ key b)).Pairwise fun a b => key a ≤ key b := by
  have hsorted : (xs.mergeSort fun a b => decide (key a ≤ key b)).Pairwise
      fun a b => decide (key a ≤ key b) = true := by
    apply List.pairwise_mergeSort
    · intro a b c hab hbc
      simp only [decide_eq_true_eq] at hab hbc ⊢
      exact hab.trans hbc
    · intro a b
      simpa using le_total (key a) (key b)
  exact hsorted.imp fun hab => of_decide_eq_true hab

lemma pairwise_ranked (ds : List DiscoveredAccount) :
    (KlendScan.ranked ds).Pairwise fun a b => rankHealth a ≤ rankHealth b :=
  pairwise_mergeSort_key rankHealth ds

/-- The first of a sorted list is its least element. -/
lemma head?_eq_some_iff_least {xs : List ℚ} (h : xs.Pairwise (· ≤ ·)) (m : ℚ) :
    xs.head? = some m ↔ m ∈ xs ∧ ∀ x ∈ xs, m ≤ x := by
  cases xs with
  | nil => simp
  | cons a xs =>
      obtain ⟨hle, -⟩ := List.pairwise_cons.1 h
      have hleast : ∀ x ∈ a :: xs, a ≤ x := List.forall_mem_cons.2 ⟨le_rfl, hle⟩
      rw [List.head?_cons, Option.some.injEq]
      constructor
      · rintro rfl
        exact ⟨List.mem_cons_self, hleast⟩
      · rintro ⟨hm, hall⟩
        exact le_antisymm (hleast m hm) (hall a List.mem_cons_self)

/-- The last of a sorted list is its greatest element. -/
lemma getLast?_eq_some_iff_greatest {xs : List ℚ} (h : xs.Pairwise (· ≤ ·)) (m : ℚ) :
    xs.getLast? = some m ↔ m ∈ xs ∧ ∀ x ∈ xs, x ≤ m := by
  have hreverse : xs.reverse.Pairwise fun a b => b ≤ a := List.pairwise_reverse.2 h
  rw [← List.head?_reverse]
  cases hrev : xs.reverse with
  | nil => simp [List.reverse_eq_nil_iff.1 hrev]
  | cons a ys =>
      rw [hrev] at hreverse
      obtain ⟨hle, -⟩ := List.pairwise_cons.1 hreverse
      have hmem : ∀ x, x ∈ xs ↔ x ∈ a :: ys := fun x => by rw [← hrev, List.mem_reverse]
      have hall' : ∀ x ∈ a :: ys, x ≤ a := List.forall_mem_cons.2 ⟨le_rfl, hle⟩
      have hgreatest : ∀ x ∈ xs, x ≤ a := fun x hx => hall' x ((hmem x).1 hx)
      have ha : a ∈ xs := (hmem a).2 List.mem_cons_self
      rw [List.head?_cons, Option.some.injEq]
      constructor
      · rintro rfl
        exact ⟨ha, hgreatest⟩
      · rintro ⟨hm, hall⟩
        exact le_antisymm (hall a ha) (hgreatest m hm)

/-- The scan of classified obligations has their statistics. -/
lemma sums_stats {t : KlendScan} {ds : List DiscoveredAccount} (h : t.Tallies ds) :
    Sums t.stats ds := by
  have hsorted : (t.healths.mergeSort fun a b => a ≤ b).Pairwise (· ≤ ·) :=
    pairwise_mergeSort_key id t.healths
  refine ⟨h.decoded, h.withDebt, h.liquidatable, fun m => ?_, fun m => ?_⟩
  · show (t.healths.mergeSort fun a b => a ≤ b).head? = some m ↔ _
    rw [head?_eq_some_iff_least hsorted, ← h.healths]
    simp only [List.mem_mergeSort]
  · show (t.healths.mergeSort fun a b => a ≤ b).getLast? = some m ↔ _
    rw [getLast?_eq_some_iff_greatest hsorted, ← h.healths]
    simp only [List.mem_mergeSort]

/-- The candidates and the statistics, given the reserves and elevation groups found and what the
request for the obligations came to: none where it failed; else all that can be liquidated of the
accounts answered, each classified, the unhealthiest first, and their sums.  A map without entries
counts as none. -/
def Scanned (c : Codecs) (reserves : Reserves) (groups : KeyMap UInt8 ElevationGroupParams)
    (answer : Except BootstrapError (List RawAccount)) (candidates : List DiscoveredAccount)
    (stats : Option KlendHealthStats) : Prop :=
  match answer with
  | .error _ => candidates = [] ∧ stats = none
  | .ok accts => ∃ ds st,
    List.Forall₂ (fun a d => classifyKlendObligationFull c.toBase58 a.pubkey a.data
      (if reserves.entries = [] then none else some reserves)
      (if groups.entries = [] then none else some groups) = .ok d) accts ds ∧
    candidates.Perm (ds.filter isLiq) ∧
    candidates.Pairwise (fun a b => rankHealth a ≤ rankHealth b) ∧
    stats = some st ∧ Sums st ds

lemma scanned_of_scanObligations {σ : Type} {handler : σ → Json → σ × Except BootstrapError Json}
    {s : σ} {c : Codecs} {reserves : Reserves} {groups : KeyMap UInt8 ElevationGroupParams}
    {scan : ObligationScan}
    (h : (RequestProg.run handler s (scanObligations c reserves groups)).2 = .ok scan) :
    ∃ answer, (RequestProg.run handler s (obligationRequest c).attempt).2 = .ok answer ∧
      Scanned c reserves groups answer scan.liquidatableCandidates scan.stats := by
  unfold scanObligations at h
  obtain ⟨answer, hanswer, h⟩ := Call.run_bind_eq_ok h
  refine ⟨answer, hanswer, ?_⟩
  cases answer with
  | error e =>
      obtain rfl := Outcome.ok.inj h
      exact ⟨rfl, rfl⟩
  | ok accts =>
      dsimp only at h
      obtain ⟨t, ht, h⟩ := Call.run_bind_eq_ok h
      rw [Call.run_ret] at ht
      obtain rfl := Outcome.ok.inj h
      obtain ⟨ds, hall, htallies⟩ := KlendScan.tallies_foldlM c _ _ accts KlendScan.tallies_empty ht
      rw [List.nil_append] at htallies
      refine ⟨ds, _, hall, ?_, pairwise_ranked _, rfl, sums_stats htallies⟩
      rw [← htallies.candidates]
      exact List.mergeSort_perm ..

/-! ## The report -/

/-- The last word of a report without candidates. -/
def noCandidatesGap : String :=
  "no liquidatable/below-maintenance Kamino obligations — candidates list is empty" ++
    " (see klend_health_stats.sample_healthy)"

section Report

variable (c : Codecs) (world : World) (p : RotatingRpcPool)

/-- What discovery over the pool has found when it comes to the obligations. -/
def found : Outcome BootstrapError Found :=
  (RequestProg.run (Session.post world) ⟨p, []⟩ (beforeObligations c)).2

/-- Where it stands then. -/
def obligationSession : Session :=
  (RequestProg.run (Session.post world) ⟨p, []⟩ (beforeObligations c)).1

/-- What its request for the obligations comes to, from there. -/
def obligationAnswer : Outcome BootstrapError (Except BootstrapError (List RawAccount)) :=
  (RequestProg.run (Session.post world) (obligationSession c world p)
    (obligationRequest c).attempt).2

variable {c world p}

/-- What a report takes from the scan of the obligations, and what it ends with. -/
lemma report_of_discover {report : DiscoveryReport} (h : (discover c world p).2 = .ok report) :
    ∃ f scan front pending, found c world p = .ok f ∧
      (RequestProg.run (Session.post world) (obligationSession c world p)
        (scanObligations c f.reserves.map f.groups)).2 = .ok scan ∧
      report.liquidatableCandidates = scan.liquidatableCandidates ∧
      report.klendHealthStats = scan.stats ∧
      report.candidates = scan.liquidatableCandidates.take 32 ∧
      pending ≠ noCandidatesGap ∧
      report.gaps = front ++ [pending] ++
        if scan.liquidatableCandidates = [] then [noCandidatesGap] else [] := by
  obtain ⟨make, hmake, hreport⟩ := Outcome.bind_eq_ok.1 h
  obtain rfl := Outcome.ok.inj hreport
  unfold discoverMainnet at hmake
  obtain ⟨f, hfound, hmake⟩ := Call.run_bind_eq_ok hmake
  obtain ⟨scan, hscan, hmake⟩ := Call.run_bind_eq_ok hmake
  obtain ⟨⟨marginfi, banks⟩, -, hmake⟩ := Call.run_bind_eq_ok hmake
  dsimp only at hmake
  obtain ⟨saveScan, -, hmake⟩ := Call.run_bind_eq_ok hmake
  obtain rfl := Outcome.ok.inj hmake
  exact ⟨f, scan, _, _, hfound, hscan, rfl, rfl, rfl, by decide, rfl⟩

/-- What a report says of the obligations. -/
lemma scanned_of_discover {report : DiscoveryReport} (h : (discover c world p).2 = .ok report) :
    ∃ f answer, found c world p = .ok f ∧ obligationAnswer c world p = .ok answer ∧
      Scanned c f.reserves.map f.groups answer report.liquidatableCandidates
        report.klendHealthStats := by
  obtain ⟨f, scan, front, pending, hfound, hscan, hliquidatable, hstats, -⟩ :=
    report_of_discover h
  obtain ⟨answer, hanswer, hscanned⟩ := scanned_of_scanObligations hscan
  rw [← hliquidatable, ← hstats] at hscanned
  exact ⟨f, answer, hfound, hanswer, hscanned⟩

end Report

/-! ## An obligation under water -/

section UnderWater

open RpcServer Idl

def mainMarket : Pubkey := (Pubkey.fromBase58 .bitcoin Known.klendMainMarket).getD .default

/-- A reserve of the main market: of a token worth a dollar, with a threshold of 80%. -/
def dollarVault : Reserve :=
  { (default : Reserve) with
    lendingMarket := mainMarket
    liquidity := { (default : ReserveLiquidity) with marketPriceSf := 2 ^ 60 }
    config := { (default : ReserveConfig) with
      loanToValuePct := 75
      liquidationThresholdPct := 80
      borrowFactorPct := 100 } }

/-- 100 dollars in the reserve against a debt of 90. -/
def overdrawn : Obligation :=
  { (default : Obligation) with
    lendingMarket := mainMarket
    deposits := (default : Vector ObligationCollateral 8).set 0
      { (default : ObligationCollateral) with
        depositReserve := .test 60 1
        depositedAmount := 100 }
    borrows := (default : Vector ObligationLiquidity 5).set 0
      { (default : ObligationLiquidity) with
        borrowReserve := .test 60 1
        borrowedAmountSf := 90 * 2 ^ 60 }
    hasDebt := 1 }

def vaultAccount : RawAccount :=
  ⟨.test 60 1, 1, Programs.klend, account (Vector.replicate 8 1) Reserve.layout dollarVault, 7⟩

def overdrawnAccount : RawAccount :=
  ⟨.test 60 2, 1, Programs.klend, account (Vector.replicate 8 2) Obligation.layout overdrawn, 7⟩

/-- The account of Save's main market. -/
def saveMarketAccount : RawAccount :=
  ⟨(Pubkey.fromBase58 .bitcoin Known.saveMainMarket).getD .default, 9, Programs.save, [1, 2, 3], 7⟩

def held : List RawAccount := [vaultAccount, overdrawnAccount, saveMarketAccount]

/-- A network that holds the three accounts. -/
def smallMainnet : World := .steady (serve 42 held)

/-- What its requests are answered. -/
def heldAnswers (request : Json) : Except BootstrapError Json :=
  readResponse (serve 42 held request)

lemma decode_klendMainMarket :
    Base58.bitcoin.decode Known.klendMainMarket = some mainMarket.bytes := by
  decide +kernel

lemma filterKeeps_dataSize (a : RawAccount) (n : ℕ) :
    filterKeeps a (dataSize n) = (UInt64.ofNat n == UInt64.ofNat a.data.length) := rfl

lemma filterKeeps_mainMarket (a : RawAccount) :
    filterKeeps a (memcmp 32 Known.klendMainMarket) =
      ((a.data.drop 32).take mainMarket.bytes.length == mainMarket.bytes) := by
  have hfilter : (memcmp 32 Known.klendMainMarket).get "memcmp" =
      some (.object [("offset", natJson 32), ("bytes", .string Known.klendMainMarket)]) := rfl
  exact filterKeeps_of_memcmp a rfl hfilter rfl decode_klendMainMarket

lemma vaultAccount_length : vaultAccount.data.length = 8624 := length_account _ _ _

lemma overdrawnAccount_length : overdrawnAccount.data.length = 3344 := length_account _ _ _

/-- The lending market stands at byte 32 of either account. -/
lemma market_of_account (discriminator : Vector UInt8 8) (r : Reserve) (o : Obligation) :
    ((account discriminator Reserve.layout r).drop 32).take 32 = r.lendingMarket.bytes ∧
      ((account discriminator Obligation.layout o).drop 32).take 32 = o.lendingMarket.bytes :=
  ⟨((at_account discriminator Reserve.layout r).field "lendingMarket" rfl).take_drop,
    ((at_account discriminator Obligation.layout o).field "lendingMarket" rfl).take_drop⟩

lemma vaultAccount_market :
    (vaultAccount.data.drop 32).take mainMarket.bytes.length = mainMarket.bytes := by
  rw [mainMarket.size]
  exact (market_of_account _ dollarVault overdrawn).1

lemma overdrawnAccount_market :
    (overdrawnAccount.data.drop 32).take mainMarket.bytes.length = mainMarket.bytes := by
  rw [mainMarket.size]
  exact (market_of_account _ dollarVault overdrawn).2

/-- No request for the accounts of a program fails. -/
lemma answered_filtered (k : Pubkey) (filters : List Json) :
    ∃ out slot, Call.answered heldAnswers
        (Bootstrap.getProgramAccountsFiltered standardCodecs k filters).attempt = .ok (.ok out) ∧
      out.Perm (((held.filter fun a => a.owner = k).filter
        fun a => filters.all (filterKeeps a)).map (RawAccount.atSlot slot)) := by
  obtain ⟨out, slot, -, hout, hperm⟩ := exists_getProgramAccountsFiltered
    (holds_serve 42 held [k] filters) (List.mem_singleton_self k)
  have hout : Call.answered heldAnswers
      (Bootstrap.getProgramAccountsFiltered standardCodecs k filters) = .ok out := hout
  exact ⟨out, slot, by rw [Call.answered_attempt, hout], hperm⟩

/-- The only account of a program that the filters keep is what the request returns. -/
lemma answered_kept {k : Pubkey} {filters : List Json} {kept : RawAccount}
    (hkept : ((held.filter fun a => a.owner = k).filter
      fun a => filters.all (filterKeeps a)) = [kept]) :
    ∃ slot, Call.answered heldAnswers
      (Bootstrap.getProgramAccountsFiltered standardCodecs k filters).attempt =
        .ok (.ok [kept.atSlot slot]) := by
  obtain ⟨out, slot, hout, hperm⟩ := answered_filtered k filters
  rw [hkept, List.map_singleton] at hperm
  rw [List.perm_singleton.1 hperm] at hout
  exact ⟨slot, hout⟩

/-- Two of the accounts are klend's. -/
lemma held_klend :
    held.filter (fun a => a.owner = Programs.klend) = [vaultAccount, overdrawnAccount] := by
  have hsave : saveMarketAccount.owner ≠ Programs.klend := by decide
  have hvault : vaultAccount.owner = Programs.klend := rfl
  have hoverdrawn : overdrawnAccount.owner = Programs.klend := rfl
  simp [held, hsave, hvault, hoverdrawn]

lemma kept_reserves :
    ((held.filter fun a => a.owner = Programs.klend).filter fun a =>
      [dataSize Known.klendReserveDatasize, memcmp 32 Known.klendMainMarket].all
        (filterKeeps a)) = [vaultAccount] := by
  have hvault : [dataSize Known.klendReserveDatasize, memcmp 32 Known.klendMainMarket].all
      (filterKeeps vaultAccount) = true := by
    simp only [List.all_cons, List.all_nil, filterKeeps_dataSize, filterKeeps_mainMarket,
      vaultAccount_length, vaultAccount_market]
    decide
  have hoverdrawn : [dataSize Known.klendReserveDatasize, memcmp 32 Known.klendMainMarket].all
      (filterKeeps overdrawnAccount) = false := by
    simp only [List.all_cons, filterKeeps_dataSize, overdrawnAccount_length]
    decide
  rw [held_klend, List.filter_cons, hvault, List.filter_cons, hoverdrawn]
  rfl

lemma kept_obligations :
    ((held.filter fun a => a.owner = Programs.klend).filter fun a =>
      [dataSize Known.klendObligationDatasize, memcmp 32 Known.klendMainMarket].all
        (filterKeeps a)) = [overdrawnAccount] := by
  have hvault : [dataSize Known.klendObligationDatasize, memcmp 32 Known.klendMainMarket].all
      (filterKeeps vaultAccount) = false := by
    simp only [List.all_cons, filterKeeps_dataSize, vaultAccount_length]
    decide
  have hoverdrawn : [dataSize Known.klendObligationDatasize, memcmp 32 Known.klendMainMarket].all
      (filterKeeps overdrawnAccount) = true := by
    simp only [List.all_cons, List.all_nil, filterKeeps_dataSize, filterKeeps_mainMarket,
      overdrawnAccount_length, overdrawnAccount_market]
    decide
  rw [held_klend, List.filter_cons, hvault, List.filter_cons, hoverdrawn]
  rfl

/-- The reserve as the decoder reads it. -/
def vaultRisk : LiveReserveRisk := riskOf (.test 60 1) dollarVault

def vaultMap : Reserves := (∅ : Reserves).insert (.test 60 1) vaultRisk

lemma answered_scanReserves_smallMainnet :
    ∃ gaps, Call.answered heldAnswers (scanReserves standardCodecs) = .ok ⟨1, vaultMap, gaps⟩ := by
  obtain ⟨slot, hout⟩ := answered_kept kept_reserves
  have hread : [vaultAccount.atSlot slot].foldlM reserveStep ∅ = .ok vaultMap := by
    have hdecode : decodeReserveLiveRisk (vaultAccount.atSlot slot).pubkey
        (vaultAccount.atSlot slot).data = .ok vaultRisk :=
      decodeReserveLiveRisk_account _ (.test 60 1) dollarVault
    rw [List.foldlM_cons, reserveStep, hdecode]
    rfl
  unfold scanReserves
  dsimp only
  rw [Call.answered_bind, hout, Outcome.ok_bind]
  dsimp only
  rw [hread, Call.answered_bind, Call.answered_ret, Outcome.ok_bind]
  exact ⟨_, rfl⟩

/-- The obligation can be liquidated: its threshold is 80 dollars. -/
lemma classifyPositions_overdrawn :
    (classifyPositions .bitcoin (positionsOf (.test 60 2) overdrawn) (some vaultMap)
      none).notes.contains .liquidatable = true ∧
    (classifyPositions .bitcoin (positionsOf (.test 60 2) overdrawn) (some vaultMap)
      none).health = some (8 / 9) := by
  decide +kernel

/-- What is found of an account is what is reported of it. -/
lemma classify_of_find {c : Base58} {addr : Pubkey} {data : List UInt8} {reserves : Option Reserves}
    {groups : ElevationGroups} {finding : Finding}
    (h : findObligation c addr data reserves groups = .ok finding) :
    ∃ d, classifyKlendObligationFull c addr data reserves groups = .ok d ∧
      d.notes = finding.notes ∧ d.band = finding.band ∧ d.health = finding.health := by
  rw [classifyKlendObligationFull, h]
  exact ⟨_, rfl, rfl, rfl, rfl⟩

lemma exists_classify_overdrawn (slot : UInt64) :
    ∃ d, classifyKlendObligationFull standardCodecs.toBase58 (overdrawnAccount.atSlot slot).pubkey
        (overdrawnAccount.atSlot slot).data (some vaultMap) none = .ok d ∧ isLiq d = true ∧
      d.health = some (8 / 9) := by
  have hlong : ¬(overdrawnAccount.atSlot slot).data.length < 2260 := by
    show ¬overdrawnAccount.data.length < 2260
    rw [overdrawnAccount_length]
    decide
  have hpos : decodeObligationLivePositions (overdrawnAccount.atSlot slot).pubkey
      (overdrawnAccount.atSlot slot).data = .ok (positionsOf (.test 60 2) overdrawn) :=
    decodeObligationLivePositions_account _ (.test 60 2) overdrawn
  obtain ⟨hnote, hhealth⟩ := classifyPositions_overdrawn
  have hfind : findObligation standardCodecs.toBase58 (overdrawnAccount.atSlot slot).pubkey
      (overdrawnAccount.atSlot slot).data (some vaultMap) none =
      .ok (classifyPositions .bitcoin (positionsOf (.test 60 2) overdrawn) (some vaultMap)
        none) := by
    rw [findObligation, if_neg hlong, hpos]
    rfl
  obtain ⟨d, hd, hnotes, -, hsame⟩ := classify_of_find hfind
  refine ⟨d, hd, ?_, hsame.trans hhealth⟩
  rw [isLiq, hnotes, hnote, Bool.or_true]

lemma answered_scanObligations_smallMainnet :
    ∃ scan d, Call.answered heldAnswers (scanObligations standardCodecs vaultMap ∅) = .ok scan ∧
      scan.liquidatableCandidates = [d] ∧ d.health = some (8 / 9) := by
  obtain ⟨slot, hout⟩ := answered_kept kept_obligations
  obtain ⟨d, hclassify, hliq, hhealth⟩ := exists_classify_overdrawn slot
  have hscan : [overdrawnAccount.atSlot slot].foldlM
      (KlendScan.step standardCodecs (some vaultMap) none) .empty =
        .ok (KlendScan.empty.add d) := by
    rw [List.foldlM_cons, KlendScan.step, hclassify]
    rfl
  have hkept : (KlendScan.empty.add d).liquidatableCandidates = [d] := by
    rw [KlendScan.add, hliq]
    rfl
  unfold scanObligations
  dsimp only
  rw [Call.answered_bind, hout, Outcome.ok_bind]
  dsimp only
  have hmap : (if vaultMap.entries = [] then none else some vaultMap) = some vaultMap := rfl
  have hnone : (if (∅ : KeyMap UInt8 ElevationGroupParams).entries = [] then none
    else some (∅ : KeyMap UInt8 ElevationGroupParams)) = none := rfl
  rw [hmap, hnone, Call.answered_bind, hscan, Call.answered_ret,
    Outcome.ok_bind]
  refine ⟨_, d, rfl, ?_, hhealth⟩
  rw [hkept]
  exact List.mergeSort_singleton d

lemma exists_scanMarginfi_smallMainnet :
    ∃ scan, Call.answered heldAnswers (scanMarginfi standardCodecs) = .ok scan := by
  obtain ⟨out, -, hout, -⟩ := answered_filtered Programs.marginfi
    [memcmp 0 (standardCodecs.encode Known.marginfiAccountDisc), memcmp 8 Known.marginfiMainGroup]
  unfold scanMarginfi
  dsimp only
  rw [Call.answered_bind, hout, Outcome.ok_bind]
  exact ⟨_, rfl⟩

lemma exists_scanSaveSizes_smallMainnet (sizes : List ℕ) :
    ∃ scan, Call.answered heldAnswers (scanSaveSizes standardCodecs sizes) = .ok scan := by
  induction sizes with
  | nil => exact ⟨_, rfl⟩
  | cons ds sizes ih =>
      obtain ⟨out, -, hout, -⟩ := answered_filtered Programs.save
        [memcmp Known.saveObligationMarketOffset Known.saveMainMarket, dataSize ds]
      unfold scanSaveSizes
      dsimp only
      rw [Call.answered_bind, hout, Outcome.ok_bind]
      dsimp only
      split_ifs
      · exact ih
      · exact ⟨_, rfl⟩

lemma pk_klendMainMarket : pk standardCodecs Known.klendMainMarket = .ok mainMarket := by
  have hread : Pubkey.fromBase58 .bitcoin Known.klendMainMarket = some mainMarket := by
    rw [Pubkey.fromBase58, decode_klendMainMarket, Option.bind_some, Pubkey.fromBytes_bytes]
  show Bootstrap.orDecode (Pubkey.fromBase58 .bitcoin Known.klendMainMarket) _ = _
  rw [hread]
  rfl

lemma exists_pk (text : String) (h : (Pubkey.fromBase58 .bitcoin text).isSome = true) :
    ∃ k, pk standardCodecs text = .ok k := by
  obtain ⟨k, hk⟩ := Option.isSome_iff_exists.1 h
  refine ⟨k, ?_⟩
  show Bootstrap.orDecode (Pubkey.fromBase58 .bitcoin text) _ = _
  rw [hk]
  rfl

/-- The market itself is not held. -/
lemma find_mainMarket :
    (held.find? fun a => a.pubkey = mainMarket) = none := by
  have hother : vaultAccount.pubkey ≠ mainMarket ∧ overdrawnAccount.pubkey ≠ mainMarket ∧
      saveMarketAccount.pubkey ≠ mainMarket := by
    decide +kernel
  simp [held, hother]

lemma answered_getSlot_smallMainnet : Call.answered heldAnswers Bootstrap.getSlot = .ok 42 := rfl

lemma answered_getHealth_smallMainnet :
    Call.answered heldAnswers Bootstrap.getHealth.attempt = .ok (.ok "ok") := rfl

lemma answered_getMultipleAccounts_smallMainnet (keys : List Pubkey) :
    Call.answered heldAnswers (Bootstrap.getMultipleAccounts standardCodecs keys) =
      .ok ((FixtureBootstrap.getMultipleAccounts ⟨held⟩ keys).map
        (Option.map (RawAccount.atSlot 42))) :=
  answered_getMultipleAccounts (holds_serve 42 held keys [])

/-- Without the market there are no elevation groups. -/
lemma elevationMap_none_cons (others : List (Option RawAccount)) :
    elevationMap (none :: others)[0]?.join = .ok (∅, []) := rfl

lemma exists_beforeObligations_smallMainnet :
    ∃ f, Call.answered heldAnswers (beforeObligations standardCodecs) = .ok f ∧
      f.reserves.map = vaultMap ∧ f.groups = ∅ := by
  obtain ⟨gaps, hreserves⟩ := answered_scanReserves_smallMainnet
  obtain ⟨group, hgroup⟩ := exists_pk Known.marginfiMainGroup (by decide +kernel)
  obtain ⟨save, hsave⟩ := exists_pk Known.saveMainMarket (by decide +kernel)
  have hknown := answered_getMultipleAccounts_smallMainnet [mainMarket, group, save]
  rw [FixtureBootstrap.getMultipleAccounts, List.map_cons, find_mainMarket, List.map_cons,
    Option.map_none] at hknown
  generalize List.map (Option.map (RawAccount.atSlot 42)) _ = others at hknown
  unfold beforeObligations
  rw [Call.answered_bind, answered_getSlot_smallMainnet, Outcome.ok_bind, Call.answered_bind,
    answered_getHealth_smallMainnet, Outcome.ok_bind]
  dsimp only
  rw [pk_klendMainMarket, hgroup, hsave, Call.answered_bind, Call.answered_ret, Outcome.ok_bind,
    Call.answered_bind, Call.answered_ret, Outcome.ok_bind, Call.answered_bind,
    Call.answered_ret, Outcome.ok_bind, Call.answered_bind, hknown, Outcome.ok_bind,
    elevationMap_none_cons, Call.answered_bind, Call.answered_ret, Outcome.ok_bind,
    Call.answered_bind, hreserves, Outcome.ok_bind]
  exact ⟨_, rfl, rfl, rfl⟩

/-- Discovery over any endpoints reports the obligation. -/
lemma exists_report_smallMainnet {urls : List String} {p : RotatingRpcPool}
    (hp : RotatingRpcPool.fromUrls urls = .ok p) :
    ∃ report d, (discover standardCodecs smallMainnet p).2 = .ok report ∧
      report.liquidatableCandidates = [d] ∧ d.health = some (8 / 9) := by
  obtain ⟨f, hfound, hmap, hgroups⟩ := exists_beforeObligations_smallMainnet
  obtain ⟨scan, d, hscan, hcandidates, hhealth⟩ := answered_scanObligations_smallMainnet
  obtain ⟨marginfi, hmarginfi⟩ := exists_scanMarginfi_smallMainnet
  obtain ⟨saveScan, hsave⟩ := exists_scanSaveSizes_smallMainnet Known.saveObligationDatasizes
  obtain ⟨make, hmake, hreport⟩ : ∃ make,
      Call.answered heldAnswers (discoverMainnet standardCodecs) = .ok make ∧
      ∀ host stats, (make host stats).liquidatableCandidates = [d] := by
    unfold discoverMainnet
    rw [Call.answered_bind, hfound, Outcome.ok_bind, hmap, hgroups, Call.answered_bind, hscan,
      Outcome.ok_bind, Call.answered_bind, hmarginfi, Outcome.ok_bind]
    dsimp only
    rw [Call.answered_bind, hsave, Outcome.ok_bind]
    exact ⟨_, rfl, fun _ _ => hcandidates⟩
  -- The pool does not matter to what the calls come to.
  have hrun : (RequestProg.run (Session.post smallMainnet) ⟨p, []⟩
      (discoverMainnet standardCodecs)).2 = .ok make :=
    (Session.run_post_steady (RotatingRpcPool.sound_fromUrls hp)
      (RotatingRpcPool.configured_fromUrls hp) _).1.trans hmake
  have hends : ∃ host stats, (discover standardCodecs smallMainnet p).2 =
      .ok (make host stats) := by
    rw [discover, hrun]
    exact ⟨_, _, rfl⟩
  obtain ⟨host, stats, hends⟩ := hends
  exact ⟨make host stats, d, hends, hreport host stats, hhealth⟩

end UnderWater

end Discovery

end Grokbotliq
