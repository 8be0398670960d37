import Grokbotliq.Core.Instruction
import Grokbotliq.Streaming.Discovery
import Grokbotliq.Streaming.RpcCalls
import Grokbotliq.Streaming.RpcPool

/-!
# Mainnet discovery

A read-only pass over the three protocols: the known market accounts, klend's reserves and
obligations, marginfi's accounts and Save's obligations, each asked for in turn.  A request that
fails leaves a gap in the report, with the text of its error, unless nothing can be said without
its answer.  Discovery is a program of requests: what it reports depends on the pool through the
answers, the current host and the statistics only.

The loop over the obligations is a fold whose accumulators are tallies of the obligations
classified so far (`Tallies`); one obligation is one step of `Tallies.add`, and `tallies_foldlM`
is the loop.
-/

namespace Grokbotliq

open Kamino

/-! ## Known accounts -/

namespace Known

def klendMainMarket : String := "7u3HeHxYDLhnCoErrtycNokbQYbWGzLs6JSDqGAv5PfF"

def marginfiMainGroup : String := "4qp6Fx6tnZkY5Wropq9wUYgtFxXKwE6viZxFHg3rdAG8"

def saveMainMarket : String := "4UpD2fh7xH3VP9QQaXtsS1YY3bxzWhtfpks7FatyKvdY"

/-- Save / Solend classic obligation account sizes. -/
def saveObligationDatasizes : List ℕ := [1300, 916, 1192]

def saveObligationMarketOffset : ℕ := 10

def klendObligationDatasize : ℕ := 3344

def klendReserveDatasize : ℕ := 8624

def marginfiAccountDisc : List UInt8 := [67, 178, 130, 109, 126, 114, 28, 42]

def marginfiBankDisc : List UInt8 := [142, 49, 166, 242, 50, 66, 97, 188]

def klendProgramIdMainnet : String := "KLend2g3cP87fffoy8q1mQqGKjrxjC8boSyAYavgmjD"

def marginfiProgramIdMainnet : String := "MFv2hWf31Z9kbCa1snEPYctwafyhdvnV7FZnsebVacA"

def saveProgramIdMainnet : String := "So1endDq2YkqhipRh3WViPa8hdiSpxWy6z3Z6tMCpAo"

end Known

/-! ## The report -/

structure KlendHealthStats where
  obligationsDecoded : ℕ
  withDebt : ℕ
  liquidatable : ℕ
  belowMaintenance : ℕ
  missingReservePrice : ℕ
  sampleHealthy : List DiscoveredAccount
  minHealth : Option ℚ
  maxHealth : Option ℚ
  medianHealth : Option ℚ
  p10Health : Option ℚ

structure DiscoveryReport where
  slot : UInt64
  health : String
  endpointHost : String
  endpointStats : List EndpointStats
  programIds : Json
  knownMarkets : Json
  accountsScanned : ℕ
  byProtocol : Json
  candidates : List DiscoveredAccount
  /-- Liquidatable / below-maintenance only. -/
  liquidatableCandidates : List DiscoveredAccount
  klendHealthStats : Option KlendHealthStats
  gaps : List String

namespace Discovery

def natJson (n : ℕ) : Json := .number (.posInt (UInt64.ofNat n))

def memcmp (offset : ℕ) (bytes : String) : Json :=
  .object [("memcmp", .object [("offset", natJson offset), ("bytes", .string bytes)])]

def dataSize (n : ℕ) : Json := .object [("dataSize", natJson n)]

/-- `pk`. -/
def pk (c : Codecs) (s : String) : Outcome BootstrapError Pubkey :=
  Bootstrap.orDecode (Pubkey.fromBase58 c.toBase58 s) ("bad pubkey " ++ s)

def shortPk (c : Codecs) (k : Pubkey) : String := shortText (k.toBase58 c.toBase58)

/-- Nearest rank, halves rounded up. -/
def percentile (sorted : List ℚ) (p : ℚ) : Option ℚ :=
  if sorted = [] then none
  else sorted[min ⌊p * (sorted.length - 1) + 1 / 2⌋₊ (sorted.length - 1)]?

/-! ### The known markets -/

def knownLabels : List String := ["klend_main_market", "marginfi_main_group", "save_main_market"]

def marketJson (c : Codecs) (a : RawAccount) : Json :=
  .object
    [("data_len", natJson a.data.length), ("lamports", .number (.posInt a.lamports)),
      ("owner_short", .string (shortPk c a.owner)), ("pubkey_short", .string (shortPk c a.pubkey))]

/-- The known accounts under their labels, and a gap for each that is missing. -/
def knownMarkets (c : Codecs) (accts : List (Option RawAccount)) : Json × List String :=
  let labelled := knownLabels.zipIdx.map fun label => (label.1, accts[label.2]?.join)
  (.object (labelled.map fun l => (l.1, l.2.elim .null (marketJson c))),
    (labelled.filter fun l => l.2.isNone).map fun l => l.1 ++ " missing on-chain")

/-- The elevation groups of the main market, with a gap where they do not decode. -/
def elevationMap (market : Option RawAccount) :
    Outcome BootstrapError (KeyMap UInt8 ElevationGroupParams × List String) :=
  match market with
  | none => .ok (∅, [])
  | some mkt =>
    match decodeLendingMarketElevationGroups mkt.data with
    | .ok map => .ok (map, [])
    | .err e => .ok (∅, ["klend elevation groups: " ++ e.display])
    | .panic => .panic

/-! ### Klend's reserves -/

/-- Reserves that do not decode are left out. -/
def reserveStep (map : Reserves) (a : RawAccount) : Outcome BootstrapError Reserves :=
  match decodeReserveLiveRisk a.pubkey a.data with
  | .ok r => .ok (map.insert a.pubkey r)
  | .err _ => .ok map
  | .panic => .panic

structure ReserveScan where
  count : ℕ
  map : Reserves
  gaps : List String

def scanReserves (c : Codecs) : Call ReserveScan := do
  let filters := [dataSize Known.klendReserveDatasize, memcmp 32 Known.klendMainMarket]
  match ← (Bootstrap.getProgramAccountsFiltered c Programs.klend filters).attempt with
  | .ok accts =>
    let map ← Call.ret (accts.foldlM reserveStep ∅)
    let priced := (map.entries.filter fun e => 0 < e.2.marketPriceSf).length
    return ⟨accts.length, map,
      if priced = 0 then ["klend reserves decoded but all market_price_sf=0"] else []⟩
  | .error e => return ⟨0, ∅, ["klend reserve GPA: " ++ e.display]⟩

/-! ### Klend's obligations -/

def Note.isMissingReserves : Note → Bool
  | .missingReserves _ => true
  | _ => false

/-- The accumulators of the loop over the obligations. -/
structure KlendScan where
  decoded : ℕ
  withDebt : ℕ
  liquidatable : ℕ
  belowMaint : ℕ
  missingPx : ℕ
  healths : List ℚ
  sampleHealthy : List DiscoveredAccount
  liquidatableCandidates : List DiscoveredAccount

def isLiq (d : DiscoveredAccount) : Bool :=
  d.band == some "CRITICAL" || d.notes.contains .liquidatable

def isBelowMaintenance (d : DiscoveredAccount) : Bool := d.notes.contains .belowMaintenance

def hasDebt (d : DiscoveredAccount) : Bool := d.notes.contains (.hasDebt true)

namespace KlendScan

def empty : KlendScan := ⟨0, 0, 0, 0, 0, [], [], []⟩

/-- One classified obligation: counted, and kept as a candidate or as a healthy sample.  The
compact list of scanned accounts is filled and never read, and is left out. -/
def add (s : KlendScan) (d : DiscoveredAccount) : KlendScan where
  decoded := s.decoded + 1
  withDebt := if hasDebt d then s.withDebt + 1 else s.withDebt
  liquidatable := if isLiq d then s.liquidatable + 1 else s.liquidatable
  belowMaint := if !isLiq d && isBelowMaintenance d then s.belowMaint + 1 else s.belowMaint
  missingPx := if d.notes.any Note.isMissingReserves then s.missingPx + 1 else s.missingPx
  healths := s.healths ++ d.health.toList
  sampleHealthy :=
    if !isLiq d && !isBelowMaintenance d && s.sampleHealthy.length < 8 && d.health.isSome &&
      hasDebt d then s.sampleHealthy ++ [d] else s.sampleHealthy
  liquidatableCandidates :=
    if isLiq d then s.liquidatableCandidates ++ [d] else s.liquidatableCandidates

def step (c : Codecs) (reserves : Option Reserves) (groups : ElevationGroups) (s : KlendScan)
    (a : RawAccount) : Outcome BootstrapError KlendScan :=
  match classifyKlendObligationFull c.toBase58 a.pubkey a.data reserves groups with
  | .ok d => .ok (s.add d)
  | .panic => .panic

/-- `f64::MAX`, which stands for the health of a candidate that has none. -/
def f64Max : ℚ := (2 ^ 53 - 1) * 2 ^ 971

/-- Most unhealthy first. -/
def ranked (candidates : List DiscoveredAccount) : List DiscoveredAccount :=
  candidates.mergeSort fun a b => a.health.getD f64Max ≤ b.health.getD f64Max

def stats (s : KlendScan) : KlendHealthStats :=
  let healths := s.healths.mergeSort fun a b => a ≤ b
  { obligationsDecoded := s.decoded
    withDebt := s.withDebt
    liquidatable := s.liquidatable
    belowMaintenance := s.belowMaint
    missingReservePrice := s.missingPx
    sampleHealthy := s.sampleHealthy
    minHealth := healths.head?
    maxHealth := healths.getLast?
    medianHealth := percentile healths (1 / 2)
    p10Health := percentile healths (1 / 10) }

def gaps (s : KlendScan) : List String :=
  if s.liquidatable = 0 then
    ["klend: zero liquidatable in scan window (" ++ toString s.decoded ++ " obligations, " ++
      toString s.withDebt ++
      " with debt); sample healthy stats attached — not pretending CRITICAL"]
  else []

/-- What the loop has after the obligations `ds`. -/
structure Tallies (s : KlendScan) (ds : List DiscoveredAccount) : Prop where
  decoded : s.decoded = ds.length
  withDebt : s.withDebt = ds.countP hasDebt
  liquidatable : s.liquidatable = ds.countP isLiq
  healths : s.healths = ds.filterMap DiscoveredAccount.health
  candidates : s.liquidatableCandidates = ds.filter isLiq
  samples : s.sampleHealthy.length ≤ 8

lemma tallies_empty : empty.Tallies [] := ⟨rfl, rfl, rfl, rfl, rfl, Nat.zero_le 8⟩

lemma Tallies.add {s : KlendScan} {ds : List DiscoveredAccount} (h : s.Tallies ds)
    (d : DiscoveredAccount) : (s.add d).Tallies (ds ++ [d]) where
  decoded := by
    rw [List.length_append, List.length_singleton, ← h.decoded]
    rfl
  withDebt := by
    rw [List.countP_append, List.countP_singleton, ← h.withDebt]
    show (if hasDebt d then s.withDebt + 1 else s.withDebt) = _
    split <;> rfl
  liquidatable := by
    rw [List.countP_append, List.countP_singleton, ← h.liquidatable]
    show (if isLiq d then s.liquidatable + 1 else s.liquidatable) = _
    split <;> rfl
  healths := by
    rw [List.filterMap_append, ← h.healths]
    show s.healths ++ d.health.toList = s.healths ++ [d].filterMap DiscoveredAccount.health
    cases hhealth : d.health <;> simp [hhealth]
  candidates := by
    rw [List.filter_append, List.filter_singleton, ← h.candidates]
    show (if isLiq d then s.liquidatableCandidates ++ [d] else s.liquidatableCandidates) = _
    cases isLiq d <;> simp
  samples := by
    show (if _ then s.sampleHealthy ++ [d] else s.sampleHealthy).length ≤ 8
    split
    · rename_i hroom
      have hlt : s.sampleHealthy.length < 8 := by
        simp only [Bool.and_eq_true, decide_eq_true_eq] at hroom
        exact hroom.1.1.2
      rw [List.length_append, List.length_singleton]
      exact hlt
    · exact h.samples

/-- The loop classifies each account and tallies all of them. -/
lemma tallies_foldlM (c : Codecs) (reserves : Option Reserves) (groups : ElevationGroups)
    (accts : List RawAccount) {s t : KlendScan} {ds : List DiscoveredAccount} (hs : s.Tallies ds)
    (h : accts.foldlM (step c reserves groups) s = .ok t) :
    ∃ ds', List.Forall₂ (fun a d =>
        classifyKlendObligationFull c.toBase58 a.pubkey a.data reserves groups = .ok d) accts ds' ∧
      t.Tallies (ds ++ ds') := by
  induction accts generalizing s ds with
  | nil =>
      obtain rfl := Outcome.ok.inj h
      exact ⟨[], .nil, by rwa [List.append_nil]⟩
  | cons a accts ih =>
      rw [List.foldlM_cons] at h
      obtain ⟨s', hstep, hrest⟩ := Outcome.bind_eq_ok.1 h
      unfold step at hstep
      -- One account that does not classify ends the scan.
      split at hstep
      · rename_i d hclassify
        obtain rfl := Outcome.ok.inj hstep
        obtain ⟨ds', hall, htallies⟩ := ih (hs.add d) hrest
        exact ⟨d :: ds', .cons hclassify hall, by rwa [List.append_assoc] at htallies⟩
      · exact absurd hstep (by simp)

/-- **What a scan reports.**  A scan that does not panic has classified every account; it reports
the gap exactly when it keeps no candidate. -/
theorem scan_tallies (c : Codecs) (reserves : Option Reserves) (groups : ElevationGroups)
    (accts : List RawAccount) {t : KlendScan}
    (h : accts.foldlM (step c reserves groups) empty = .ok t) :
    (∃ ds, List.Forall₂ (fun a d =>
        classifyKlendObligationFull c.toBase58 a.pubkey a.data reserves groups = .ok d) accts ds ∧
      t.Tallies ds) ∧ (t.gaps = [] ↔ t.liquidatableCandidates ≠ []) := by
  obtain ⟨ds, hall, htallies⟩ := tallies_foldlM c reserves groups accts tallies_empty h
  refine ⟨⟨ds, hall, htallies⟩, ?_⟩
  have hcount : t.liquidatable = t.liquidatableCandidates.length := by
    rw [htallies.liquidatable, htallies.candidates, List.countP_eq_length_filter, List.nil_append]
  rw [gaps, ← List.length_pos_iff, ← hcount]
  by_cases hnone : t.liquidatable = 0
  · rw [if_pos hnone, hnone]
    exact iff_of_false (List.cons_ne_nil _ _) (Nat.lt_irrefl 0)
  · rw [if_neg hnone]
    exact iff_of_true rfl (Nat.pos_of_ne_zero hnone)

end KlendScan

/-- What the scan of one protocol adds to the report. -/
structure ProtocolScan where
  count : ℕ
  gaps : List String

structure ObligationScan extends ProtocolScan where
  liquidatableCandidates : List DiscoveredAccount
  stats : Option KlendHealthStats

def scanObligations (c : Codecs) (reserves : Reserves)
    (groups : KeyMap UInt8 ElevationGroupParams) : Call ObligationScan := do
  let filters := [dataSize Known.klendObligationDatasize, memcmp 32 Known.klendMainMarket]
  match ← (Bootstrap.getProgramAccountsFiltered c Programs.klend filters).attempt with
  | .ok accts =>
    let reservesRef := if reserves.entries = [] then none else some reserves
    let elevRef := if groups.entries = [] then none else some groups
    let scan ← Call.ret (accts.foldlM (KlendScan.step c reservesRef elevRef) .empty)
    return ⟨⟨accts.length, scan.gaps⟩,
      KlendScan.ranked scan.liquidatableCandidates, some scan.stats⟩
  | .error e => return ⟨⟨0, ["klend obligation GPA: " ++ e.display]⟩, [], none⟩

/-! ### Marginfi and Save -/

/-- Marginfi's accounts, or its banks where the accounts are refused. -/
def scanMarginfi (c : Codecs) : Call (ProtocolScan × ℕ) := do
  let filters := [memcmp 0 (c.encode Known.marginfiAccountDisc),
    memcmp 8 Known.marginfiMainGroup]
  match ← (Bootstrap.getProgramAccountsFiltered c Programs.marginfi filters).attempt with
  | .ok accts => return (⟨accts.length, []⟩, 0)
  | .error e =>
    let gap := "marginfi account GPA: " ++ e.display
    let bankFilters := [memcmp 0 (c.encode Known.marginfiBankDisc)]
    match ← (Bootstrap.getProgramAccountsFiltered c Programs.marginfi bankFilters).attempt with
    | .ok accts => return (⟨0, [gap]⟩, accts.length)
    | .error e2 => return (⟨0, [gap, "marginfi bank GPA: " ++ e2.display]⟩, 0)

/-- The loop over Save's data sizes, up to the first with accounts. -/
def scanSaveSizes (c : Codecs) : List ℕ → Call ProtocolScan
  | [] => return ⟨0, ["Save: no obligation GPA hit for dataSizes 1300/916/1192 @ market offset" ++
      " 10; market account still fetched"]⟩
  | ds :: sizes => do
    let filters := [memcmp Known.saveObligationMarketOffset Known.saveMainMarket, dataSize ds]
    match ← (Bootstrap.getProgramAccountsFiltered c Programs.save filters).attempt with
    | .ok accts =>
      if accts = [] then scanSaveSizes c sizes
      else
        let gap := "Save: pinned obligation dataSize=" ++ toString ds ++ ", market offset=" ++
          toString Known.saveObligationMarketOffset
        return ⟨accts.length, [gap]⟩
    | .error e =>
      let rest ← scanSaveSizes c sizes
      return { rest with
        gaps := ("save GPA dataSize=" ++ toString ds ++ ": " ++ e.display) :: rest.gaps }

/-! ### The whole pass -/

/-- What discovery has found when it comes to the obligations. -/
structure Found where
  slot : UInt64
  health : String
  knownAccts : List (Option RawAccount)
  markets : Json
  groups : KeyMap UInt8 ElevationGroupParams
  reserves : ReserveScan
  gaps : List String

/-- `discover_mainnet` up to klend's reserves. -/
def beforeObligations (c : Codecs) : Call Found := do
  let slot ← Bootstrap.getSlot
  let (health, healthGaps) := match ← Bootstrap.getHealth.attempt with
    | .ok h => (h, [])
    | .error e => ("unknown", ["getHealth failed: " ++ e.display])
  let klendMarket ← Call.ret (pk c Known.klendMainMarket)
  let mfiGroup ← Call.ret (pk c Known.marginfiMainGroup)
  let saveMarket ← Call.ret (pk c Known.saveMainMarket)
  let knownAccts ← Bootstrap.getMultipleAccounts c [klendMarket, mfiGroup, saveMarket]
  let (markets, marketGaps) := knownMarkets c knownAccts
  let (groups, groupGaps) ← Call.ret (elevationMap knownAccts[0]?.join)
  let reserves ← scanReserves c
  return ⟨slot, health, knownAccts, markets, groups, reserves,
    healthGaps ++ marketGaps ++ groupGaps ++ reserves.gaps⟩

/-- `discover_mainnet`, up to the host and the statistics of the pool, which the report takes
last. -/
def discoverMainnet (c : Codecs) : Call (String → List EndpointStats → DiscoveryReport) := do
  let found ← beforeObligations c
  let obligations ← scanObligations c found.reserves.map found.groups
  let (marginfi, banks) ← scanMarginfi c
  let saveScan ← scanSaveSizes c Known.saveObligationDatasizes
  let candidates := obligations.liquidatableCandidates
  let candidateGaps :=
    if candidates = [] then
      ["no liquidatable/below-maintenance Kamino obligations — candidates list is empty" ++
        " (see klend_health_stats.sample_healthy)"]
    else []
  let pending := "Marginfi balances / Save reserve vault zero-copy still incomplete; " ++
    "Kamino live health uses deposits/borrows + reserve marketPriceSf + liqThreshold"
  return fun endpointHost endpointStats =>
    { slot := found.slot
      health := found.health
      endpointHost := endpointHost
      endpointStats := endpointStats
      programIds := .object
        [("klend", .string (shortText Known.klendProgramIdMainnet)),
          ("marginfi", .string (shortText Known.marginfiProgramIdMainnet)),
          ("save", .string (shortText Known.saveProgramIdMainnet))]
      knownMarkets := found.markets
      accountsScanned := obligations.count + found.reserves.count + marginfi.count + banks +
        saveScan.count + (found.knownAccts.filter Option.isSome).length
      byProtocol := .object
        [("kamino_obligations", natJson obligations.count),
          ("kamino_reserves", natJson found.reserves.count),
          ("marginfi_accounts", natJson marginfi.count), ("marginfi_banks", natJson banks),
          ("save_accounts", natJson saveScan.count)]
      candidates := candidates.take 32
      liquidatableCandidates := candidates
      klendHealthStats := obligations.stats
      gaps := found.gaps ++ obligations.gaps ++ marginfi.gaps ++ saveScan.gaps ++ [pending] ++
        candidateGaps }

end Discovery

end Grokbotliq
