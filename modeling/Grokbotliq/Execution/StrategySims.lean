import Grokbotliq.Execution.Engine
import Grokbotliq.Execution.ShadowAccounts
import Grokbotliq.Execution.VersionedTx
import Grokbotliq.Framework.TextSlice

/-!
# The simulations of the mainnet shadow

The first three candidates that are hot are prepared, planned, run through the engine in dry-run
mode, encoded for the fee payer, and simulated; every round leaves one entry of the report.
`strategy_sims` says what such a run comes to: the engine refuses nothing and broadcasts nothing,
there is an entry for each candidate of a known protocol, what is simulated reads back as the plan
with one signature slot, and the run panics exactly when a read of a candidate does or the cut of a
log to show falls inside a character.

The engine is followed by one invariant, `Quiet n`: after `n` dry runs it is closed, nothing is in
flight, and its window holds `n` dollars at most, so that it refuses none of the three candidates.
With the engine out of the way the loop is the list of entries of the known candidates, each
computed on its own (`entryOf`), and `foldlM_simStep` says so by induction on the candidates.
-/

namespace Grokbotliq.Execution

open Kamino Discovery Bootstrap

/-! ## The logs to show -/

/-- `trim`: a log of more than 240 bytes is cut. -/
def trimLog (log : String) : Outcome Empty String :=
  if 240 < Text.byteLen log.toList then do
    let head ← Text.slice log 0 240
    return head ++ "…"
  else .ok log

/-- The logs shown before and after the gap; all of them where there are few. -/
def shownLogs (logs : List String) : List String × List String :=
  if logs.length ≤ 28 then (logs, []) else (logs.take 12, (logs.reverse.take 14).reverse)

/-- Head and tail, so that the creations and a failing liquidation are both visible. -/
def logsTrimmed (logs : List String) : Outcome Empty (List String) :=
  if logs.length ≤ 28 then logs.mapM trimLog
  else do
    let head ← (logs.take 12).mapM trimLog
    let tail ← (logs.reverse.take 14).reverse.mapM trimLog
    return head ++ ["…"] ++ tail

/-! ## Candidates -/

/-- The protocol a candidate names. -/
def knownProtocol (protocol : String) : Option Protocol :=
  if protocol = "Kamino" then some .kamino
  else if protocol = "Project0" then some .project0
  else if protocol = "Save" then some .save
  else none

def shadowStrategy : Protocol → FundingStrategy
  | .kamino => .kaminoFlashBorrow
  | .save => .saveFlashLoan
  | .project0 => .project0Receivership

/-- The candidates to simulate: those the scan found liquidatable, or else those of the report
that look so.  A healthy obligation with stale values is not promoted. -/
def hotCandidates (liquidatable candidates : List DiscoveredAccount) : List DiscoveredAccount :=
  if liquidatable ≠ [] then liquidatable
  else candidates.filter fun d =>
    d.notes.contains .liquidatable ||
      (d.band == some "CRITICAL" && d.decode == "live_health" &&
        (d.health.map fun x => decide (x < 1)).getD false)

/-! ## A round -/

/-- What a round reads: the node's answers to the reads of the account set, the swaps of the
environment, the clock, and the node's answer to the simulation. -/
structure Round where
  reads : AccountReads
  swaps : JupiterQuoteBlob
  checkedAt : ℕ
  begunAt : ℕ
  simulation : Json → Except BootstrapError Json

/-- The simulation of a transaction, without checking its signatures. -/
def Round.simulate (round : Round) (txBase64 : String) : Outcome BootstrapError SimulateResult :=
  Call.answered round.simulation (simulateTransaction txBase64 false)

/-- Its answer is read without a panic. -/
lemma Round.simulate_ne_panic (round : Round) (txBase64 : String) :
    round.simulate txBase64 ≠ .panic := by
  unfold Round.simulate simulateTransaction
  rw [Call.answered_request]
  split
  · exact fun h => nomatch h
  · exact fun h => nomatch h

/-- The texts of the encoder's errors. -/
def VtxError.display : VtxError → String
  | .emptyInstructions => "no instructions"
  | .tooManyKeys n => "too many account keys (" ++ toString n ++ ") for u8 indices"
  | .missingKey => "account key missing from message table"

section Rounds

variable (c : Codecs) (encodeBase64 : List UInt8 → String) (h : PdaHash)
  (order : IterationOrder Pubkey KeyFlags) (feePayer : Pubkey)
  (feePayerShort feePayerSource : String) (blockhash : Blockhash)

/-- A planned candidate: its account set with the notes on it, and its instructions. -/
structure PlannedCandidate where
  accounts : PlanAccountSet
  notes : List String
  built : PlannedIxs

def PlannedCandidate.wireIxs (p : PlannedCandidate) : List Instruction :=
  p.built.labeled.map LabeledIx.ix

def planCandidate (round : Round) (cand : DiscoveredAccount) (protocol : Protocol) :
    Outcome Empty PlannedCandidate := do
  let (accounts, notes) ←
    buildPlanAccountsForCandidate c h round.reads feePayer cand.pubkey protocol
  return ⟨accounts, notes, buildStrategyIxs h protocol (shadowStrategy protocol) accounts 1000000
    round.swaps⟩

def encodeFailedEntry (cand : DiscoveredAccount) (p : PlannedCandidate) (e : VtxError) : Json :=
  .object
    [("account", .string cand.pubkeyShort), ("protocol", .string cand.protocol),
      ("rpc_ok", .bool false), ("ok", .bool false),
      ("error", .string ("vtx encode: " ++ e.display)),
      ("plan_ix_count", natJson p.wireIxs.length), ("strategy_vtx", .bool false),
      ("account_notes", .array (p.notes.map Json.string))]

def vtxNote : String := "strategy VersionedTransaction-encoded (v0, unsigned dummy sigs)"

def simulatedEntry (cand : DiscoveredAccount) (protocol : Protocol) (p : PlannedCandidate)
    (sim : SimulateResult) (logs : List String) : Json :=
  .object
    [("account", .string cand.pubkeyShort), ("protocol", .string cand.protocol),
      ("rpc_ok", .bool true), ("ok", .bool sim.err.isNone), ("err", sim.err.getD .null),
      ("units_consumed", (sim.unitsConsumed.map fun n => .number (.posInt n)).getD .null),
      ("log_count", natJson sim.logs.length),
      ("logs_trimmed", .array (logs.map Json.string)),
      ("plan_ix_count", natJson p.wireIxs.length),
      ("fee_payer", .string feePayerShort),
      ("fee_payer_source", .string feePayerSource),
      ("funding_strategy", .string (shadowStrategy protocol).asStr),
      ("used_flash_builder", .bool p.built.usedFlashBuilder),
      ("from_live_decode", .bool p.accounts.fromLiveDecode), ("strategy_vtx", .bool true),
      ("note", .string vtxNote), ("account_notes", .array (p.notes.map Json.string)),
      ("plan_ix_labels", .array (p.built.labeled.map fun l => .string l.label))]

def simulateFailedEntry (cand : DiscoveredAccount) (p : PlannedCandidate) (e : BootstrapError) :
    Json :=
  .object
    [("account", .string cand.pubkeyShort), ("protocol", .string cand.protocol),
      ("rpc_ok", .bool false), ("ok", .bool false), ("error", .string e.display),
      ("plan_ix_count", natJson p.wireIxs.length), ("strategy_vtx", .bool true),
      ("note", .string vtxNote), ("account_notes", .array (p.notes.map Json.string))]

/-- The part of a round after the dry run: encoded and simulated. -/
def simulatePlanned (round : Round) (cand : DiscoveredAccount) (protocol : Protocol)
    (p : PlannedCandidate) : Outcome Empty Json :=
  match encodeVersionedTxBytes order p.wireIxs feePayer blockhash with
  | .err e => .ok (encodeFailedEntry cand p e)
  | .panic => .panic
  | .ok bytes =>
    match round.simulate (encodeBase64 bytes) with
    | .panic => .panic
    | .err e => .ok (simulateFailedEntry cand p e)
    | .ok sim => do
      let logs ← logsTrimmed sim.logs
      return simulatedEntry feePayerShort feePayerSource cand protocol p sim logs

/-- What goes through the engine.  The account is a label there; the source writes the
candidate's short key. -/
def preparedTx (cand : DiscoveredAccount) (protocol : Protocol) (p : PlannedCandidate) :
    PreparedTx where
  label := "mainnet-shadow-" ++ cand.pubkeyShort
  protocol := protocol
  account := p.accounts.obligation
  notionalUsdMicro := 1000000
  expectedProfitUsdMicro := 0
  ixs := p.built.labeled.map LabeledIx.label
  instructions := p.wireIxs
  fundingStrategy := some (shadowStrategy protocol).asStr

/-- Why a run ends early. -/
inductive ShadowAbort
  | exec (e : ExecError)
  | broadcast
  deriving DecidableEq

structure SimRun where
  engine : ExecutionEngine
  planned : ℕ
  results : List Json

def liftEmpty {ε α : Type} (x : Outcome Empty α) : Outcome ε α :=
  match x with
  | .ok a => .ok a
  | .panic => .panic

/-- The body of the loop over the hot candidates. -/
def simStep (s : SimRun) (entry : DiscoveredAccount × Round) : Outcome ShadowAbort SimRun :=
  match knownProtocol entry.1.protocol with
  | none => .ok s
  | some protocol => do
    let p ← liftEmpty (planCandidate c h feePayer entry.2 entry.1 protocol)
    let (engine, res) := s.engine.execute (preparedTx entry.1 protocol p) 0 entry.2.checkedAt
      entry.2.begunAt
    match res with
    | .error e => .err (.exec e)
    | .ok res =>
      if res.dryRun = false then .err .broadcast
      else do
        let result ← liftEmpty (simulatePlanned encodeBase64 order feePayer feePayerShort
          feePayerSource blockhash entry.2 entry.1 protocol p)
        return ⟨engine, s.planned + 1, s.results ++ [result]⟩

/-- The engine of the binary: dry run, default limits, fresh counters. -/
def shadowEngine : ExecutionEngine :=
  ⟨⟨true, .conservative⟩, .new .default, .zero⟩

/-- The loop over the first three hot candidates, the `i`-th of them in round `rounds i`. -/
def strategySims (hot : List DiscoveredAccount) (rounds : ℕ → Round) :
    Outcome ShadowAbort SimRun :=
  ((hot.take 3).zipIdx.map fun d => (d.1, rounds d.2)).foldlM
    (simStep c encodeBase64 h order feePayer feePayerShort feePayerSource blockhash)
    ⟨shadowEngine, 0, []⟩

end Rounds

/-! ## Cutting logs

The cut is at a byte and panics inside a character. -/

lemma trimLog_eq_panic_iff {log : String} :
    trimLog log = .panic ↔ Text.Straddles 240 log.toList := by
  have hslice := @Text.slice_zero_eq_panic_iff Empty log 240
  unfold trimLog
  split_ifs with hlong
  · rw [Outcome.bind_eq_panic, hslice, or_iff_right (Nat.not_lt.2 hlong.le)]
    exact or_iff_left (by simp)
  · refine iff_of_false (by simp) ?_
    rintro ⟨pre, c, post, hlog, hbefore, hafter⟩
    rw [hlog, Text.byteLen_append, Text.byteLen_cons] at hlong
    omega

/-- The logs cannot be shown when one that is shown is cut inside a character. -/
lemma logsTrimmed_eq_panic_iff {logs : List String} :
    logsTrimmed logs = .panic ↔
      ∃ log ∈ (shownLogs logs).1 ++ (shownLogs logs).2, Text.Straddles 240 log.toList := by
  simp only [← trimLog_eq_panic_iff, List.mem_append, or_and_right, exists_or]
  unfold logsTrimmed shownLogs
  split_ifs with hfew
  · simp [Outcome.mapM_eq_panic_iff]
  · rw [Outcome.bind_eq_panic, Outcome.mapM_eq_panic_iff]
    cases hhead : (logs.take 12).mapM trimLog with
    | err e => exact e.elim
    | panic =>
        rw [Outcome.mapM_eq_panic_iff] at hhead
        exact iff_of_true (Or.inl hhead) (Or.inl hhead)
    | ok head =>
        refine or_congr_right ?_
        simp [Outcome.bind_eq_panic, Outcome.mapM_eq_panic_iff]

/-! ## The engine of a run

Each plan is a notional of one dollar at no staleness, against the default limits. -/

/-- The engine after `n` dry runs: closed, nothing in flight, every attempt counted as skipped. -/
structure Quiet (n : ℕ) (e : ExecutionEngine) : Prop where
  dryRun : e.config.dryRun = true
  limits : e.risk.limits = .default
  opened : e.risk.opened = false
  paused : e.risk.paused = false
  inFlight : e.risk.inFlight = 0
  load : SlidingWindow.load UInt64.toNat e.risk.rolling.events ≤ n * 1000000
  attempted : e.metrics.liquidationsAttempted = UInt64.ofNat n
  skipped : e.metrics.dryRunSkips = UInt64.ofNat n
  failed : e.metrics.liquidationsFailed = 0

lemma quiet_shadowEngine : Quiet 0 shadowEngine := by
  constructor <;> rfl

/-- Few dollars fit beside what the window holds. -/
lemma Quiet.checkAllow {n : ℕ} {e : ExecutionEngine} (hquiet : Quiet n e) (hn : n < 1000000)
    (now : ℕ) :
    e.risk.checkAllow 1000000 0 now =
      ({ e.risk with rolling := e.risk.rolling.prune now }, .ok ()) := by
  have hload : SlidingWindow.load UInt64.toNat (e.risk.rolling.prune now).events ≤ n * 1000000 :=
    (SlidingWindow.load_le_of_sublist _ List.filter_sublist).trans hquiet.load
  have hsum : (e.risk.rolling.sum now).2.toNat ≤ n * 1000000 := by
    rw [RollingWindow.sum_toNat (hload.trans_lt (by omega))]
    exact hload
  -- With a dollar a plan the window stays within the default limit of two million dollars.
  have hfits : MachineInt.satAddU64 (e.risk.rolling.sum now).2 1000000 ≤ 2000000000000 := by
    have hconst : (2000000000000 : UInt64).toNat = 2000000000000 := by decide
    have hamount : (1000000 : UInt64).toNat = 1000000 := by decide
    rw [MachineInt.satAddU64_le_iff (by rw [hconst]; norm_num), hconst, hamount]
    omega
  have hover : ¬ MachineInt.satAddU64 (e.risk.rolling.sum now).2 1000000 > 2000000000000 :=
    UInt64.not_lt.2 hfits
  unfold CircuitBreaker.checkAllow
  simp only [hquiet.limits, hquiet.opened, hquiet.paused, hquiet.inFlight, RiskLimits.default,
    hover, if_false]
  rfl

/-- One more dry run: accepted, and the engine stays quiet. -/
lemma Quiet.execute {n : ℕ} {e : ExecutionEngine} (hquiet : Quiet n e) (hn : n < 1000000)
    {tx : PreparedTx} (htx : tx.notionalUsdMicro = 1000000) (checkedAt begunAt : ℕ) :
    ∃ e' bid, e.execute tx 0 checkedAt begunAt = (e', .ok ⟨true, true, bid⟩) ∧
      Quiet (n + 1) e' := by
  unfold ExecutionEngine.execute
  simp only [htx, hquiet.checkAllow hn checkedAt, hquiet.dryRun, if_true]
  refine ⟨_, _, rfl, hquiet.dryRun, hquiet.limits, hquiet.opened, hquiet.paused, ?_, ?_, ?_, ?_,
    hquiet.failed⟩
  · show (if e.risk.inFlight + 1 = 0 then (0 : UInt32) else e.risk.inFlight + 1 - 1) = 0
    rw [hquiet.inFlight]
    rfl
  -- Pruning only takes off, and the call adds its dollar.
  · have hload : SlidingWindow.load UInt64.toNat
        ((e.risk.rolling.prune checkedAt).prune begunAt).events ≤ n * 1000000 :=
      (SlidingWindow.load_le_of_sublist _
        (List.filter_sublist.trans List.filter_sublist)).trans hquiet.load
    show SlidingWindow.load UInt64.toNat
      (((e.risk.rolling.prune checkedAt).prune begunAt).events ++ [(begunAt, 1000000)]) ≤ _
    have hamount : SlidingWindow.load UInt64.toNat [(begunAt, 1000000)] = 1000000 := rfl
    rw [SlidingWindow.load_append, hamount]
    omega
  · show e.metrics.liquidationsAttempted + 1 = _
    rw [hquiet.attempted, UInt64.ofNat_add]
    rfl
  · show e.metrics.dryRunSkips + 1 = _
    rw [hquiet.skipped, UInt64.ofNat_add]
    rfl

/-! ## The run -/

section Run

variable (c : Codecs) (encodeBase64 : List UInt8 → String) (h : PdaHash)
  (order : IterationOrder Pubkey KeyFlags) (feePayer : Pubkey)
  (feePayerShort feePayerSource : String) (blockhash : Blockhash)

/-- A candidate in its round, with the protocol it names. -/
abbrev KnownRound := (DiscoveredAccount × Round) × Protocol

def knownRound (entry : DiscoveredAccount × Round) : Option KnownRound :=
  (knownProtocol entry.1.protocol).map fun protocol => (entry, protocol)

/-- Those of the first three hot candidates whose protocol is known. -/
def knownRounds (hot : List DiscoveredAccount) (rounds : ℕ → Round) : List KnownRound :=
  ((hot.take 3).zipIdx.map fun d => (d.1, rounds d.2)).filterMap knownRound

/-- The entry of a candidate on its own. -/
def entryOf (e : KnownRound) : Outcome Empty Json := do
  let p ← planCandidate c h feePayer e.1.2 e.1.1 e.2
  simulatePlanned encodeBase64 order feePayer feePayerShort feePayerSource blockhash e.1.2 e.1.1
    e.2 p

/-- The simulation of the candidate returns a log to show whose cut is inside a character. -/
def CutsLog (e : KnownRound) : Prop :=
  ∃ p bytes sim, planCandidate c h feePayer e.1.2 e.1.1 e.2 = .ok p ∧
    encodeVersionedTxBytes order p.wireIxs feePayer blockhash = .ok bytes ∧
    e.1.2.simulate (encodeBase64 bytes) = .ok sim ∧
    ∃ log ∈ (shownLogs sim.logs).1 ++ (shownLogs sim.logs).2, Text.Straddles 240 log.toList

variable {c encodeBase64 h order feePayer feePayerShort feePayerSource blockhash}

/-- One of the reads of the candidate's account set panics. -/
def CandidatePanics (c : Codecs) (h : PdaHash) (feePayer : Pubkey) (e : KnownRound) : Prop :=
  ReadPanics c h e.1.2.reads feePayer e.1.1.pubkey e.2

lemma planCandidate_eq_panic_iff (e : KnownRound) :
    planCandidate c h feePayer e.1.2 e.1.1 e.2 = .panic ↔ CandidatePanics c h feePayer e := by
  rw [CandidatePanics, ← buildPlanAccountsForCandidate_eq_panic_iff, planCandidate,
    Outcome.bind_eq_panic]
  exact or_iff_left (by simp)

/-- A planned candidate has the fee payer as its liquidator. -/
lemma planCandidate_eq_ok {round : Round} {cand : DiscoveredAccount} {protocol : Protocol}
    {p : PlannedCandidate} (hplan : planCandidate c h feePayer round cand protocol = .ok p) :
    p.accounts.liquidator = feePayer ∧
      p.built = buildStrategyIxs h protocol (shadowStrategy protocol) p.accounts 1000000
        round.swaps := by
  obtain ⟨⟨set, notes⟩, hbuild, hok⟩ := Outcome.bind_eq_ok.1 hplan
  obtain rfl := Outcome.ok.inj hok
  have hends := prepares_buildPlanAccountsForCandidate c h round.reads feePayer cand.pubkey protocol
  rw [hbuild] at hends
  cases hends with
  | fallsBack hpayer hfixture hunread => exact ⟨hpayer, rfl⟩
  | live hread hasked hover => exact ⟨rfl, rfl⟩

lemma encodeVersionedTxBytes_ne_panic (ixs : List Instruction) :
    encodeVersionedTxBytes order ixs feePayer blockhash ≠ .panic := by
  by_cases hixs : ixs = []
  · simp [encodeVersionedTxBytes, hixs]
  · by_cases hkeys : 256 < (buildAccountKeys order feePayer ixs).keys.length
    · simp [encodeVersionedTxBytes, hixs, hkeys]
    · obtain ⟨bytes, hbytes⟩ := @exists_encode_eq_ok order feePayer ixs blockhash hixs
        (Nat.le_of_not_lt hkeys)
      rw [hbytes]
      simp

lemma simulatePlanned_eq_panic_iff {round : Round} {cand : DiscoveredAccount}
    {protocol : Protocol} {p : PlannedCandidate} :
    simulatePlanned encodeBase64 order feePayer feePayerShort feePayerSource blockhash round cand
        protocol p = .panic ↔
      ∃ bytes sim, encodeVersionedTxBytes order p.wireIxs feePayer blockhash = .ok bytes ∧
        round.simulate (encodeBase64 bytes) = .ok sim ∧
        ∃ log ∈ (shownLogs sim.logs).1 ++ (shownLogs sim.logs).2,
          Text.Straddles 240 log.toList := by
  unfold simulatePlanned
  cases hbytes : encodeVersionedTxBytes order p.wireIxs feePayer blockhash with
  | err e => exact iff_of_false (by simp) fun ⟨_, _, hok, _⟩ => nomatch hok
  | panic => exact absurd hbytes (encodeVersionedTxBytes_ne_panic p.wireIxs)
  | ok bytes =>
      cases hsim : round.simulate (encodeBase64 bytes) with
      | panic => exact absurd hsim (round.simulate_ne_panic _)
      | err e =>
          refine iff_of_false (by simp only [hsim]; exact fun hpanic => nomatch hpanic) ?_
          rintro ⟨_, _, hok, hsim', -⟩
          obtain rfl := Outcome.ok.inj hok
          exact nomatch hsim.symm.trans hsim'
      | ok sim =>
          simp only [hsim]
          rw [Outcome.bind_eq_panic, logsTrimmed_eq_panic_iff]
          constructor
          · intro hpanic
            exact ⟨bytes, sim, rfl, hsim, hpanic.resolve_right (by simp)⟩
          · rintro ⟨_, _, hok, hsim', hlog⟩
            obtain rfl := Outcome.ok.inj hok
            obtain rfl := Outcome.ok.inj (hsim.symm.trans hsim')
            exact Or.inl hlog

/-- A candidate's entry is missing only where a read panics or a log cannot be cut. -/
lemma entryOf_eq_panic_iff (e : KnownRound) :
    entryOf c encodeBase64 h order feePayer feePayerShort feePayerSource blockhash e = .panic ↔
      CandidatePanics c h feePayer e ∨ CutsLog c encodeBase64 h order feePayer blockhash e := by
  rw [entryOf, ← planCandidate_eq_panic_iff, CutsLog]
  cases hplan : planCandidate c h feePayer e.1.2 e.1.1 e.2 with
  | err e => exact e.elim
  | panic => exact iff_of_true rfl (Or.inl rfl)
  | ok p =>
      rw [Outcome.ok_bind, simulatePlanned_eq_panic_iff]
      constructor
      · rintro ⟨bytes, sim, hcut⟩
        exact Or.inr ⟨p, bytes, sim, rfl, hcut⟩
      · rintro (hpanic | ⟨p', bytes, sim, hplan', hcut⟩)
        · exact nomatch hpanic
        · obtain rfl := Outcome.ok.inj hplan'
          exact ⟨bytes, sim, hcut⟩

/-- The body of the loop for a known candidate: its entry, on an engine that has dry-run it; the
engine does not refuse it. -/
lemma simStep_known {e : DiscoveredAccount × Round} {protocol : Protocol}
    (hknown : knownProtocol e.1.protocol = some protocol) {s : SimRun}
    (hquiet : Quiet s.planned s.engine) (hfew : s.planned < 1000000) :
    match entryOf c encodeBase64 h order feePayer feePayerShort feePayerSource blockhash
        (e, protocol) with
    | .ok result => ∃ engine,
        simStep c encodeBase64 h order feePayer feePayerShort feePayerSource blockhash s e =
          .ok ⟨engine, s.planned + 1, s.results ++ [result]⟩ ∧
        Quiet (s.planned + 1) engine
    | .panic =>
        simStep c encodeBase64 h order feePayer feePayerShort feePayerSource blockhash s e =
          .panic := by
  rw [simStep, hknown, entryOf]
  cases hplan : planCandidate c h feePayer e.2 e.1 protocol with
  | err e => exact e.elim
  | panic => simp [hplan, liftEmpty]
  | ok p =>
      -- The notional is a dollar, so the engine lets the plan through.
      have hnotional : (preparedTx e.1 protocol p).notionalUsdMicro = 1000000 := rfl
      obtain ⟨engine, bid, hexecute, hquiet'⟩ :=
        hquiet.execute hfew hnotional e.2.checkedAt e.2.begunAt
      simp only [hplan, liftEmpty, Outcome.ok_bind, hexecute, Bool.true_eq_false, if_false]
      cases hentry : simulatePlanned encodeBase64 order feePayer feePayerShort feePayerSource
          blockhash e.2 e.1 protocol p with
      | err e => exact e.elim
      | panic => simp
      | ok result => exact ⟨engine, rfl, hquiet'⟩

/-- The loop is the entries of the known candidates, one after the other: the engine refuses
none of them. -/
lemma foldlM_simStep (es : List (DiscoveredAccount × Round)) {s : SimRun}
    (hquiet : Quiet s.planned s.engine) (hfew : s.planned + es.length ≤ 1000000) :
    match (es.filterMap knownRound).mapM
        (entryOf c encodeBase64 h order feePayer feePayerShort feePayerSource blockhash) with
    | .ok entries => ∃ engine,
        es.foldlM (simStep c encodeBase64 h order feePayer feePayerShort feePayerSource blockhash)
          s = .ok ⟨engine, s.planned + entries.length, s.results ++ entries⟩ ∧
        Quiet (s.planned + entries.length) engine
    | .panic =>
        es.foldlM (simStep c encodeBase64 h order feePayer feePayerShort feePayerSource blockhash)
          s = .panic := by
  -- By induction on the candidates, the state of the loop general: an engine that has only dry-run
  -- keeps doing so while fewer than a million are planned.
  induction es generalizing s with
  | nil => exact ⟨s.engine, by simp, hquiet⟩
  | cons e es ih =>
      rw [List.length_cons] at hfew
      rw [List.foldlM_cons]
      cases hknown : knownProtocol e.1.protocol with
      | none =>
          -- A candidate of an unknown protocol is passed over, on either side.
          have hskip : (e :: es).filterMap knownRound = es.filterMap knownRound := by
            rw [List.filterMap_cons, knownRound, hknown]
            rfl
          rw [simStep, hskip]
          simp only [hknown, Outcome.ok_bind]
          exact ih hquiet (by omega)
      | some protocol =>
          have hkeep : (e :: es).filterMap knownRound =
              (e, protocol) :: es.filterMap knownRound := by
            rw [List.filterMap_cons, knownRound, hknown]
            rfl
          have hstep := @simStep_known c encodeBase64 h order feePayer feePayerShort feePayerSource
            blockhash e protocol hknown s hquiet (by omega)
          rw [hkeep, List.mapM_cons]
          cases hentry : entryOf c encodeBase64 h order feePayer feePayerShort feePayerSource
              blockhash (e, protocol) with
          | err e => exact e.elim
          | panic =>
              rw [hentry] at hstep
              dsimp only at hstep
              rw [hstep]
              simp
          | ok result =>
              rw [hentry] at hstep
              obtain ⟨engine, hstep, hquiet'⟩ := hstep
              have hrest := @ih ⟨engine, s.planned + 1, s.results ++ [result]⟩ hquiet'
                (by dsimp only; omega)
              simp only [hstep, Outcome.ok_bind, Outcome.pure_eq]
              cases htail : (es.filterMap knownRound).mapM (entryOf c encodeBase64 h order feePayer
                  feePayerShort feePayerSource blockhash) with
              | err e => exact e.elim
              | panic =>
                  rw [htail] at hrest
                  exact hrest
              | ok entries =>
                  rw [htail] at hrest
                  obtain ⟨engine', hrun, hquiet''⟩ := hrest
                  have hcount : s.planned + (result :: entries).length =
                      s.planned + 1 + entries.length := by
                    rw [List.length_cons]
                    omega
                  refine ⟨engine', ?_, hcount ▸ hquiet''⟩
                  rw [hrun, hcount, List.append_assoc, List.singleton_append]

/-- What is simulated reads back as the plan, with the fee payer's empty signature only. -/
lemma readTx_planned {e : KnownRound} {p : PlannedCandidate} {bytes : List UInt8}
    (hplan : planCandidate c h feePayer e.1.2 e.1.1 e.2 = .ok p)
    (hswaps : SignsOnly feePayer e.1.2.swaps.instructions)
    (hbytes : encodeVersionedTxBytes order p.wireIxs feePayer blockhash = .ok bytes) :
    ∃ tx, readTx.run bytes = some (tx, []) ∧ tx.Carries feePayer p.wireIxs blockhash ∧
      tx.signatures = [List.replicate 64 0] := by
  obtain ⟨hpayer, hbuilt⟩ := planCandidate_eq_ok hplan
  have hsigns : SignsOnly feePayer p.built.labeled := by
    rw [hbuilt]
    rw [← hpayer] at hswaps ⊢
    exact signsOnly_buildStrategyIxs h e.2 _ p.accounts _ hswaps
  -- Only the fee payer signs, so the header counts one signature and its byte is exact.
  have hsigners : signerKeys feePayer p.wireIxs = {feePayer} := by
    ext k
    rw [mem_signerKeys, Finset.mem_singleton]
    refine ⟨?_, Or.inl⟩
    rintro (rfl | ⟨ix, hix, m, hm, rfl, hsigner⟩)
    · rfl
    · obtain ⟨l, hl, rfl⟩ := List.mem_map.1 hix
      exact hsigns l hl m hm hsigner
  have hcard : (signerKeys feePayer p.wireIxs).card ≤ 255 := by
    rw [hsigners, Finset.card_singleton]
    norm_num
  obtain ⟨-, hkeys, -, -⟩ := encode_eq_ok hbytes
  refine ⟨_, readTx_encode hbytes hcard, carries_parsed hkeys hcard, ?_⟩
  show List.replicate _ _ = _
  rw [PlannedCandidate.wireIxs, numRequiredSignatures_eq_one hsigns]
  rfl

variable (c encodeBase64 h order feePayer feePayerShort feePayerSource blockhash)

/-- The run: a panic where an entry is missing, or the entries. -/
lemma strategySims_cases (hot : List DiscoveredAccount) (rounds : ℕ → Round) :
    ((∃ e ∈ knownRounds hot rounds, CandidatePanics c h feePayer e ∨
        CutsLog c encodeBase64 h order feePayer blockhash e) ∧
      strategySims c encodeBase64 h order feePayer feePayerShort feePayerSource blockhash hot
        rounds = .panic) ∨
    ((¬ ∃ e ∈ knownRounds hot rounds, CandidatePanics c h feePayer e ∨
        CutsLog c encodeBase64 h order feePayer blockhash e) ∧
      ∃ engine entries,
        strategySims c encodeBase64 h order feePayer feePayerShort feePayerSource blockhash hot
          rounds = .ok ⟨engine, entries.length, entries⟩ ∧
        List.Forall₂ (fun e entry => entryOf c encodeBase64 h order feePayer feePayerShort
          feePayerSource blockhash e = .ok entry) (knownRounds hot rounds) entries ∧
        Quiet entries.length engine) := by
  -- Three candidates are far from the million the engine counts up to.
  have hfew : ((hot.take 3).zipIdx.map fun d => (d.1, rounds d.2)).length ≤ 1000000 := by
    rw [List.length_map, List.length_zipIdx]
    exact (List.length_take_le 3 hot).trans (by norm_num)
  have hloop := @foldlM_simStep c encodeBase64 h order feePayer feePayerShort feePayerSource
    blockhash ((hot.take 3).zipIdx.map fun d => (d.1, rounds d.2)) ⟨shadowEngine, 0, []⟩
    quiet_shadowEngine (by rw [Nat.zero_add]; exact hfew)
  -- What panics is a read of the candidate or the cutting of one of its logs.
  have hpanic : (knownRounds hot rounds).mapM (entryOf c encodeBase64 h order feePayer
      feePayerShort feePayerSource blockhash) = .panic ↔
        ∃ e ∈ knownRounds hot rounds, CandidatePanics c h feePayer e ∨
          CutsLog c encodeBase64 h order feePayer blockhash e := by
    simp only [Outcome.mapM_eq_panic_iff, entryOf_eq_panic_iff]
  cases hentries : (knownRounds hot rounds).mapM (entryOf c encodeBase64 h order feePayer
      feePayerShort feePayerSource blockhash) with
  | err e => exact e.elim
  | panic =>
      have hcut := hpanic.1 hentries
      rw [knownRounds] at hentries
      rw [hentries] at hloop
      exact Or.inl ⟨hcut, hloop⟩
  | ok entries =>
      have hforall := Outcome.forall₂_of_mapM_eq_ok hentries
      have huncut : ¬ ∃ e ∈ knownRounds hot rounds, CandidatePanics c h feePayer e ∨
          CutsLog c encodeBase64 h order feePayer blockhash e := by
        rw [← hpanic, hentries]
        exact fun hfalse => nomatch hfalse
      rw [knownRounds] at hentries
      rw [hentries] at hloop
      obtain ⟨engine, hrun, hquiet⟩ := hloop
      have hcount : 0 + entries.length = entries.length := Nat.zero_add _
      dsimp only at hrun hquiet
      rw [hcount] at hrun hquiet
      exact Or.inr ⟨huncut, engine, entries, hrun, hforall, hquiet⟩

/-- **What the mainnet shadow simulates.**  For any hot candidates and whatever the node answers in
their rounds: the run is never aborted, and it panics exactly when a read of one of the first three
whose protocol is known does, or a log it shows is cut inside a character.  Otherwise each of these
leaves its entry, in order; the engine has dry-run each of them, failed none and is as closed as
before; and where the swaps of a round ask for no other signer, its transaction reads back as the
plan, with one empty signature. -/
theorem strategy_sims (hot : List DiscoveredAccount) (rounds : ℕ → Round) :
    let run := strategySims c encodeBase64 h order feePayer feePayerShort feePayerSource blockhash
      hot rounds
    (∀ a, run ≠ .err a) ∧
    (run = .panic ↔ ∃ e ∈ knownRounds hot rounds,
      CandidatePanics c h feePayer e ∨ CutsLog c encodeBase64 h order feePayer blockhash e) ∧
    (∀ s, run = .ok s →
      List.Forall₂ (fun e entry => entryOf c encodeBase64 h order feePayer feePayerShort
          feePayerSource blockhash e = .ok entry) (knownRounds hot rounds) s.results ∧
        s.planned = s.results.length ∧ Quiet s.planned s.engine) ∧
    ∀ e ∈ knownRounds hot rounds, SignsOnly feePayer e.1.2.swaps.instructions →
      ∀ p bytes, planCandidate c h feePayer e.1.2 e.1.1 e.2 = .ok p →
        encodeVersionedTxBytes order p.wireIxs feePayer blockhash = .ok bytes →
        ∃ tx, readTx.run bytes = some (tx, []) ∧ tx.Carries feePayer p.wireIxs blockhash ∧
          tx.signatures = [List.replicate 64 0] := by
  intro run
  have hwire : ∀ e ∈ knownRounds hot rounds, SignsOnly feePayer e.1.2.swaps.instructions →
      ∀ p bytes, planCandidate c h feePayer e.1.2 e.1.1 e.2 = .ok p →
        encodeVersionedTxBytes order p.wireIxs feePayer blockhash = .ok bytes →
        ∃ tx, readTx.run bytes = some (tx, []) ∧ tx.Carries feePayer p.wireIxs blockhash ∧
          tx.signatures = [List.replicate 64 0] :=
    fun e _ hswaps p bytes hplan hbytes => readTx_planned hplan hswaps hbytes
  rcases strategySims_cases c encodeBase64 h order feePayer feePayerShort feePayerSource blockhash
    hot rounds with ⟨hcut, hrun⟩ | ⟨huncut, engine, entries, hrun, hentries, hquiet⟩
  · exact ⟨fun a herr => absurd (hrun.symm.trans herr) (by simp), iff_of_true hrun hcut,
      fun s hs => absurd (hrun.symm.trans hs) (by simp), hwire⟩
  · refine ⟨fun a herr => absurd (hrun.symm.trans herr) (by simp),
      iff_of_false (fun hp => absurd (hrun.symm.trans hp) (by simp)) huncut, fun s hs => ?_, hwire⟩
    obtain rfl := Outcome.ok.inj (hrun.symm.trans hs)
    exact ⟨hentries, rfl, hquiet⟩

end Run

end Grokbotliq.Execution
