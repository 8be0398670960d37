import Grokbotliq.Execution.ShadowProgress

/-!
# The mainnet shadow on a report

The binary runs discovery and simulates candidates of its report.  The candidates a report lists
are a part of those to liquidate, so the second choice of `hotCandidates` never finds any, and the
run is about the three unhealthiest obligations of the report (`shadow_simulates_report`).  Which
they are is decided by the exact quotients of debt and threshold, where the source compares 64-bit
floats.

What discovery contributes is in `Streaming/DiscoveryReport.lean`: the candidates to liquidate are
sorted by health, and the report's own list is their first part.
-/

namespace Grokbotliq.Execution

open Kamino Discovery

/-! ## The hot candidates of a report -/

lemma forall_mem_of_forall₂ {α β : Type} {R : α → β → Prop} {Q : β → Prop} {xs : List α}
    {ys : List β} (hpairs : List.Forall₂ R xs ys) (hright : ∀ x y, R x y → Q y) :
    ∀ y ∈ ys, Q y := by
  induction hpairs with
  | nil => exact fun y hy => absurd hy List.not_mem_nil
  | cons hxy _ ih => exact List.forall_mem_cons.2 ⟨hright _ _ hxy, ih⟩

/-- All that is classified is of Kamino. -/
lemma protocol_of_scanned {c : Codecs} {reserves : Reserves}
    {groups : KeyMap UInt8 ElevationGroupParams}
    {answer : Except BootstrapError (List RawAccount)} {candidates : List DiscoveredAccount}
    {stats : Option KlendHealthStats} (h : Scanned c reserves groups answer candidates stats) :
    ∀ d ∈ candidates, d.protocol = "Kamino" := by
  intro d hd
  cases answer with
  | error e =>
      rw [h.1] at hd
      exact absurd hd List.not_mem_nil
  | ok accts =>
      obtain ⟨ds, st, hall, hperm, -⟩ := h
      have hkamino : ∀ d ∈ ds, d.protocol = "Kamino" := by
        refine forall_mem_of_forall₂ hall fun a d hclassify => ?_
        obtain ⟨found, -, hfound⟩ := Outcome.bind_eq_ok.1 hclassify
        obtain rfl := Outcome.ok.inj hfound
        rfl
      exact hkamino d (List.mem_filter.1 (hperm.mem_iff.1 hd)).1

/-- The candidates to liquidate stand in the order of their health. -/
lemma pairwise_of_scanned {c : Codecs} {reserves : Reserves}
    {groups : KeyMap UInt8 ElevationGroupParams}
    {answer : Except BootstrapError (List RawAccount)} {candidates : List DiscoveredAccount}
    {stats : Option KlendHealthStats} (h : Scanned c reserves groups answer candidates stats) :
    candidates.Pairwise fun a b => rankHealth a ≤ rankHealth b := by
  cases answer with
  | error e =>
      rw [h.1]
      exact .nil
  | ok accts =>
      obtain ⟨ds, st, -, -, hpairwise, -⟩ := h
      exact hpairwise

/-- Candidates that are a part of those to liquidate add none. -/
lemma hotCandidates_take (ds : List DiscoveredAccount) (n : ℕ) :
    hotCandidates ds (ds.take n) = ds := by
  unfold hotCandidates
  split_ifs with hsome
  · rfl
  · rw [not_not.1 hsome, List.take_nil, List.filter_nil]

/-- Candidates of Kamino all have their round. -/
lemma knownRounds_kamino {hot : List DiscoveredAccount} (h : ∀ d ∈ hot, d.protocol = "Kamino")
    (rounds : ℕ → Round) :
    (knownRounds hot rounds).map (fun e => (e.1.1, e.2)) =
      (hot.take 3).map fun d => (d, Protocol.kamino) := by
  have hfrom : ∀ (ds : List DiscoveredAccount) (i : ℕ), (∀ d ∈ ds, d.protocol = "Kamino") →
      (((ds.zipIdx i).map fun d => (d.1, rounds d.2)).filterMap knownRound).map
          (fun e => (e.1.1, e.2)) = ds.map fun d => (d, Protocol.kamino) := by
    intro ds
    induction ds with
    | nil => exact fun i _ => rfl
    | cons d ds ih =>
        intro i hds
        have hround : knownRound (d, rounds i) = some ((d, rounds i), .kamino) := by
          rw [knownRound, knownProtocol_eq_kamino_iff.2 (hds d List.mem_cons_self), Option.map_some]
        rw [List.zipIdx_cons, List.map_cons, List.filterMap_cons, hround]
        dsimp only
        rw [List.map_cons, ih (i + 1) fun d' hd' => hds d' (List.mem_cons_of_mem _ hd'),
          List.map_cons]
  exact hfrom _ 0 fun d hd => h d (List.mem_of_mem_take hd)

/-! ## The run -/

variable (c : Codecs) (encodeBase64 : List UInt8 → String) (h : PdaHash)
  (order : IterationOrder Pubkey KeyFlags) (feePayer : Pubkey)
  (feePayerShort feePayerSource : String) (blockhash : Blockhash)

/-- **What the shadow simulates of a report**, whatever the network answered in discovery and in
the rounds: the three unhealthiest candidates to liquidate, or all where there are fewer, as
candidates of Kamino, in their order and with an entry each; and no other one is less healthy, as
the exact health of each goes. -/
theorem shadow_simulates_report (world : World) (pool : RotatingRpcPool)
    {report : DiscoveryReport} (hreport : (discover c world pool).2 = .ok report)
    (rounds : ℕ → Round) {s : SimRun}
    (hrun : strategySims c encodeBase64 h order feePayer feePayerShort feePayerSource
      blockhash (hotCandidates report.liquidatableCandidates report.candidates) rounds = .ok s) :
    (knownRounds (hotCandidates report.liquidatableCandidates report.candidates) rounds).map
        (fun e => (e.1.1, e.2)) =
      (report.liquidatableCandidates.take 3).map (fun d => (d, Protocol.kamino)) ∧
    s.results.length = min 3 report.liquidatableCandidates.length ∧
    ∀ d ∈ report.liquidatableCandidates.take 3, ∀ d' ∈ report.liquidatableCandidates.drop 3,
      rankHealth d ≤ rankHealth d' := by
  obtain ⟨-, scan, -, -, -, -, hliquidatable, -, hcandidates, -⟩ := report_of_discover hreport
  obtain ⟨f, answer, -, -, hscanned⟩ := scanned_of_discover hreport
  rw [← hliquidatable] at hcandidates
  have hpairwise := pairwise_of_scanned hscanned
  have hrounds := knownRounds_kamino (protocol_of_scanned hscanned) rounds
  rw [hcandidates, hotCandidates_take] at hrun ⊢
  refine ⟨hrounds, ?_, ?_⟩
  · rcases strategySims_cases c encodeBase64 h order feePayer feePayerShort
      feePayerSource blockhash report.liquidatableCandidates rounds with
      ⟨-, hpanic⟩ | ⟨-, engine, entries, hok, hentries, -⟩
    · exact absurd (hrun.symm.trans hpanic) (by simp)
    · -- An entry for each round, and a round for each of the first three.
      obtain rfl := Outcome.ok.inj (hrun.symm.trans hok)
      have hlength := congrArg List.length hrounds
      rw [List.length_map, List.length_map, List.length_take] at hlength
      exact hentries.length_eq.symm.trans hlength
  · rw [← List.take_append_drop 3 report.liquidatableCandidates] at hpairwise
    exact (List.pairwise_append.1 hpairwise).2.2

/-- A round over the node of the small mainnet, which simulates everything without an error. -/
def heldRound : Round := { sampleRound with reads := heldReads }

lemma exists_strategySims_heldRound (hot : List DiscoveredAccount) :
    ∃ s, strategySims RpcServer.standardCodecs Base64.encode .prefixHash .asStored
      (Pubkey.test 2 1) "" "" sampleBlockhash hot (fun _ => heldRound) = .ok s := by
  rcases strategySims_cases RpcServer.standardCodecs Base64.encode .prefixHash .asStored
    (Pubkey.test 2 1) "" "" sampleBlockhash hot (fun _ => heldRound) with
    ⟨⟨e, he, hpanics⟩, -⟩ | ⟨-, engine, entries, hrun, -, -⟩
  · obtain ⟨entry, hentry, hknown⟩ := List.mem_filterMap.1 he
    obtain ⟨d, -, rfl⟩ := List.mem_map.1 hentry
    obtain ⟨protocol, -, rfl⟩ := Option.map_eq_some_iff.1 hknown
    rcases hpanics with hread | ⟨p, bytes, sim, -, -, hsim, log, hlog, -⟩
    · exact absurd hread (not_readPanics_held _ _ _ _)
    · obtain rfl := Outcome.ok.inj hsim
      exact absurd hlog List.not_mem_nil
  · exact ⟨_, hrun⟩

/-- The one candidate of the small mainnet's report is simulated. -/
theorem shadow_simulates_smallMainnet :
    ∃ pool report s d, RotatingRpcPool.fromUrls RotatingRpcPool.threeUrls = .ok pool ∧
      (discover RpcServer.standardCodecs smallMainnet pool).2 = .ok report ∧
      strategySims RpcServer.standardCodecs Base64.encode .prefixHash .asStored
        (Pubkey.test 2 1) "" "" sampleBlockhash
        (hotCandidates report.liquidatableCandidates report.candidates) (fun _ => heldRound) =
          .ok s ∧
      (knownRounds (hotCandidates report.liquidatableCandidates report.candidates)
        fun _ => heldRound).map (fun e => (e.1.1, e.2)) = [(d, .kamino)] ∧
      d.health = some (8 / 9) ∧ s.results.length = 1 := by
  obtain ⟨pool, hpool, -⟩ := RotatingRpcPool.ready_of_fromUrls_threeUrls
  obtain ⟨report, d, hreport, hcandidates, hhealth⟩ := exists_report_smallMainnet hpool
  obtain ⟨s, hrun⟩ := exists_strategySims_heldRound
    (hotCandidates report.liquidatableCandidates report.candidates)
  obtain ⟨hrounds, hlength, -⟩ := shadow_simulates_report RpcServer.standardCodecs Base64.encode
    .prefixHash .asStored (Pubkey.test 2 1) "" "" sampleBlockhash smallMainnet pool hreport
    (fun _ => heldRound) hrun
  refine ⟨pool, report, s, d, hpool, hreport, hrun, ?_, hhealth, ?_⟩
  · rw [hrounds, hcandidates]
    rfl
  · rw [hlength, hcandidates]
    rfl

end Grokbotliq.Execution
