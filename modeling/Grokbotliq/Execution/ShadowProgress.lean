import Grokbotliq.Execution.StrategySims
import Grokbotliq.Framework.JsonText
import Grokbotliq.Framework.StableSort

/-!
# The progress line of the report

One line sums the Kamino simulations up: a success if there was one, and otherwise the sample that
got furthest.  The entries are sorted by how much they say, so that a success decides the line
whatever else is in the report (`summary_succeeded_iff`), and a success is one that the node
returned (`progress_succeeded_iff`).

The rank of a success is zero and no other entry has that rank, so after a stable sort the first
success of the report stands first (`head?_sorted_of_ok`) and the loop over the sorted entries
decides at once.  Without one the loop ends in some text that starts differently from a success.
-/

namespace Grokbotliq.Execution

open Discovery

namespace Progress

/-- `s.get("protocol").and_then(as_str) == Some("Kamino")`. -/
def isKamino (s : Json) : Bool := ((s.get "protocol").bind Json.asStr) == some "Kamino"

def isOk (s : Json) : Bool := ((s.get "ok").bind Json.asBool).getD false

def err (s : Json) : Json := (s.get "err").getD .null

def units (s : Json) : UInt64 := ((s.get "units_consumed").bind Json.asU64).getD 0

/-- The error is there and names an instruction. -/
def hasIxErr (s : Json) : Bool :=
  ((s.get "err").map fun e => !e.isNull && Text.contains e.render "InstructionError").getD false

/-- A success first, then an instruction error, then the others. -/
def rank (s : Json) : ℕ := if isOk s then 0 else if hasIxErr s then 1 else 2

def texts (s : Json) (key : String) : List String :=
  (((s.get key).bind Json.asArray).getD []).filterMap Json.asStr

/-- The account notes on token accounts. -/
def labelsHint (s : Json) : String :=
  "; ".intercalate ((texts s "account_notes").filter fun t =>
    Text.contains t "CreateIdempotent" || Text.contains t "liquidator_atas" ||
      Text.contains t "missing")

def createSeen (s : Json) : Bool :=
  (texts s "logs_trimmed").any fun t =>
    Text.contains t "CreateIdempotent" || Text.contains t "Associated Token"

def boolText (b : Bool) : String := if b then "true" else "false"

def unitsText (s : Json) : String := toString (units s).toNat

def succeededText (s : Json) : String :=
  "Kamino progress: strategy vtx sim SUCCEEDED (units=" ++ unitsText s ++
    "); CreateIdempotent path cleared AccountNotInitialized"

def noErrorText (s : Json) : String :=
  "Kamino progress: sim without InstructionError (rpc/encode); notes=" ++ labelsHint s ++
    "; units=" ++ unitsText s

def errorText (s : Json) : String :=
  "Kamino progress: CreateIdempotent ATAs before flash/liquidate (seen_in_logs=" ++
    boolText (createSeen s) ++ "); sim err=" ++ (err s).render ++ "; units=" ++ unitsText s ++
    "; notes=" ++ labelsHint s

/-- Error 3012 is behind: what was cleared, and what comes next. -/
def clearedText (s : Json) : String :=
  let errS := (err s).render
  let named :=
    if Text.contains errS "6009" then
      "Custom 6009 ReserveStale (reserve needs refresh — often post-flash_borrow before liquidate)"
    else if Text.contains errS "6017" then "Custom 6017 ObligationStale"
    else if Text.contains errS "6016" then
      "Custom 6016 ObligationHealthy (candidate selection/health decode — flash+refresh path " ++
        "past ReserveStale)"
    else "see err"
  let cleared :=
    if !Text.contains errS "6009" then
      "past 3012 AccountNotInitialized and 6009 ReserveStale"
    else "past liquidate AccountNotInitialized (3012)"
  "Kamino progress: " ++ cleared ++ "; next=" ++ named ++ "; raw=" ++ errS ++ "; units=" ++
    unitsText s

/-- The loop over the sorted entries: the last line of those that do not decide. -/
def bestOf : String → List Json → String
  | best, [] => best
  | _, s :: rest =>
    if isOk s then succeededText s
    else if (err s).isNull || (err s).render == "null" then bestOf (noErrorText s) rest
    else if !Text.contains (err s).render "3012" then clearedText s
    else bestOf (errorText s) rest

end Progress

open Progress

/-- `a` is not after `b` in the order the entries are gone through. -/
def SaysMore (a b : Json) : Prop := rank a ≤ rank b

instance : DecidableRel SaysMore := fun a b => inferInstanceAs (Decidable (rank a ≤ rank b))

instance : IsTrans Json SaysMore := ⟨fun _ _ _ => Nat.le_trans⟩

instance : Std.Total SaysMore := ⟨fun a b => Nat.le_total (rank a) (rank b)⟩

/-- `summarize_kamino_sim_progress`. -/
def summarizeKaminoSimProgress (results : List Json) : String :=
  bestOf "Kamino shadow: no strategy sims" ((results.filter isKamino).insertionSort SaysMore)

/-! ## What the line says -/

/-- The line reports a success. -/
def ReportsSuccess (line : String) : Prop :=
  "Kamino progress: strategy vtx sim SUCCEEDED".toList <+: line.toList

namespace Progress

lemma take_of_reportsSuccess {line : String} (h : ReportsSuccess line) :
    line.toList.take 19 = "Kamino progress: st".toList := by
  obtain ⟨rest, hrest⟩ := h
  rw [← hrest, List.take_append_of_le_length (by decide)]
  decide

/-- A line that starts with another text reports no success. -/
lemma not_reportsSuccess_append {start : String} (hlong : 19 ≤ start.toList.length)
    (hstart : start.toList.take 19 ≠ "Kamino progress: st".toList) (rest : String) :
    ¬ ReportsSuccess (start ++ rest) := by
  intro hsuccess
  have htake := take_of_reportsSuccess hsuccess
  rw [String.toList_append, List.take_append_of_le_length hlong] at htake
  exact hstart htake

lemma reportsSuccess_succeededText (s : Json) : ReportsSuccess (succeededText s) := by
  have hstart : "Kamino progress: strategy vtx sim SUCCEEDED (units=".toList =
      "Kamino progress: strategy vtx sim SUCCEEDED".toList ++ " (units=".toList := by decide
  unfold ReportsSuccess succeededText
  rw [String.append_assoc, String.toList_append, hstart, List.append_assoc]
  exact List.prefix_append _ _

lemma not_reportsSuccess_noErrorText (s : Json) : ¬ ReportsSuccess (noErrorText s) := by
  unfold noErrorText
  rw [String.append_assoc, String.append_assoc]
  exact not_reportsSuccess_append (by decide) (by decide) _

lemma not_reportsSuccess_errorText (s : Json) : ¬ ReportsSuccess (errorText s) := by
  unfold errorText
  simp only [String.append_assoc]
  exact not_reportsSuccess_append (by decide) (by decide) _

lemma not_reportsSuccess_clearedText (s : Json) : ¬ ReportsSuccess (clearedText s) := by
  unfold clearedText
  simp only [String.append_assoc]
  split_ifs <;> rw [← String.append_assoc] <;>
    exact not_reportsSuccess_append (by decide) (by decide) _

/-- Without a success among the entries the loop reports none. -/
lemma not_reportsSuccess_bestOf {xs : List Json} (hxs : ∀ s ∈ xs, isOk s = false) {best : String}
    (hbest : ¬ ReportsSuccess best) : ¬ ReportsSuccess (bestOf best xs) := by
  induction xs generalizing best with
  | nil => exact hbest
  | cons s rest ih =>
      have hrest : ∀ s' ∈ rest, isOk s' = false := fun s' hs' =>
        hxs s' (List.mem_cons_of_mem _ hs')
      rw [bestOf, hxs s List.mem_cons_self, if_neg Bool.false_ne_true]
      split_ifs with hnull hpast
      · exact ih hrest (not_reportsSuccess_noErrorText s)
      · exact not_reportsSuccess_clearedText s
      · exact ih hrest (not_reportsSuccess_errorText s)

lemma rank_eq_zero_iff_isOk {s : Json} : rank s = 0 ↔ isOk s = true := by
  unfold rank
  split_ifs with hok herr <;> simp [hok]

lemma saysMore_of_rank_eq_zero {a b : Json} (h : rank a = 0) : SaysMore a b := by
  unfold SaysMore
  rw [h]
  exact Nat.zero_le _

end Progress

/-- A success among the entries comes first after the sort: the first of them. -/
lemma head?_sorted_of_ok {xs : List Json} (hok : ∃ s ∈ xs, isOk s = true) :
    (xs.insertionSort SaysMore).head? = xs.find? isOk := by
  cases hhead : (xs.insertionSort SaysMore).head? with
  | none =>
      obtain ⟨s, hs, -⟩ := hok
      have hmem : s ∈ xs.insertionSort SaysMore := (List.mem_insertionSort _).2 hs
      rw [List.head?_eq_none_iff.1 hhead] at hmem
      exact absurd hmem List.not_mem_nil
  | some x =>
      obtain ⟨before, after, rfl, hbefore, hafter⟩ := isEarliest_of_head? SaysMore hhead
      -- An entry that is ok has the lowest rank, so the head has it too and is ok itself.
      have hx : rank x = 0 := by
        obtain ⟨s, hs, hoks⟩ := hok
        have hrank : rank s = 0 := rank_eq_zero_iff_isOk.2 hoks
        rcases List.mem_append.1 hs with hs | hs
        · exact absurd (saysMore_of_rank_eq_zero hrank) (hbefore s hs)
        · rcases List.mem_cons.1 hs with rfl | hs
          · exact hrank
          · have hle : rank x ≤ rank s := hafter s hs
            omega
      have hokx := rank_eq_zero_iff_isOk.1 hx
      refine (List.find?_eq_some_iff_append.2 ⟨hokx, before, after, rfl, ?_⟩).symm
      intro y hy
      rw [Bool.not_eq_true']
      by_contra hoky
      rw [Bool.not_eq_false, ← rank_eq_zero_iff_isOk] at hoky
      exact hbefore y hy (saysMore_of_rank_eq_zero hoky)

/-- The line reports a success exactly when there is one, and then the first one. -/
lemma summary_succeeded_iff (results : List Json) :
    (ReportsSuccess (summarizeKaminoSimProgress results) ↔
      ∃ s ∈ results, isKamino s = true ∧ isOk s = true) ∧
    ∀ s, (results.filter isKamino).find? isOk = some s →
      summarizeKaminoSimProgress results = succeededText s := by
  have hfirst : ∀ s, (results.filter isKamino).find? isOk = some s →
      summarizeKaminoSimProgress results = succeededText s := by
    intro s hs
    have hok : isOk s = true := List.find?_some hs
    rw [← head?_sorted_of_ok ⟨s, List.mem_of_find?_eq_some hs, hok⟩] at hs
    obtain ⟨rest, hsorted⟩ := List.head?_eq_some_iff.1 hs
    rw [summarizeKaminoSimProgress, hsorted, bestOf, hok, if_pos rfl]
  refine ⟨⟨fun hsuccess => ?_, fun ⟨s, hs, hkamino, hok⟩ => ?_⟩, hfirst⟩
  -- With no ok entry the text is of a failure, and none of those reads as a success.
  · by_contra hnone
    refine not_reportsSuccess_bestOf (fun s hs => ?_) ?_ hsuccess
    · rw [List.mem_insertionSort, List.mem_filter] at hs
      by_contra hok
      exact hnone ⟨s, hs.1, hs.2, by simpa using hok⟩
    · have hstart : "Kamino shadow: no strategy sims" =
          "Kamino shadow: no strategy sims" ++ "" := by decide
      rw [hstart]
      exact not_reportsSuccess_append (by decide) (by decide) _
  · have hsome : ((results.filter isKamino).find? isOk).isSome = true := by
      rw [List.find?_isSome]
      exact ⟨s, List.mem_filter.2 ⟨hs, hkamino⟩, hok⟩
    obtain ⟨x, hx⟩ := Option.isSome_iff_exists.1 hsome
    rw [hfirst x hx]
    exact reportsSuccess_succeededText x

/-! ## In the report of a run -/

section Run

variable {c : Codecs} {encodeBase64 : List UInt8 → String} {h : PdaHash}
  {order : IterationOrder Pubkey KeyFlags} {feePayer : Pubkey}
  {feePayerShort feePayerSource : String} {blockhash : Blockhash}

lemma knownProtocol_eq_kamino_iff {protocol : String} :
    knownProtocol protocol = some .kamino ↔ protocol = "Kamino" := by
  unfold knownProtocol
  split_ifs with hkamino <;> simp [hkamino]

/-- Every kind of entry names the protocol of its candidate. -/
lemma isKamino_of_get {entry : Json} {protocol : String}
    (hget : entry.get "protocol" = some (.string protocol)) :
    isKamino entry = true ↔ knownProtocol protocol = some .kamino := by
  rw [isKamino, hget, knownProtocol_eq_kamino_iff]
  simp [Json.asStr]

/-- The plan of the candidate was encoded, and its simulation came back without an error. -/
def Succeeds (c : Codecs) (encodeBase64 : List UInt8 → String) (h : PdaHash)
    (order : IterationOrder Pubkey KeyFlags) (feePayer : Pubkey) (blockhash : Blockhash)
    (e : KnownRound) : Prop :=
  ∃ p bytes sim, planCandidate c h feePayer e.1.2 e.1.1 e.2 = .ok p ∧
    encodeVersionedTxBytes order p.wireIxs feePayer blockhash = .ok bytes ∧
    e.1.2.simulate (encodeBase64 bytes) = .ok sim ∧ sim.err = none

/-- There is one plan and one encoding of it, so the simulation decides. -/
lemma succeeds_iff {e : KnownRound} {p : PlannedCandidate} {bytes : List UInt8}
    (hplan : planCandidate c h feePayer e.1.2 e.1.1 e.2 = .ok p)
    (hbytes : encodeVersionedTxBytes order p.wireIxs feePayer blockhash = .ok bytes) :
    Succeeds c encodeBase64 h order feePayer blockhash e ↔
      ∃ sim, e.1.2.simulate (encodeBase64 bytes) = .ok sim ∧ sim.err = none := by
  constructor
  · rintro ⟨p', bytes', sim, hplan', hbytes', hanswer, hnone⟩
    obtain rfl := Outcome.ok.inj (hplan.symm.trans hplan')
    obtain rfl := Outcome.ok.inj (hbytes.symm.trans hbytes')
    exact ⟨sim, hanswer, hnone⟩
  · rintro ⟨sim, hanswer, hnone⟩
    exact ⟨p, bytes, sim, hplan, hbytes, hanswer, hnone⟩

/-- An entry names the protocol of its candidate, and is a success when the simulation was one. -/
lemma entryOf_eq_ok {e : KnownRound} {entry : Json}
    (hentry : entryOf c encodeBase64 h order feePayer feePayerShort feePayerSource blockhash e =
      .ok entry) :
    entry.get "protocol" = some (.string e.1.1.protocol) ∧
      (isOk entry = true ↔ Succeeds c encodeBase64 h order feePayer blockhash e) := by
  obtain ⟨p, hplan, hsim⟩ := Outcome.bind_eq_ok.1 hentry
  unfold simulatePlanned at hsim
  -- A failed encoding, a failed simulation, or an answer; only the last can be ok.
  cases hbytes : encodeVersionedTxBytes order p.wireIxs feePayer blockhash with
  | panic => exact absurd hbytes (encodeVersionedTxBytes_ne_panic p.wireIxs)
  | err er =>
      rw [hbytes] at hsim
      obtain rfl := Outcome.ok.inj hsim
      refine ⟨rfl, iff_of_false (fun hok => Bool.false_ne_true hok) ?_⟩
      rintro ⟨p', bytes, sim, hplan', hbytes', -⟩
      obtain rfl := Outcome.ok.inj (hplan.symm.trans hplan')
      exact absurd (hbytes.symm.trans hbytes') (by simp)
  | ok bytes =>
      rw [succeeds_iff hplan hbytes]
      rw [hbytes] at hsim
      cases hanswer : e.1.2.simulate (encodeBase64 bytes) with
      | panic => exact absurd hanswer (e.1.2.simulate_ne_panic _)
      | err er =>
          simp only [hanswer] at hsim
          obtain rfl := Outcome.ok.inj hsim
          refine ⟨rfl, iff_of_false (fun hok => Bool.false_ne_true hok) ?_⟩
          simp
      | ok sim =>
          simp only [hanswer] at hsim
          obtain ⟨logs, -, hlogs⟩ := Outcome.bind_eq_ok.1 hsim
          obtain rfl := Outcome.ok.inj hlogs
          refine ⟨rfl, ?_⟩
          have hok : isOk (simulatedEntry feePayerShort feePayerSource e.1.1 e.2 p sim logs) =
              sim.err.isNone := rfl
          rw [hok, Option.isNone_iff_eq_none]
          simp

lemma knownProtocol_of_mem_knownRounds {hot : List DiscoveredAccount} {rounds : ℕ → Round}
    {e : KnownRound} (he : e ∈ knownRounds hot rounds) :
    knownProtocol e.1.1.protocol = some e.2 := by
  obtain ⟨entry, -, hknown⟩ := List.mem_filterMap.1 he
  obtain ⟨protocol, hprotocol, rfl⟩ := Option.map_eq_some_iff.1 hknown
  exact hprotocol

/-- An element of one list has a property when its partner in the other list has another. -/
lemma exists_mem_iff_of_forall₂ {α β : Type} {R : α → β → Prop} {P : α → Prop} {Q : β → Prop}
    {xs : List α} {ys : List β} (hpairs : List.Forall₂ R xs ys)
    (hiff : ∀ x ∈ xs, ∀ y, R x y → (P x ↔ Q y)) : (∃ x ∈ xs, P x) ↔ ∃ y ∈ ys, Q y := by
  induction hpairs with
  | nil => simp
  | cons hxy _ ih =>
      rw [List.exists_mem_cons_iff, List.exists_mem_cons_iff, hiff _ List.mem_cons_self _ hxy,
        ih fun x hx => hiff x (List.mem_cons_of_mem _ hx)]

variable (c encodeBase64 h order feePayer feePayerShort feePayerSource blockhash)

/-- **The progress line is honest.**  When the run ends, the line made of its entries reports a
success exactly when the plan of a Kamino candidate was simulated and came back without an
error. -/
theorem progress_succeeded_iff (hot : List DiscoveredAccount) (rounds : ℕ → Round) {s : SimRun}
    (hrun : strategySims c encodeBase64 h order feePayer feePayerShort feePayerSource blockhash
      hot rounds = .ok s) :
    ReportsSuccess (summarizeKaminoSimProgress s.results) ↔
      ∃ e ∈ knownRounds hot rounds, e.2 = .kamino ∧
        Succeeds c encodeBase64 h order feePayer blockhash e := by
  rcases strategySims_cases c encodeBase64 h order feePayer feePayerShort feePayerSource blockhash
    hot rounds with ⟨-, hpanic⟩ | ⟨-, engine, entries, hok, hentries, -⟩
  · exact absurd (hrun.symm.trans hpanic) (by simp)
  · obtain rfl := Outcome.ok.inj (hrun.symm.trans hok)
    rw [(summary_succeeded_iff entries).1]
    refine (exists_mem_iff_of_forall₂ hentries fun e he entry hentry => ?_).symm
    obtain ⟨hget, hsuccess⟩ := entryOf_eq_ok hentry
    rw [isKamino_of_get hget, knownProtocol_of_mem_knownRounds he, hsuccess, Option.some.injEq]

end Run

/-! ## One candidate -/

/-- A Kamino candidate that is known by its short key only. -/
def sampleHot : DiscoveredAccount :=
  ⟨"Kamino", "obligation", none, "7u3H…v5PF", 3344, "live_health", some 0, some "CRITICAL", []⟩

/-- A node that reads nothing and simulates everything without an error. -/
def sampleRound : Round where
  reads := ⟨fun _ => .error (.rpc "down"), fun _ => .error (.rpc "down"),
    fun _ => .error (.rpc "down")⟩
  swaps := .default
  checkedAt := 0
  begunAt := 0
  simulation := fun _ => .ok (.object [("result", .object [("value", .object [])])])

/-- The candidate planned from the fallback accounts. -/
def samplePlanned : PlannedCandidate where
  accounts := seedSet (Pubkey.test 2 1) (Pubkey.test 0xA5 2)
  notes := ["missing full pubkey on candidate — seed fallback"]
  built := buildStrategyIxs .prefixHash .kamino .kaminoFlashBorrow
    (seedSet (Pubkey.test 2 1) (Pubkey.test 0xA5 2)) 1000000 .default

/-- Its simulation succeeds, and the line of the report says so. -/
theorem progress_succeeded_sampleHot :
    ∃ s, strategySims Bootstrap.sampleCodecs (fun _ => "") .prefixHash .asStored
        (Pubkey.test 2 1) "" "" sampleBlockhash [sampleHot] (fun _ => sampleRound) = .ok s ∧
      ReportsSuccess (summarizeKaminoSimProgress s.results) := by
  have hencode : ∃ bytes, encodeVersionedTxBytes .asStored samplePlanned.wireIxs
      (Pubkey.test 2 1) sampleBlockhash = .ok bytes :=
    exists_encode_eq_ok (by decide +kernel) (by decide +kernel)
  obtain ⟨bytes, hbytes⟩ := hencode
  -- The candidate has no full key, so nothing is read of it.
  have hplan : planCandidate Bootstrap.sampleCodecs .prefixHash (Pubkey.test 2 1) sampleRound
      sampleHot .kamino = .ok samplePlanned := rfl
  rcases strategySims_cases Bootstrap.sampleCodecs (fun _ => "") .prefixHash .asStored
    (Pubkey.test 2 1) "" "" sampleBlockhash [sampleHot] (fun _ => sampleRound) with
    ⟨⟨e, he, hpanics⟩, -⟩ | ⟨-, engine, entries, hrun, -, -⟩
  · obtain rfl := List.mem_singleton.1 he
    rcases hpanics with hread | ⟨p, bytes', sim, -, -, hsim, log, hlog, -⟩
    · rw [← planCandidate_eq_panic_iff, hplan] at hread
      exact nomatch hread
    · obtain rfl := Outcome.ok.inj hsim
      exact absurd hlog List.not_mem_nil
  · refine ⟨_, hrun, (progress_succeeded_iff Bootstrap.sampleCodecs (fun _ => "") .prefixHash
      .asStored (Pubkey.test 2 1) "" "" sampleBlockhash [sampleHot] (fun _ => sampleRound)
      hrun).2 ⟨((sampleHot, sampleRound), .kamino), List.mem_singleton_self _, rfl, samplePlanned,
        bytes, ⟨none, [], none⟩, hplan, hbytes, rfl, rfl⟩⟩

end Grokbotliq.Execution
