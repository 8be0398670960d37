import Grokbotliq.Execution.PlanSigners
import Grokbotliq.Kamino.DecodeSafety
import Grokbotliq.Streaming.DiscoveryReport

/-!
# The account set of a candidate

The shadow binary turns a discovered obligation into the account set of a plan with three reads:
the obligation account, the reserves of its slots, and the liquidator's token accounts.  Each read
is one request, and what it comes to is what `JsonRpcBootstrap` makes of the node's answer: a value,
an error, or a panic where the owner of an account is a text it cannot cut.  When a read fails or
does not decode the binary falls back on a set derived from a key.  When all succeed the set is
`shadowSet` with an overlay of the decoded reserves and a filter of the missing token accounts.

`candidate_accounts_plan` says what the plans of such a set are worth in terms of the accounts the
three reads saw.

`Prepares` lists the three ways in which the preparation ends, and
`prepares_buildPlanAccountsForCandidate` goes through the code once: the key, the obligation, the
reserves of its slots, the token accounts.  That the fallback is taken only where no live set
exists is part of each case, and since a candidate has one live set at most (`Readable.unique`)
the converse follows.

The plans of a live set are those of the `Plan` modules, with the overlay in place of the two
chosen reserves: it holds every reserve of a slot that was decoded, so coverage holds exactly when
all of them were.
-/

namespace Grokbotliq.Execution

open Kamino

/-- What the node answers to a request in each of the three reads. -/
structure AccountReads where
  obligation : Json → Except BootstrapError Json
  reserves : Json → Except BootstrapError Json
  tokens : Json → Except BootstrapError Json

namespace AccountReads

variable (reads : AccountReads) (c : Codecs)

def readObligation (key : Pubkey) : Outcome BootstrapError (Option RawAccount) :=
  Call.answered reads.obligation (Bootstrap.getAccountInfo c key)

def readReserves (keys : List Pubkey) : Outcome BootstrapError (List (Option RawAccount)) :=
  Call.answered reads.reserves (Bootstrap.getMultipleAccounts c keys)

def readTokens (keys : List Pubkey) : Outcome BootstrapError (List (Option RawAccount)) :=
  Call.answered reads.tokens (Bootstrap.getMultipleAccounts c keys)

end AccountReads

/-- `lending_market_authority`. -/
def lendingMarketAuthority (h : PdaHash) (market : Pubkey) : Pubkey :=
  (h.findProgramAddress ["lma".toUTF8.toList, market.bytes] Programs.klend).1

/-- A fixture set with the fee payer as its liquidator. -/
def seedSet (feePayer seed : Pubkey) : PlanAccountSet :=
  { PlanAccountSet.fromSeed seed with liquidator := feePayer }

/-- Every reserve once: of the deposits, of the borrows, and the two chosen ones. -/
def reserveKeys (positions : LiveObligationPositions) (repay withdraw : Pubkey) : List Pubkey :=
  [repay, withdraw].foldl PlanAccountSet.pushMissing
    (positions.borrows.foldl (fun keys b => PlanAccountSet.pushMissing keys b.reserve)
      (positions.deposits.foldl (fun keys d => PlanAccountSet.pushMissing keys d.reserve) []))

abbrev Vaults := KeyMap Pubkey LiveReserveVaults

section Texts

variable (c : Codecs)

def shortKey (k : Pubkey) : String := shortText (k.toBase58 c.toBase58)

/-- One key of the loop over the fetched reserves. -/
def vaultStep (fetched : List (Option RawAccount)) (state : Vaults × List String)
    (entry : Pubkey × ℕ) : Outcome Empty (Vaults × List String) :=
  match fetched[entry.2]? with
  | some (some raw) =>
    match decodeReserveLiveVaults entry.1 raw.data with
    | .ok v => .ok (state.1.insert entry.1 v, state.2)
    | .err e =>
      .ok (state.1, state.2 ++ ["reserve decode " ++ shortKey c entry.1 ++ ": " ++ e.display])
    | .panic => .panic
  | _ => .ok (state.1, state.2 ++ ["reserve missing " ++ shortKey c entry.1])

def collectVaults (fetched : List (Option RawAccount)) (keys : List Pubkey)
    (notes : List String) : Outcome Empty (Vaults × List String) :=
  keys.zipIdx.foldlM (vaultStep c fetched) (∅, notes)

/-- Refresh metas of the reserves that were decoded; one that was not is not marked as seen. -/
def refreshOverlay (vaults : Vaults) : List Pubkey → List Pubkey → List RefreshReserveAccounts
  | _, [] => []
  | seen, key :: keys =>
    if key ∈ seen then refreshOverlay vaults seen keys
    else
      match vaults.lookup key with
      | none => refreshOverlay vaults seen keys
      | some r => PlanAccountSet.refreshAccounts r :: refreshOverlay vaults (seen ++ [key]) keys

/-- The liquidator's token accounts, those of the set. -/
def ataKeys (a : PlanAccountSet) : List Pubkey :=
  match a.userDestinationLiquidity with
  | some d => PlanAccountSet.pushMissing [a.userLiquidity, a.userCollateral] d
  | none => [a.userLiquidity, a.userCollateral]

def missingAtas (fetched : List (Option RawAccount)) (keys : List Pubkey) : List Pubkey :=
  (keys.zipIdx.filter fun e => fetched[e.2]?.join.isNone).map Prod.fst

/-- The last read, and the filter it gives. -/
def prefetchAtas (reads : AccountReads) (a : PlanAccountSet) (notes : List String) :
    Outcome Empty (PlanAccountSet × List String) :=
  let keys := ataKeys a
  let prefetch := keys ++ a.referrerTokenStates
  match reads.readTokens c prefetch with
  | .ok fetched =>
    let present := fetched.reduceOption.length
    let missing := missingAtas fetched keys
    .ok ({ a with missingAtaFilter := some missing },
      notes ++ ["prefetched_ata_referrer_accounts present=" ++ toString present ++ "/" ++
          toString prefetch.length,
        "liquidator_atas missing=" ++ toString missing.length ++ "/" ++ toString keys.length ++
          " (CreateIdempotent will run for missing)"])
  | .err e =>
    .ok ({ a with missingAtaFilter := none }, notes ++ ["prefetch ATA/referrer: " ++ e.display])
  | .panic => .panic

variable (h : PdaHash) (reads : AccountReads) (feePayer : Pubkey)

/-- The part after the reserves were chosen. -/
def planAccountsFromReserves (address : Pubkey) (positions : LiveObligationPositions)
    (repay withdraw : Pubkey) (notes : List String) :
    Outcome Empty (PlanAccountSet × List String) :=
  let keys := reserveKeys positions repay withdraw
  match reads.readReserves c keys with
  | .panic => .panic
  | .err e =>
    .ok ({ seedSet feePayer address with
        obligation := address
        lendingMarket := positions.header.lendingMarket
        repayReserve := repay
        withdrawReserve := withdraw },
      notes ++ ["getMultipleAccounts reserves: " ++ e.display])
  | .ok fetched => do
    let (vaults, notes) ← collectVaults c fetched keys notes
    match vaults.lookup repay, vaults.lookup withdraw with
    | some repayV, some withdrawV =>
      let notes := notes ++ ["live_vaults repay_mint=" ++ shortKey c repayV.liquidityMint ++
        " withdraw_coll=" ++ shortKey c withdrawV.collateralMint ++ " n_reserves=" ++
        toString vaults.keys.length]
      let marketAuth := lendingMarketAuthority h positions.header.lendingMarket
      let accounts := PlanAccountSet.fromKaminoLive h address feePayer positions repayV withdrawV
        marketAuth
      let accounts := { accounts with
        refreshReserveMetas := refreshOverlay vaults []
          (positions.deposits.map LiveDepositPosition.reserve ++
            positions.borrows.map LiveBorrowPosition.reserve) }
      let referrerNote := accounts.referrer.toList.map fun k =>
        "referrer=" ++ shortKey c k ++ " referrer_token_states=" ++
          toString accounts.referrerTokenStates.length
      prefetchAtas c reads accounts (notes ++ referrerNote ++
        ["ATAs liq=" ++ shortKey c accounts.userLiquidity ++ " coll=" ++
          shortKey c accounts.userCollateral,
          "PlanAccountSet from live Klend positions+reserves (ATA+farm+referrer wiring)"])
    | _, _ =>
      return ({ seedSet feePayer address with
          obligation := address
          repayReserve := repay
          withdrawReserve := withdraw },
        notes ++ ["repay/withdraw vault decode incomplete"])

/-- The part after the obligation account was read. -/
def planAccountsFromObligation (address : Pubkey) (data : List UInt8) :
    Outcome Empty (PlanAccountSet × List String) :=
  match decodeObligationLivePositions address data with
  | .panic => .panic
  | .err e =>
    let set := seedSet feePayer address
    .ok ({ set with
        lendingMarket :=
          (Pubkey.fromBase58 c.toBase58 Known.klendMainMarket).getD set.lendingMarket },
      ["live_positions decode failed: " ++ e.display])
  | .ok positions =>
    let notes := ["live_positions deposits=" ++ toString positions.deposits.length ++
      " borrows=" ++ toString positions.borrows.length]
    match pickLiquidateReserves positions with
    | none =>
      .ok ({ seedSet feePayer address with
          lendingMarket := positions.header.lendingMarket
          obligation := address },
        notes ++ ["no repay/withdraw reserves in positions"])
    | some (repay, withdraw) =>
      planAccountsFromReserves c h reads feePayer address positions repay withdraw notes

/-- The set and the notes on how it came about.  `pubkey` is the candidate's, in full. -/
def buildPlanAccountsForCandidate (pubkey : Option String) (protocol : Protocol) :
    Outcome Empty (PlanAccountSet × List String) :=
  if protocol ≠ .kamino then
    let seed := (pubkey.bind (Pubkey.fromBase58 c.toBase58)).getD (Pubkey.test 0xA5 1)
    .ok (seedSet feePayer seed, ["non-Kamino: PlanAccountSet::from_seed (live metas TBD)"])
  else
    match pubkey with
    | none =>
      .ok (seedSet feePayer (Pubkey.test 0xA5 2),
        ["missing full pubkey on candidate — seed fallback"])
    | some text =>
      match Pubkey.fromBase58 c.toBase58 text with
      | none => .ok (seedSet feePayer (Pubkey.test 0xA5 3), ["bad obligation pubkey"])
      | some address =>
        match reads.readObligation c address with
        | .ok (some raw) => planAccountsFromObligation c h reads feePayer address raw.data
        | .ok none => .ok (seedSet feePayer address, ["obligation account missing"])
        | .err e => .ok (seedSet feePayer address, ["get_account_info obl: " ++ e.display])
        | .panic => .panic

end Texts

/-! ## The loops

The table of vaults after the loop over the reserves that were fetched, and the overlay made from
it. -/

section Loops

variable {c : Codecs} {vaults : Vaults}

/-- What a reserve of the chain decodes to. -/
def decodedReserve (chain : Pubkey → Option RawAccount) (key : Pubkey) :
    Option LiveReserveVaults :=
  (chain key).bind fun raw =>
    match decodeReserveLiveVaults key raw.data with
    | .ok v => some v
    | .err _ => none
    | .panic => none

/-- A decoded reserve has the address it was read at. -/
lemma address_of_decodeReserve {key : Pubkey} {data : List UInt8} {v : LiveReserveVaults}
    (hv : decodeReserveLiveVaults key data = .ok v) : v.address = key := by
  unfold decodeReserveLiveVaults at hv
  split_ifs at hv with hshort horacles
  · simp only [Outcome.bind_eq_ok] at hv
    obtain ⟨_, -, _, -, _, -, _, -, _, -, _, -, _, -, _, -, _, -, _, -, hv⟩ := hv
    exact nomatch hv
  · simp only [Outcome.bind_eq_ok] at hv
    obtain ⟨_, -, _, -, _, -, _, -, _, -, _, -, _, -, _, -, _, -, _, -, _, -, _, -, _, -, _, -,
      hv⟩ := hv
    obtain rfl := Outcome.ok.inj hv
    rfl

lemma address_of_decodedReserve {chain : Pubkey → Option RawAccount} {key : Pubkey}
    {v : LiveReserveVaults} (hv : decodedReserve chain key = some v) : v.address = key := by
  unfold decodedReserve at hv
  obtain ⟨raw, -, hraw⟩ := Option.bind_eq_some_iff.1 hv
  cases hdecode : decodeReserveLiveVaults key raw.data with
  | ok w =>
      rw [hdecode] at hraw
      obtain rfl := Option.some.inj hraw
      exact address_of_decodeReserve hdecode
  | err e => exact absurd hraw (by simp [hdecode])
  | panic => exact absurd hraw (by simp [hdecode])

/-- One round: the reserve is in the table afterwards if it decodes. -/
lemma vaultStep_eq_ok {chain : Pubkey → Option RawAccount} {fetched : List (Option RawAccount)}
    {entry : Pubkey × ℕ} (hentry : fetched[entry.2]? = some (chain entry.1))
    (state : Vaults × List String) :
    ∃ state', vaultStep c fetched state entry = .ok state' ∧
      ∀ k, state'.1.lookup k =
        if k = entry.1 then (decodedReserve chain k).or (state.1.lookup k)
        else state.1.lookup k := by
  unfold vaultStep decodedReserve
  rw [hentry]
  -- An account that is missing or does not decode leaves the table as it is.
  cases hraw : chain entry.1 with
  | none =>
      refine ⟨_, rfl, fun k => ?_⟩
      split_ifs with hk
      · rw [hk, hraw, Option.bind_none, Option.none_or]
      · rfl
  | some raw =>
      cases hdecode : decodeReserveLiveVaults entry.1 raw.data with
      | ok v =>
          refine ⟨(state.1.insert entry.1 v, state.2), by simp only [hdecode], fun k => ?_⟩
          rw [KeyMap.lookup_insert_eq_ite]
          split_ifs with hk
          · simp [hk, hraw, hdecode]
          · rfl
      | err e =>
          refine ⟨(state.1, _), by simp only [hdecode]; rfl, fun k => ?_⟩
          split_ifs with hk
          · simp [hk, hraw, hdecode]
          · rfl
      | panic => exact absurd hdecode (decodeReserveLiveVaults_ne_panic _)

/-- Any number of rounds over entries that the answer lists in their places. -/
lemma foldlM_vaultStep {chain : Pubkey → Option RawAccount} {fetched : List (Option RawAccount)}
    (entries : List (Pubkey × ℕ)) (hfetched : ∀ e ∈ entries, fetched[e.2]? = some (chain e.1))
    (state : Vaults × List String) :
    ∃ state', entries.foldlM (vaultStep c fetched) state = .ok state' ∧
      ∀ k, state'.1.lookup k =
        if k ∈ entries.map Prod.fst then (decodedReserve chain k).or (state.1.lookup k)
        else state.1.lookup k := by
  induction entries generalizing state with
  | nil => exact ⟨state, rfl, fun k => by simp⟩
  | cons entry entries ih =>
      obtain ⟨mid, hmid, hlookup⟩ := @vaultStep_eq_ok c chain fetched entry
        (hfetched entry List.mem_cons_self) state
      obtain ⟨state', hstate', hrest⟩ :=
        ih (fun e he => hfetched e (List.mem_cons_of_mem _ he)) mid
      refine ⟨state', by rw [List.foldlM_cons, hmid, Outcome.ok_bind, hstate'], fun k => ?_⟩
      rw [hrest, hlookup]
      simp only [List.map_cons, List.mem_cons]
      -- A key read twice is entered twice, with the same vaults.
      by_cases hhead : k = entry.1
      · by_cases htail : k ∈ entries.map Prod.fst
        · rw [if_pos htail, if_pos hhead, if_pos (Or.inl hhead)]
          cases decodedReserve chain k <;> simp
        · rw [if_neg htail, if_pos hhead, if_pos (Or.inl hhead)]
      · simp only [hhead, if_false, false_or]

/-- Where the answer lists the chain's accounts in the order of the keys, the table holds what
decodes. -/
lemma collectVaults_eq_ok (c : Codecs) (chain : Pubkey → Option RawAccount) (keys : List Pubkey)
    (notes : List String) :
    ∃ vaults notes', collectVaults c (keys.map chain) keys notes = .ok (vaults, notes') ∧
      ∀ k, vaults.lookup k = if k ∈ keys then decodedReserve chain k else none := by
  have hplaces : ∀ e ∈ keys.zipIdx, (keys.map chain)[e.2]? = some (chain e.1) := by
    intro e he
    rw [List.getElem?_map, List.mem_zipIdx_iff_getElem?.1 he, Option.map_some]
  obtain ⟨⟨vaults, notes'⟩, hcollect, hlookup⟩ :=
    @foldlM_vaultStep c chain (keys.map chain) keys.zipIdx hplaces (∅, notes)
  refine ⟨vaults, notes', hcollect, fun k => ?_⟩
  rw [hlookup, List.zipIdx_map_fst, AList.lookup_empty, Option.or_none]

lemma refreshOverlay_eq (keys seen : List Pubkey) :
    refreshOverlay vaults seen keys =
      (keepFirst id (fun k => (vaults.lookup k).isSome) seen keys).filterMap fun k =>
        (vaults.lookup k).map PlanAccountSet.refreshAccounts := by
  induction keys generalizing seen with
  | nil => rfl
  | cons key keys ih =>
      rw [refreshOverlay, keepFirst]
      cases hkey : vaults.lookup key with
      | none => simp [hkey, ih]
      | some r =>
          by_cases hseen : key ∈ seen
          · simp [hseen, ih]
          · simp [hseen, hkey, ih]

/-- The overlay has the keys that are in the table. -/
lemma mem_reserves_refreshOverlay (haddress : ∀ k v, vaults.lookup k = some v → v.address = k)
    {keys : List Pubkey} {k : Pubkey} :
    k ∈ (refreshOverlay vaults [] keys).map RefreshReserveAccounts.reserve ↔
      k ∈ keys ∧ (vaults.lookup k).isSome := by
  have hkeys := @mem_keys_keepFirst Pubkey Pubkey _ id (fun k => (vaults.lookup k).isSome) k keys []
  simp only [List.map_id, List.not_mem_nil, not_false_eq_true, true_and] at hkeys
  rw [refreshOverlay_eq, ← hkeys, List.mem_map]
  constructor
  · rintro ⟨r, hr, rfl⟩
    obtain ⟨k, hk, hlookup⟩ := List.mem_filterMap.1 hr
    obtain ⟨v, hv, rfl⟩ := Option.map_eq_some_iff.1 hlookup
    have hreserve : (PlanAccountSet.refreshAccounts v).reserve = k := haddress k v hv
    rwa [hreserve]
  · intro hk
    obtain ⟨v, hv⟩ := Option.isSome_iff_exists.1 (hkeys.1 hk).2
    refine ⟨PlanAccountSet.refreshAccounts v, List.mem_filterMap.2 ⟨k, hk, ?_⟩, haddress k v hv⟩
    rw [hv, Option.map_some]

lemma length_refreshOverlay_le (keys seen : List Pubkey) :
    (refreshOverlay vaults seen keys).length ≤ keys.length := by
  induction keys generalizing seen with
  | nil => exact Nat.le_refl 0
  | cons key keys ih =>
      rw [refreshOverlay, List.length_cons]
      split_ifs with hseen
      · exact (ih seen).trans (Nat.le_succ _)
      · cases vaults.lookup key with
        | none => exact (ih seen).trans (Nat.le_succ _)
        | some r => exact Nat.succ_le_succ (ih _)

lemma mem_pushMissing {keys : List Pubkey} {key k : Pubkey} :
    k ∈ PlanAccountSet.pushMissing keys key ↔ k ∈ keys ∨ k = key := by
  unfold PlanAccountSet.pushMissing
  split_ifs with hkey
  · refine ⟨Or.inl, fun h => h.elim id fun heq => heq ▸ hkey⟩
  · rw [List.mem_append, List.mem_singleton]

lemma mem_foldl_pushMissing {α : Type} (reserve : α → Pubkey) (xs : List α) (keys : List Pubkey)
    {k : Pubkey} :
    k ∈ xs.foldl (fun keys x => PlanAccountSet.pushMissing keys (reserve x)) keys ↔
      k ∈ keys ∨ k ∈ xs.map reserve := by
  induction xs generalizing keys with
  | nil => simp
  | cons x xs ih =>
      rw [List.foldl_cons, ih, mem_pushMissing, List.map_cons, List.mem_cons, or_assoc]

/-- The reserves read: those of the slots, and the two chosen ones. -/
lemma mem_reserveKeys {positions : LiveObligationPositions} {repay withdraw k : Pubkey} :
    k ∈ reserveKeys positions repay withdraw ↔
      k ∈ slotReserves positions ∨ k = repay ∨ k = withdraw := by
  have hlast := @mem_foldl_pushMissing Pubkey id [repay, withdraw]
    (positions.borrows.foldl (fun keys b => PlanAccountSet.pushMissing keys b.reserve)
      (positions.deposits.foldl (fun keys d => PlanAccountSet.pushMissing keys d.reserve) [])) k
  simp only [id, List.map_id, List.mem_cons, List.not_mem_nil, or_false] at hlast
  rw [reserveKeys, hlast, mem_foldl_pushMissing, mem_foldl_pushMissing, slotReserves,
    List.mem_append]
  simp only [List.not_mem_nil, false_or]

/-- The chosen reserves are reserves of slots. -/
lemma mem_slotReserves_of_pick {positions : LiveObligationPositions} {repay withdraw : Pubkey}
    (hpick : pickLiquidateReserves positions = some (repay, withdraw)) :
    repay ∈ slotReserves positions ∧ withdraw ∈ slotReserves positions := by
  unfold pickLiquidateReserves at hpick
  obtain ⟨b, hb, hpick⟩ := Option.bind_eq_some_iff.1 hpick
  obtain ⟨d, hd, hpick⟩ := Option.bind_eq_some_iff.1 hpick
  obtain ⟨rfl, rfl⟩ := Prod.mk.inj (Option.some.inj hpick)
  exact ⟨List.mem_append_right _ (List.mem_map_of_mem (mem_of_maxByKey hb)),
    List.mem_append_left _ (List.mem_map_of_mem (mem_of_maxByKey hd))⟩

end Loops

/-! ## What is read

An answer to a read of several keys is a list of accounts by position.  Where no key is asked for
twice it is the same as a function from keys to accounts, the chain that the read saw. -/

section Reads

/-- An answer of one account or none for each of some different keys is the account of each of
them on some chain. -/
lemma exists_chain {keys : List Pubkey} (hnodup : keys.Nodup) {fetched : List (Option RawAccount)}
    (hlen : fetched.length = keys.length) :
    ∃ chain : Pubkey → Option RawAccount, fetched = keys.map chain := by
  refine ⟨fun k => fetched[keys.idxOf k]?.join, ?_⟩
  refine List.ext_getElem (by rw [List.length_map, hlen]) fun i hi hi' => ?_
  rw [List.length_map] at hi'
  have hplace : keys.idxOf keys[i] = i := hnodup.idxOf_getElem i hi'
  rw [List.getElem_map, hplace, List.getElem?_eq_getElem hi, Option.join_some]

lemma length_of_parseAccounts {c : Codecs} {slot : UInt64} {arr : List Json} {i : ℕ}
    {keys : List Pubkey} {accts : List (Option RawAccount)}
    (h : Bootstrap.parseAccounts c slot arr i keys = .ok accts) : accts.length = keys.length := by
  induction keys generalizing i accts with
  | nil =>
      obtain rfl := Outcome.ok.inj h
      rfl
  | cons key keys ih =>
      obtain ⟨account, -, h⟩ := Outcome.bind_eq_ok.1 h
      obtain ⟨rest, hrest, h⟩ := Outcome.bind_eq_ok.1 h
      obtain rfl : account :: rest = accts := Outcome.ok.inj h
      rw [List.length_cons, List.length_cons, ih hrest]

/-- A read of several keys that comes to a value comes to one entry a key. -/
lemma length_of_getMultipleAccounts {c : Codecs} {serve : Json → Except BootstrapError Json}
    {keys : List Pubkey} {accts : List (Option RawAccount)}
    (h : Call.answered serve (Bootstrap.getMultipleAccounts c keys) = .ok accts) :
    accts.length = keys.length := by
  unfold Bootstrap.getMultipleAccounts at h
  rw [Call.answered_request] at h
  split at h
  · obtain ⟨arr, -, hparse⟩ := Outcome.bind_eq_ok.1 h
    exact length_of_parseAccounts hparse
  · cases h

lemma nodup_pushMissing {keys : List Pubkey} (h : keys.Nodup) (key : Pubkey) :
    (PlanAccountSet.pushMissing keys key).Nodup := by
  unfold PlanAccountSet.pushMissing
  split_ifs with hkey
  · exact h
  · exact List.nodup_append.2 ⟨h, List.nodup_singleton _, fun a ha b hb hab =>
      hkey (List.mem_singleton.1 hb ▸ hab ▸ ha)⟩

lemma nodup_foldl_pushMissing {α : Type} (reserve : α → Pubkey) (xs : List α) {keys : List Pubkey}
    (h : keys.Nodup) :
    (xs.foldl (fun keys x => PlanAccountSet.pushMissing keys (reserve x)) keys).Nodup := by
  induction xs generalizing keys with
  | nil => exact h
  | cons x xs ih => exact ih (nodup_pushMissing h (reserve x))

/-- No reserve is asked for twice. -/
lemma nodup_reserveKeys (positions : LiveObligationPositions) (repay withdraw : Pubkey) :
    (reserveKeys positions repay withdraw).Nodup := by
  have hslots := nodup_foldl_pushMissing LiveBorrowPosition.reserve positions.borrows
    (nodup_foldl_pushMissing LiveDepositPosition.reserve positions.deposits List.nodup_nil)
  exact nodup_foldl_pushMissing id [repay, withdraw] hslots

variable {c : Codecs} {reads : AccountReads}

/-- The reserves read are those of some chain. -/
lemma exists_reserveChain {positions : LiveObligationPositions} {repay withdraw : Pubkey}
    {fetched : List (Option RawAccount)}
    (h : reads.readReserves c (reserveKeys positions repay withdraw) = .ok fetched) :
    ∃ chain : Pubkey → Option RawAccount,
      fetched = (reserveKeys positions repay withdraw).map chain :=
  exists_chain (nodup_reserveKeys positions repay withdraw) (length_of_getMultipleAccounts h)

/-- The last read, of these keys and more, came to no account for the key, or to an error. -/
def NotFound (c : Codecs) (reads : AccountReads) (keys more : List Pubkey) (k : Pubkey) : Prop :=
  ∀ fetched, reads.readTokens c (keys ++ more) = .ok fetched →
    ∃ i : ℕ, keys[i]? = some k ∧ fetched[i]?.join = none

lemma mem_missingAtas {fetched : List (Option RawAccount)} {keys : List Pubkey} {k : Pubkey} :
    k ∈ missingAtas fetched keys ↔ ∃ i : ℕ, keys[i]? = some k ∧ fetched[i]?.join = none := by
  simp only [missingAtas, List.mem_map, List.mem_filter, Option.isNone_iff_eq_none]
  constructor
  · rintro ⟨⟨k', i⟩, ⟨hmem, hnone⟩, rfl⟩
    exact ⟨i, List.mem_zipIdx_iff_getElem?.1 hmem, hnone⟩
  · rintro ⟨i, hi, hnone⟩
    exact ⟨(k, i), ⟨List.mem_zipIdx_iff_getElem?.2 hi, hnone⟩, rfl⟩

/-- The last read panics, or gives a filter and leaves the rest of the set as it is.  The filter
admits the accounts that were not found. -/
lemma prefetchAtas_cases (a : PlanAccountSet) (notes : List String) :
    (reads.readTokens c (ataKeys a ++ a.referrerTokenStates) = .panic ∧
        prefetchAtas c reads a notes = .panic) ∨
      ∃ filter notes', reads.readTokens c (ataKeys a ++ a.referrerTokenStates) ≠ .panic ∧
        prefetchAtas c reads a notes = .ok ({ a with missingAtaFilter := filter }, notes') ∧
        ∀ k ∈ ataKeys a, Admits filter k = true ↔
          NotFound c reads (ataKeys a) a.referrerTokenStates k := by
  unfold prefetchAtas NotFound
  cases htokens : reads.readTokens c (ataKeys a ++ a.referrerTokenStates) with
  | panic => exact Or.inl ⟨rfl, by simp only [htokens]⟩
  | err e =>
      refine Or.inr ⟨none, _, by simp, by simp only [htokens]; rfl, fun k _ => ?_⟩
      exact iff_of_true rfl fun fetched hfetched => nomatch hfetched
  | ok fetched =>
      refine Or.inr ⟨some (missingAtas fetched (ataKeys a)), _, by simp,
        by simp only [htokens]; rfl, fun k _ => ?_⟩
      have hadmits : Admits (some (missingAtas fetched (ataKeys a))) k = true ↔
          k ∈ missingAtas fetched (ataKeys a) := by simp [Admits]
      rw [hadmits, mem_missingAtas]
      simp

end Reads

/-! ## How the preparation ends -/

section Ends

variable (c : Codecs) (h : PdaHash) (reads : AccountReads) (feePayer : Pubkey)

/-- The token accounts of a live set are among the keys of the last read. -/
lemma mem_ataKeys_live {address : Pubkey} {positions : LiveObligationPositions}
    {repay withdraw : LiveReserveVaults} {authority : Pubkey}
    {overlay : List RefreshReserveAccounts} {filter : Option (List Pubkey)} {spec : EnsureAta}
    (hspec : spec ∈ (liveTokenAccounts feePayer repay withdraw).toList) :
    spec.ataAddress h ∈
      ataKeys (shadowSet h address feePayer positions repay withdraw authority overlay
        filter) := by
  show spec.ataAddress h ∈ PlanAccountSet.pushMissing [_, _] _
  rw [mem_pushMissing, List.mem_pair, or_assoc]
  simp only [TokenAccounts.toList, List.mem_cons, List.not_mem_nil, or_false] at hspec
  rcases hspec with rfl | rfl | rfl
  · exact Or.inl rfl
  · exact Or.inr (Or.inl rfl)
  · exact Or.inr (Or.inr rfl)

/-- The reads succeed as far as a live set needs them: the candidate's account is decoded, `repay`
and `withdraw` are the reserves chosen from it, the second read sees the reserves of a chain, and
both are decoded. -/
structure Readable (pubkey : Option String) (protocol : Protocol) (address : Pubkey)
    (positions : LiveObligationPositions) (repay withdraw : LiveReserveVaults)
    (reserveChain : Pubkey → Option RawAccount) : Prop where
  kamino : protocol = .kamino
  key : pubkey.bind (Pubkey.fromBase58 c.toBase58) = some address
  decoded : ∃ raw, reads.readObligation c address = .ok (some raw) ∧
    decodeObligationLivePositions address raw.data = .ok positions
  picked : pickLiquidateReserves positions = some (repay.address, withdraw.address)
  reserves : reads.readReserves c (reserveKeys positions repay.address withdraw.address) =
    .ok ((reserveKeys positions repay.address withdraw.address).map reserveChain)
  repay : decodedReserve reserveChain repay.address = some repay
  withdraw : decodedReserve reserveChain withdraw.address = some withdraw

/-- The keys of the last read for a live set. -/
def tokenKeys (address : Pubkey) (positions : LiveObligationPositions)
    (repay withdraw : LiveReserveVaults) : List Pubkey :=
  let a := shadowSet h address feePayer positions repay withdraw
    (lendingMarketAuthority h positions.header.lendingMarket) [] none
  ataKeys a ++ a.referrerTokenStates

/-- One of the reads panics, when its turn comes. -/
inductive ReadPanics (pubkey : Option String) (protocol : Protocol) : Prop
  | obligation {address : Pubkey} (kamino : protocol = .kamino)
      (key : pubkey.bind (Pubkey.fromBase58 c.toBase58) = some address)
      (panics : reads.readObligation c address = .panic)
  | reserves {address : Pubkey} {raw : RawAccount} {positions : LiveObligationPositions}
      {repay withdraw : Pubkey} (kamino : protocol = .kamino)
      (key : pubkey.bind (Pubkey.fromBase58 c.toBase58) = some address)
      (read : reads.readObligation c address = .ok (some raw))
      (decoded : decodeObligationLivePositions address raw.data = .ok positions)
      (picked : pickLiquidateReserves positions = some (repay, withdraw))
      (panics : reads.readReserves c (reserveKeys positions repay withdraw) = .panic)
  | tokens {address : Pubkey} {positions : LiveObligationPositions}
      {repay withdraw : LiveReserveVaults} {reserveChain : Pubkey → Option RawAccount}
      (readable : Readable c reads pubkey protocol address positions repay withdraw reserveChain)
      (panics : reads.readTokens c (tokenKeys h feePayer address positions repay withdraw) =
        .panic)

/-- How a live set comes about: its overlay has the reserves of slots that were decoded, and its
filter admits the token accounts that were not found. -/
structure Overlaid (address : Pubkey) (positions : LiveObligationPositions)
    (repay withdraw : LiveReserveVaults) (reserveChain : Pubkey → Option RawAccount)
    (overlay : List RefreshReserveAccounts) (filter : Option (List Pubkey)) : Prop where
  length : overlay.length ≤ 13
  mem_iff : ∀ k, k ∈ overlay.map RefreshReserveAccounts.reserve ↔
    k ∈ slotReserves positions ∧ (decodedReserve reserveChain k).isSome
  admits : ∀ spec ∈ (liveTokenAccounts feePayer repay withdraw).toList,
    let a := shadowSet h address feePayer positions repay withdraw
      (lendingMarketAuthority h positions.header.lendingMarket) overlay filter
    Admits filter (spec.ataAddress h) = true ↔
      NotFound c reads (ataKeys a) a.referrerTokenStates (spec.ataAddress h)

/-- How the preparation ends: a read panics, some read is not what a live set needs and the set is
a fallback that signs with the fee payer, or it is the set of the decoded obligation. -/
inductive Prepares (pubkey : Option String) (protocol : Protocol) :
    Outcome Empty (PlanAccountSet × List String) → Prop
  | panics (read : ReadPanics c h reads feePayer pubkey protocol) : Prepares pubkey protocol .panic
  | fallsBack {set : PlanAccountSet} {notes : List String} (payer : set.liquidator = feePayer)
      (fixture : set.fromLiveDecode = false)
      (unread : ∀ address positions repay withdraw chain,
        ¬ Readable c reads pubkey protocol address positions repay withdraw chain) :
      Prepares pubkey protocol (.ok (set, notes))
  | live {address : Pubkey} {positions : LiveObligationPositions}
      {repay withdraw : LiveReserveVaults} {reserveChain : Pubkey → Option RawAccount}
      {overlay : List RefreshReserveAccounts} {filter : Option (List Pubkey)}
      {notes : List String}
      (read : Readable c reads pubkey protocol address positions repay withdraw reserveChain)
      (asked : reads.readTokens c (tokenKeys h feePayer address positions repay withdraw) ≠ .panic)
      (overlaid : Overlaid c h reads feePayer address positions repay withdraw reserveChain overlay
        filter) :
      Prepares pubkey protocol (.ok (shadowSet h address feePayer positions repay withdraw
        (lendingMarketAuthority h positions.header.lendingMarket) overlay filter, notes))

variable {c h reads feePayer}

lemma length_slotReserves_le {address : Pubkey} {data : List UInt8}
    {positions : LiveObligationPositions}
    (hdecode : decodeObligationLivePositions address data = .ok positions) :
    (slotReserves positions).length ≤ 13 := by
  obtain ⟨hdeposits, hborrows⟩ := length_of_decodePositions hdecode
  rw [slotReserves, List.length_append, List.length_map, List.length_map]
  have hmax : liveMaxDeposits + liveMaxBorrows = 13 := rfl
  omega

/-- What a live set needs of the first read is about the candidate's account. -/
lemma Readable.positions_eq {pubkey : Option String} {protocol : Protocol}
    {address address' : Pubkey} {raw : RawAccount} {positions : LiveObligationPositions}
    {repay withdraw : LiveReserveVaults} {chain : Pubkey → Option RawAccount}
    (hread : Readable c reads pubkey protocol address' positions repay withdraw chain)
    (hkey : pubkey.bind (Pubkey.fromBase58 c.toBase58) = some address)
    (hraw : reads.readObligation c address = .ok (some raw)) :
    address' = address ∧ decodeObligationLivePositions address raw.data = .ok positions := by
  obtain rfl := Option.some.inj (hkey.symm.trans hread.key)
  obtain ⟨raw', hraw', hdecode⟩ := hread.decoded
  obtain rfl := Option.some.inj (Outcome.ok.inj (hraw.symm.trans hraw'))
  exact ⟨rfl, hdecode⟩

/-- A live set of a candidate is of the positions of its account and of the two reserves chosen from
them. -/
lemma Readable.picked_eq {pubkey : Option String} {protocol : Protocol} {address address' : Pubkey}
    {raw : RawAccount} {positions positions' : LiveObligationPositions} {repay withdraw : Pubkey}
    {repay' withdraw' : LiveReserveVaults} {chain : Pubkey → Option RawAccount}
    (hread : Readable c reads pubkey protocol address' positions' repay' withdraw' chain)
    (hkey : pubkey.bind (Pubkey.fromBase58 c.toBase58) = some address)
    (hraw : reads.readObligation c address = .ok (some raw))
    (hdecode : decodeObligationLivePositions address raw.data = .ok positions)
    (hpick : pickLiquidateReserves positions = some (repay, withdraw)) :
    address' = address ∧ positions' = positions ∧ repay'.address = repay ∧
      withdraw'.address = withdraw := by
  obtain ⟨rfl, hdecode'⟩ := hread.positions_eq hkey hraw
  obtain rfl := Outcome.ok.inj (hdecode.symm.trans hdecode')
  obtain ⟨hrepay, hwithdraw⟩ := Prod.mk.inj (Option.some.inj (hread.picked.symm.trans hpick))
  exact ⟨rfl, rfl, hrepay, hwithdraw⟩

/-- Another chain that the second read sees gives the same two reserves. -/
lemma Readable.decodedReserve_eq {pubkey : Option String} {protocol : Protocol}
    {address : Pubkey} {positions : LiveObligationPositions} {repay withdraw : LiveReserveVaults}
    {chain chain' : Pubkey → Option RawAccount}
    (hread : Readable c reads pubkey protocol address positions repay withdraw chain)
    (hreserves : reads.readReserves c (reserveKeys positions repay.address withdraw.address) =
      .ok ((reserveKeys positions repay.address withdraw.address).map chain')) :
    decodedReserve chain' repay.address = some repay ∧
      decodedReserve chain' withdraw.address = some withdraw := by
  have hchains := List.map_inj_left.1 (Outcome.ok.inj (hreserves.symm.trans hread.reserves))
  have hrepay := hchains repay.address (mem_reserveKeys.2 (Or.inr (Or.inl rfl)))
  have hwithdraw := hchains withdraw.address (mem_reserveKeys.2 (Or.inr (Or.inr rfl)))
  refine ⟨?_, ?_⟩
  · rw [decodedReserve, hrepay]
    exact hread.repay
  · rw [decodedReserve, hwithdraw]
    exact hread.withdraw

/-- A candidate has one live set at most, up to overlay and filter. -/
lemma Readable.unique {pubkey : Option String} {protocol : Protocol} {address address' : Pubkey}
    {positions positions' : LiveObligationPositions}
    {repay repay' withdraw withdraw' : LiveReserveVaults}
    {chain chain' : Pubkey → Option RawAccount}
    (hread : Readable c reads pubkey protocol address positions repay withdraw chain)
    (hread' : Readable c reads pubkey protocol address' positions' repay' withdraw' chain') :
    address' = address ∧ positions' = positions ∧ repay' = repay ∧ withdraw' = withdraw := by
  obtain ⟨raw, hraw, hdecode⟩ := hread.decoded
  obtain ⟨rfl, rfl, hrepay, hwithdraw⟩ := hread'.picked_eq hread.key hraw hdecode hread.picked
  have hreserves := hread'.reserves
  have hr := hread'.repay
  have hw := hread'.withdraw
  rw [hrepay, hwithdraw] at hreserves
  rw [hrepay] at hr
  rw [hwithdraw] at hw
  obtain ⟨hr', hw'⟩ := hread.decodedReserve_eq hreserves
  exact ⟨rfl, rfl, Option.some.inj (hr.symm.trans hr'), Option.some.inj (hw.symm.trans hw')⟩

section Candidate

variable {pubkey : Option String} {address : Pubkey} {raw : RawAccount}

/-- From the decoded reserves on: only the last read is left, for the set with the overlay. -/
lemma prepares_prefetchAtas {positions : LiveObligationPositions}
    {repay withdraw : LiveReserveVaults} {chain : Pubkey → Option RawAccount} {vaults : Vaults}
    (hread : Readable c reads pubkey .kamino address positions repay withdraw chain)
    (hlookup : ∀ k, vaults.lookup k =
      if k ∈ reserveKeys positions repay.address withdraw.address then decodedReserve chain k
      else none)
    (notes : List String) :
    Prepares c h reads feePayer pubkey .kamino
      (prefetchAtas c reads (shadowSet h address feePayer positions repay withdraw
        (lendingMarketAuthority h positions.header.lendingMarket)
        (refreshOverlay vaults [] (slotReserves positions)) none) notes) := by
  obtain ⟨raw, -, hdecode⟩ := hread.decoded
  have haddress : ∀ k v, vaults.lookup k = some v → v.address = k := by
    intro k v hv
    rw [hlookup] at hv
    split_ifs at hv
    exact address_of_decodedReserve hv
  rcases @prefetchAtas_cases c reads (shadowSet h address feePayer positions repay withdraw
      (lendingMarketAuthority h positions.header.lendingMarket)
      (refreshOverlay vaults [] (slotReserves positions)) none) notes with
    ⟨htokens, hpanic⟩ | ⟨filter, last, hasked, hok, hadmits⟩
  · rw [hpanic]
    exact .panics (.tokens hread htokens)
  · rw [hok]
    refine .live hread hasked ⟨?_, fun k => ?_, fun spec hspec => ?_⟩
    · exact (length_refreshOverlay_le _ _).trans (length_slotReserves_le hdecode)
    · show k ∈ (refreshOverlay vaults [] (slotReserves positions)).map
        RefreshReserveAccounts.reserve ↔ _
      rw [mem_reserves_refreshOverlay haddress, hlookup]
      refine and_congr_right fun hk => ?_
      rw [if_pos (mem_reserveKeys.2 (Or.inl hk))]
    · exact hadmits _ (mem_ataKeys_live h feePayer hspec)

/-- From the chosen reserves on: they are read, and the token accounts of the set they give. -/
lemma prepares_planAccountsFromReserves {positions : LiveObligationPositions}
    {repay withdraw : Pubkey}
    (hkey : pubkey.bind (Pubkey.fromBase58 c.toBase58) = some address)
    (hraw : reads.readObligation c address = .ok (some raw))
    (hdecode : decodeObligationLivePositions address raw.data = .ok positions)
    (hpick : pickLiquidateReserves positions = some (repay, withdraw)) (notes : List String) :
    Prepares c h reads feePayer pubkey .kamino
      (planAccountsFromReserves c h reads feePayer address positions repay withdraw notes) := by
  unfold planAccountsFromReserves
  cases hreserves : reads.readReserves c (reserveKeys positions repay withdraw) with
  | panic =>
      simp only [hreserves]
      exact .panics (.reserves rfl hkey hraw hdecode hpick hreserves)
  | err e =>
      simp only [hreserves]
      refine .fallsBack rfl rfl fun _ _ _ _ _ hread => ?_
      obtain ⟨rfl, rfl, rfl, rfl⟩ := hread.picked_eq hkey hraw hdecode hpick
      exact nomatch hreserves.symm.trans hread.reserves
  | ok fetched =>
      obtain ⟨chain, rfl⟩ := exists_reserveChain hreserves
      obtain ⟨vaults, notes', hcollect, hlookup⟩ :=
        collectVaults_eq_ok c chain (reserveKeys positions repay withdraw) notes
      have hrepay : vaults.lookup repay = decodedReserve chain repay := by
        rw [hlookup, if_pos (mem_reserveKeys.2 (Or.inr (Or.inl rfl)))]
      have hwithdraw : vaults.lookup withdraw = decodedReserve chain withdraw := by
        rw [hlookup, if_pos (mem_reserveKeys.2 (Or.inr (Or.inr rfl)))]
      -- The chain of a live set answers the same for the keys that were asked for.
      have hagree : ∀ {address' positions' repay' withdraw' chain'},
          Readable c reads pubkey .kamino address' positions' repay' withdraw' chain' →
            decodedReserve chain repay = some repay' ∧
              decodedReserve chain withdraw = some withdraw' := by
        intro address' positions' repay' withdraw' chain' hread
        obtain ⟨rfl, rfl, rfl, rfl⟩ := hread.picked_eq hkey hraw hdecode hpick
        exact hread.decodedReserve_eq hreserves
      simp only [hreserves, hcollect, Outcome.ok_bind, hrepay, hwithdraw]
      cases hr : decodedReserve chain repay with
      | none =>
          refine .fallsBack rfl rfl fun _ _ _ _ _ hread => ?_
          exact nomatch hr.symm.trans (hagree hread).1
      | some repayV =>
          cases hw : decodedReserve chain withdraw with
          | none =>
              refine .fallsBack rfl rfl fun _ _ _ _ _ hread => ?_
              exact nomatch hw.symm.trans (hagree hread).2
          | some withdrawV =>
              obtain rfl := address_of_decodedReserve hr
              obtain rfl := address_of_decodedReserve hw
              exact prepares_prefetchAtas
                ⟨rfl, hkey, ⟨raw, hraw, hdecode⟩, hpick, hreserves, hr, hw⟩ hlookup _

/-- From the obligation's data on. -/
lemma prepares_planAccountsFromObligation
    (hkey : pubkey.bind (Pubkey.fromBase58 c.toBase58) = some address)
    (hraw : reads.readObligation c address = .ok (some raw)) :
    Prepares c h reads feePayer pubkey .kamino
      (planAccountsFromObligation c h reads feePayer address raw.data) := by
  unfold planAccountsFromObligation
  cases hdecode : decodeObligationLivePositions address raw.data with
  | panic => exact absurd hdecode (decodeObligationLivePositions_ne_panic _)
  | err e =>
      refine .fallsBack rfl rfl fun _ _ _ _ _ hread => ?_
      exact nomatch hdecode.symm.trans (hread.positions_eq hkey hraw).2
  | ok positions =>
      -- An obligation with nothing to repay or nothing to seize has no live set either.
      cases hpick : pickLiquidateReserves positions with
      | none =>
          simp only [hpick]
          refine .fallsBack rfl rfl fun _ _ _ _ _ hread => ?_
          obtain rfl := Outcome.ok.inj (hdecode.symm.trans (hread.positions_eq hkey hraw).2)
          exact nomatch hpick.symm.trans hread.picked
      | some chosen =>
          simp only [hpick]
          exact prepares_planAccountsFromReserves hkey hraw hdecode hpick _

end Candidate

variable (c h reads feePayer)

/-- **The whole preparation.** -/
lemma prepares_buildPlanAccountsForCandidate (pubkey : Option String) (protocol : Protocol) :
    Prepares c h reads feePayer pubkey protocol
      (buildPlanAccountsForCandidate c h reads feePayer pubkey protocol) := by
  unfold buildPlanAccountsForCandidate
  by_cases hprotocol : protocol = .kamino
  · rw [if_neg (not_not.2 hprotocol)]
    subst hprotocol
    cases pubkey with
    -- A candidate without an address is planned on its fixture set.
    | none => exact .fallsBack rfl rfl fun _ _ _ _ _ hread => nomatch hread.key
    | some text =>
        cases hkey : Pubkey.fromBase58 c.toBase58 text with
        | none =>
            simp only [hkey]
            exact .fallsBack rfl rfl fun _ _ _ _ _ hread => nomatch hkey.symm.trans hread.key
        | some address =>
            -- What the first read comes to, if it is no account, no live set needs.
            have hunread : (∀ raw, reads.readObligation c address ≠ .ok (some raw)) →
                ∀ address' positions repay withdraw chain,
                  ¬ Readable c reads (some text) .kamino address' positions repay withdraw
                    chain := by
              intro hnone address' positions repay withdraw chain hread
              obtain rfl := Option.some.inj (hkey.symm.trans hread.key)
              obtain ⟨raw, hraw, -⟩ := hread.decoded
              exact hnone raw hraw
            cases hread : reads.readObligation c address with
            | panic =>
                simp only [hkey, hread]
                exact .panics (.obligation rfl hkey hread)
            | err e =>
                simp only [hkey, hread]
                exact .fallsBack rfl rfl (hunread fun raw hraw => nomatch hread.symm.trans hraw)
            | ok found =>
                cases found with
                | none =>
                    simp only [hkey, hread]
                    exact .fallsBack rfl rfl
                      (hunread fun raw hraw => nomatch hread.symm.trans hraw)
                | some raw =>
                    simp only [hkey, hread]
                    exact prepares_planAccountsFromObligation hkey hread
  · rw [if_pos hprotocol]
    exact .fallsBack rfl rfl fun _ _ _ _ _ hread => hprotocol hread.kamino

/-- A candidate with a key is prepared from the account under it. -/
lemma buildPlanAccountsForCandidate_of_key {pubkey : Option String} {address : Pubkey}
    (hkey : pubkey.bind (Pubkey.fromBase58 c.toBase58) = some address) :
    buildPlanAccountsForCandidate c h reads feePayer pubkey .kamino =
      match reads.readObligation c address with
      | .ok (some raw) => planAccountsFromObligation c h reads feePayer address raw.data
      | .ok none => .ok (seedSet feePayer address, ["obligation account missing"])
      | .err e => .ok (seedSet feePayer address, ["get_account_info obl: " ++ e.display])
      | .panic => .panic := by
  cases pubkey with
  | none => exact nomatch hkey
  | some text =>
      have hkey : Pubkey.fromBase58 c.toBase58 text = some address := hkey
      unfold buildPlanAccountsForCandidate
      rw [if_neg (not_not.2 rfl)]
      simp only [hkey]

/-- The preparation panics exactly when a read does, in its turn. -/
lemma buildPlanAccountsForCandidate_eq_panic_iff (pubkey : Option String) (protocol : Protocol) :
    buildPlanAccountsForCandidate c h reads feePayer pubkey protocol = .panic ↔
      ReadPanics c h reads feePayer pubkey protocol := by
  have hends := prepares_buildPlanAccountsForCandidate c h reads feePayer pubkey protocol
  constructor
  · intro hpanic
    rw [hpanic] at hends
    cases hends with
    | panics read => exact read
  · intro hread
    -- The three reads stand one behind the other, so each panics with what it needs already read.
    cases hread with
    | obligation hkamino hkey hpanic =>
        rw [hkamino, buildPlanAccountsForCandidate_of_key c h reads feePayer hkey, hpanic]
    | reserves hkamino hkey hraw hdecode hpick hpanic =>
        rw [hkamino, buildPlanAccountsForCandidate_of_key c h reads feePayer hkey, hraw]
        simp only [planAccountsFromObligation, hdecode, hpick, planAccountsFromReserves, hpanic]
    | @tokens address positions repay withdraw chain hread hpanic =>
        generalize buildPlanAccountsForCandidate c h reads feePayer pubkey protocol = build at hends
        cases hends with
        | panics read => rfl
        | fallsBack payer fixture unread => exact absurd hread (unread _ _ _ _ _)
        | live read asked overlaid =>
            obtain ⟨rfl, rfl, rfl, rfl⟩ := read.unique hread
            exact absurd hpanic asked

/-! ## The plans of a candidate -/

section Plans

variable {c h reads feePayer} {address : Pubkey} {positions : LiveObligationPositions}
  {repay withdraw : LiveReserveVaults} {reserveChain : Pubkey → Option RawAccount}
  {overlay : List RefreshReserveAccounts} {filter : Option (List Pubkey)}

/-- The reserves that a plan with the overlay refreshes first. -/
lemma mem_uniqueRefreshReserveKeys_overlaid {p : KaminoTxBuildParams}
    (hover : Overlaid c h reads feePayer address positions repay withdraw reserveChain overlay
      filter)
    (hrefresh : p.refreshReserves = overlay) (hne : overlay ≠ []) {r : Pubkey} :
    r ∈ p.uniqueRefreshReserveKeys ↔
      r ∈ slotReserves positions ∧ (decodedReserve reserveChain r).isSome := by
  rw [KaminoTxBuildParams.uniqueRefreshReserveKeys, if_pos (hrefresh ▸ hne),
    mem_firstOccurrences, hrefresh, hover.mem_iff]
  simp

/-- Both plans list the slots, and refresh them all exactly when all of them were decoded. -/
lemma covered_overlaid_iff {p : KaminoTxBuildParams}
    (hover : Overlaid c h reads feePayer address positions repay withdraw reserveChain overlay
      filter)
    (hrefresh : p.refreshReserves = overlay) (hne : overlay ≠ [])
    (hslots : p.depositReserves ++ p.borrowReserves = slotReserves positions)
    (hslot : slotReserves positions ≠ []) :
    (∀ r ∈ p.obligationReserves p.uniqueRefreshReserveKeys, r ∈ p.uniqueRefreshReserveKeys) ↔
      ∀ r ∈ slotReserves positions, (decodedReserve reserveChain r).isSome := by
  rw [obligationReserves_of_ne_nil p (hslots ▸ hslot), hslots]
  simp only [mem_uniqueRefreshReserveKeys_overlaid hover hrefresh hne]
  exact forall₂_congr fun r hr => and_iff_right hr

lemma covered_flash_overlaid {p : KaminoTxBuildParams}
    (hover : Overlaid c h reads feePayer address positions repay withdraw reserveChain overlay
      filter)
    (hrefresh : p.refreshReserves = overlay) (hne : overlay ≠ [])
    (hslots : p.depositReserves ++ p.borrowReserves = slotReserves positions)
    (hslot : slotReserves positions ≠ []) (borrowAcc : Kamino.FlashBorrowAccounts)
    (repayAcc : Kamino.FlashRepayAccounts) :
    Covered p.referrerTokenStates.length
        (flashHead h p borrowAcc ++ [flashLast h p repayAcc]) ↔
      ∀ r ∈ slotReserves positions, (decodedReserve reserveChain r).isSome := by
  obtain ⟨refreshed, hpost, -, -⟩ := p.postFlashRefreshIxs_eq borrowAcc.reserve
  rw [covered_flashHead h p borrowAcc repayAcc hpost,
    covered_overlaid_iff hover hrefresh hne hslots hslot]
  -- The second list is the first one, so it is covered by the same refreshes
  refine and_iff_left_of_imp fun hall r hr => Or.inl ?_
  rw [obligationReserves_of_ne_nil p (hslots ▸ hslot), hslots] at hr
  exact (mem_uniqueRefreshReserveKeys_overlaid hover hrefresh hne).2 ⟨hr, hall r hr⟩

lemma covered_inventory_overlaid {p : KaminoTxBuildParams}
    (hover : Overlaid c h reads feePayer address positions repay withdraw reserveChain overlay
      filter)
    (hrefresh : p.refreshReserves = overlay) (hne : overlay ≠ [])
    (hslots : p.depositReserves ++ p.borrowReserves = slotReserves positions)
    (hslot : slotReserves positions ≠ []) :
    Covered p.referrerTokenStates.length (p.preludeIxs h ++ [p.liquidateIx]) ↔
      ∀ r ∈ slotReserves positions, (decodedReserve reserveChain r).isSome := by
  have hliquidate : CoveredAfter p.referrerTokenStates.length ([] ++ p.preludeIxs h)
      [p.liquidateIx] := by
    refine coveredAfter_of_not_refreshObligation (fun l hl hkind => ?_) _ _
    obtain rfl := List.mem_singleton.1 hl
    exact nomatch hkind.unique p.isLiquidateV2_liquidateIx
  rw [Covered, coveredAfter_append, and_iff_left hliquidate, ← Covered, covered_preludeIxs]
  exact covered_overlaid_iff hover hrefresh hne hslots hslot

variable (c h reads feePayer)

/-- **What the plans of a candidate are worth.**  Whatever the node answers in the three reads, the
preparation panics exactly when a read does, in its turn; else a set comes back.  Where the swaps
ask for no other signer, every plan built from it is signed by the fee payer alone.  The set is
live exactly when the candidate's account and the two reserves chosen from it decode.  Then the
flash plan is in order; both plans refresh every reserve they list exactly when the reserves of all
slots decode; and where the derivation tells the three token accounts apart, those created before
the borrow are those the last read did not find. -/
theorem candidate_accounts_plan (pubkey : Option String) (protocol : Protocol) (amount : UInt64)
    (blob : JupiterQuoteBlob) :
    (buildPlanAccountsForCandidate c h reads feePayer pubkey protocol = .panic ↔
      ReadPanics c h reads feePayer pubkey protocol) ∧
    ∀ set notes, buildPlanAccountsForCandidate c h reads feePayer pubkey protocol =
        .ok (set, notes) →
      (SignsOnly feePayer blob.instructions → ∀ protocol strategy,
        SignsOnly feePayer (buildStrategyIxs h protocol strategy set amount blob).labeled) ∧
      (set.fromLiveDecode = true ↔ ∃ address positions repay withdraw chain,
        Readable c reads pubkey protocol address positions repay withdraw chain) ∧
      (set.fromLiveDecode = true → ∃ positions repay withdraw chain head last i j inventory,
        Readable c reads pubkey protocol set.obligation positions repay withdraw chain ∧
        (buildStrategyIxs h .kamino .kaminoFlashBorrow set amount blob).labeled =
          head ++ blob.instructions ++ [last] ∧
        (buildStrategyIxs h .kamino .inventory set amount blob).labeled =
          inventory ++ blob.instructions ∧
        FlashOrder repay.address withdraw.address amount head last i j ∧
        (Covered set.referrerTokenStates.length (head ++ [last]) ↔
          ∀ r ∈ slotReserves positions, (decodedReserve chain r).isSome) ∧
        (Covered set.referrerTokenStates.length inventory ↔
          ∀ r ∈ slotReserves positions, (decodedReserve chain r).isSome) ∧
        ((liveTokenAccounts feePayer repay withdraw).ToldApart h →
          CreatesUsed h (liveTokenAccounts feePayer repay withdraw) set.missingAtaFilter
            (head ++ [last]) i) ∧
        ∀ spec ∈ (liveTokenAccounts feePayer repay withdraw).toList,
          Admits set.missingAtaFilter (spec.ataAddress h) = true ↔
            NotFound c reads (ataKeys set) set.referrerTokenStates (spec.ataAddress h)) := by
  refine ⟨buildPlanAccountsForCandidate_eq_panic_iff c h reads feePayer pubkey protocol,
    fun set notes hbuild => ?_⟩
  have hends := prepares_buildPlanAccountsForCandidate c h reads feePayer pubkey protocol
  rw [hbuild] at hends
  cases hends with
  | fallsBack hpayer hfixture hunread =>
      refine ⟨fun hswaps protocol strategy => ?_, ⟨fun hlive => ?_, ?_⟩, fun hlive => ?_⟩
      · subst hpayer
        exact signsOnly_buildStrategyIxs h protocol strategy set amount hswaps
      · exact absurd hlive (by simp [hfixture])
      · rintro ⟨_, _, _, _, _, hread⟩
        exact absurd hread (hunread _ _ _ _ _)
      · exact absurd hlive (by simp [hfixture])
  | @live address positions repay withdraw chain overlay filter _ hread hasked hover =>
      obtain ⟨hrepaySlot, -⟩ := mem_slotReserves_of_pick hread.picked
      have hslot : slotReserves positions ≠ [] := List.ne_nil_of_mem hrepaySlot
      -- The overlay holds the repay reserve at least, so the plan refreshes by it and not by the
      -- two chosen reserves.
      have hne : overlay ≠ [] := by
        rintro rfl
        have hmem := (hover.mem_iff repay.address).2
          ⟨hrepaySlot, Option.isSome_iff_exists.2 ⟨_, hread.repay⟩⟩
        exact absurd hmem List.not_mem_nil
      obtain ⟨raw, -, hdecode⟩ := hread.decoded
      let set := shadowSet h address feePayer positions repay withdraw
        (lendingMarketAuthority h positions.header.lendingMarket) overlay filter
      let p := set.kaminoParams h set.flashReserves amount (some set.kaminoFlashPair)
      let q := set.kaminoParams h set.inventoryReserves amount none
      refine ⟨fun hswaps protocol strategy =>
        signsOnly_buildStrategyIxs h protocol strategy set amount hswaps,
        iff_of_true rfl ⟨address, positions, repay, withdraw, chain, hread⟩, fun _ =>
        ⟨positions, repay, withdraw, chain, flashHead h p set.kaminoFlashPair.1,
          flashLast h p set.kaminoFlashPair.2, (p.preludeIxs h).length,
          liquidatePos h p set.kaminoFlashPair.1, q.preludeIxs h ++ [q.liquidateIx], hread, ?_,
          rfl, ?_, ?_, ?_,
          fun hinj => createsUsed_flash address positions _ overlay filter amount hinj,
          hover.admits⟩⟩
      · show (buildFlashTx h p blob.instructions).getD [] = _
        rw [buildFlashTx_eq h p set.kaminoFlashPair.1 set.kaminoFlashPair.2 rfl, Option.getD_some]
      · exact flashOrder_flashHead h p set.kaminoFlashPair.1 set.kaminoFlashPair.2
          (length_preludeIxs_live_lt h hdecode address feePayer repay withdraw _ hover.length filter
            amount (some set.kaminoFlashPair))
      · exact @covered_flash_overlaid c h reads feePayer address positions repay withdraw chain
          overlay filter p hover rfl hne rfl hslot set.kaminoFlashPair.1 set.kaminoFlashPair.2
      · exact @covered_inventory_overlaid c h reads feePayer address positions repay withdraw chain
          overlay filter q hover rfl hne rfl hslot

end Plans

end Ends

/-! ## A candidate of a small mainnet -/

open Discovery RpcServer

/-- A node that answers all three reads from the accounts it holds. -/
def heldReads : AccountReads := ⟨heldAnswers, heldAnswers, heldAnswers⟩

lemma readObligation_held (key : Pubkey) :
    heldReads.readObligation standardCodecs key =
      .ok ((held.find? fun a => a.pubkey = key).map (RawAccount.atSlot 42)) :=
  answered_getAccountInfo (holds_serve 42 held [key] []) (List.mem_singleton_self key)

lemma readReserves_held (keys : List Pubkey) :
    heldReads.readReserves standardCodecs keys =
      .ok (keys.map fun key => (held.find? fun a => a.pubkey = key).map (RawAccount.atSlot 42)) :=
  (answered_getMultipleAccounts_smallMainnet keys).trans (congrArg _ (List.map_map ..))

lemma readTokens_held (keys : List Pubkey) :
    heldReads.readTokens standardCodecs keys =
      .ok (keys.map fun key => (held.find? fun a => a.pubkey = key).map (RawAccount.atSlot 42)) :=
  readReserves_held keys

/-- None of the reads panics. -/
lemma not_readPanics_held (h : PdaHash) (feePayer : Pubkey) (pubkey : Option String)
    (protocol : Protocol) : ¬ ReadPanics standardCodecs h heldReads feePayer pubkey protocol := by
  intro hread
  cases hread with
  | obligation _ _ hpanic => exact nomatch (readObligation_held _).symm.trans hpanic
  | reserves _ _ _ _ _ hpanic => exact nomatch (readReserves_held _).symm.trans hpanic
  | tokens _ hpanic => exact nomatch (readTokens_held _).symm.trans hpanic

lemma find_overdrawn : (held.find? fun a => a.pubkey = .test 60 2) = some overdrawnAccount := by
  have hvault : vaultAccount.pubkey ≠ .test 60 2 := by decide
  have hoverdrawn : overdrawnAccount.pubkey = .test 60 2 := rfl
  simp [held, hvault, hoverdrawn]

lemma find_vault : (held.find? fun a => a.pubkey = .test 60 1) = some vaultAccount := by
  have hvault : vaultAccount.pubkey = .test 60 1 := rfl
  simp [held, hvault]

lemma decodedReserve_vault :
    decodedReserve (fun key =>
      (held.find? fun a => a.pubkey = key).map (RawAccount.atSlot 42)) (.test 60 1) =
        some (vaultsOf (.test 60 1) dollarVault) := by
  have hdecode : decodeReserveLiveVaults (.test 60 1) (vaultAccount.atSlot 42).data =
      .ok (vaultsOf (.test 60 1) dollarVault) :=
    decodeReserveLiveVaults_account _ (.test 60 1) dollarVault
  simp only [decodedReserve, find_vault, Option.map_some, Option.bind_some, hdecode]

/-- The overdrawn obligation has a live set. -/
lemma readable_overdrawn :
    Readable standardCodecs heldReads (some ((Pubkey.test 60 2).toBase58 .bitcoin)) .kamino
      (.test 60 2) (positionsOf (.test 60 2) overdrawn) (vaultsOf (.test 60 1) dollarVault)
      (vaultsOf (.test 60 1) dollarVault)
      (fun key => (held.find? fun a => a.pubkey = key).map (RawAccount.atSlot 42)) where
  kamino := rfl
  key := Pubkey.fromBase58_toBase58 (.test 60 2)
  decoded := by
    refine ⟨overdrawnAccount.atSlot 42, ?_,
      decodeObligationLivePositions_account _ (.test 60 2) overdrawn⟩
    rw [readObligation_held, find_overdrawn, Option.map_some]
  picked := by decide +kernel
  reserves := readReserves_held _
  repay := decodedReserve_vault
  withdraw := decodedReserve_vault

/-- The overdrawn obligation is planned from its own account and its reserve, and its flash plan
covers what it lists. -/
theorem candidate_accounts_plan_overdrawn :
    ∃ set notes head last i j,
      buildPlanAccountsForCandidate standardCodecs .prefixHash heldReads (Pubkey.test 2 1)
        (some ((Pubkey.test 60 2).toBase58 .bitcoin)) .kamino = .ok (set, notes) ∧
      set.fromLiveDecode = true ∧
      (buildStrategyIxs .prefixHash .kamino .kaminoFlashBorrow set 1000000 .default).labeled =
        head ++ [last] ∧
      FlashOrder (.test 60 1) (.test 60 1) 1000000 head last i j ∧
      Covered set.referrerTokenStates.length (head ++ [last]) := by
  obtain ⟨hpanic, hends⟩ := candidate_accounts_plan standardCodecs .prefixHash heldReads
    (Pubkey.test 2 1) (some ((Pubkey.test 60 2).toBase58 .bitcoin)) .kamino 1000000 .default
  cases hbuild : buildPlanAccountsForCandidate standardCodecs .prefixHash heldReads
      (Pubkey.test 2 1) (some ((Pubkey.test 60 2).toBase58 .bitcoin)) .kamino with
  | err e => exact e.elim
  | panic => exact absurd (hpanic.1 hbuild) (not_readPanics_held _ _ _ _)
  | ok built =>
      obtain ⟨set, notes⟩ := built
      obtain ⟨-, hlive, hplan⟩ := hends set notes hbuild
      have hlive := hlive.2 ⟨_, _, _, _, _, readable_overdrawn⟩
      obtain ⟨positions, repay, withdraw, chain, head, last, i, j, inventory, hread, hlabeled, -,
        horder, hcovered, -⟩ := hplan hlive
      obtain ⟨-, rfl, rfl, rfl⟩ := readable_overdrawn.unique hread
      have hslots : ∀ r ∈ slotReserves (positionsOf (.test 60 2) overdrawn), r = .test 60 1 := by
        decide +kernel
      refine ⟨set, notes, head, last, i, j, rfl, hlive, ?_, horder, hcovered.2 fun r hr => ?_⟩
      · rw [hlabeled]
        exact congrArg (· ++ [last]) (List.append_nil head)
      · obtain rfl := hslots r hr
        exact Option.isSome_iff_exists.2 ⟨_, hread.repay⟩

end Grokbotliq.Execution
