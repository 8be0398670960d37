import Grokbotliq.Execution.PlanRefresh

/-!
# What a `refresh_obligation` lists

Klend matches the accounts after market and obligation against the obligation's slots, one by
one.  The list travels far: it is decoded from the account, copied into the account set, from
there into the build parameters, and emitted in front of the flash loan and after it.
`live_refresh_obligation_lists` says that it arrives as it was in the account.

A decoded list of positions is the list of occupied slots (`decodePositions_slots`), and every
later stage copies it.  The only place where it could be lost is the builder's fallback for an
obligation without slots, which lists what was refreshed instead.
-/

namespace Grokbotliq

namespace Kamino

instance : DecidablePred IsRefreshObligation := fun l =>
  inferInstanceAs (Decidable (l.ix.IsCall Programs.klend KlendIx.refreshObligation.disc))

/-! ## Slots in order

The decoder goes through eight deposit slots and five borrow slots and keeps those in use. -/

/-- What the occupied ones of the first `count` slots hold, in slot order. -/
def occupiedSlots {α : Type} (slot : ℕ → Outcome DecodeError (Option α)) (count : ℕ) : List α :=
  (List.range count).filterMap fun i =>
    match slot i with
    | .ok x => x
    | .err _ => none
    | .panic => none

lemma collectSlots_occupied {α : Type} {slot : ℕ → Outcome DecodeError (Option α)} (count i : ℕ)
    {xs : List α} (h : collectSlots slot i count = .ok xs) :
    xs = occupiedSlots (fun j => slot (i + j)) count := by
  induction count generalizing i xs with
  | zero =>
      rw [collectSlots, Outcome.ok.injEq] at h
      exact h.symm
  | succ count ih =>
      obtain ⟨here, hhere, h⟩ := Outcome.bind_eq_ok.1 h
      obtain ⟨rest, hrest, h⟩ := Outcome.bind_eq_ok.1 h
      rw [Outcome.pure_eq, Outcome.ok.injEq] at h
      have htail := ih (i + 1) hrest
      rw [← h, htail, occupiedSlots, occupiedSlots, List.range_succ_eq_map, List.filterMap_cons,
        List.filterMap_map]
      have hshift : ∀ j, slot (i + (j + 1)) = slot (i + 1 + j) := fun j => by
        rw [Nat.add_assoc, Nat.add_comm 1 j]
      simp only [Nat.add_zero, hhere, Function.comp_def, Nat.succ_eq_add_one, hshift]
      cases here <;> rfl

/-- Decoded positions are the occupied slots of the account, deposits and borrows each in slot
order. -/
lemma decodePositions_slots {address : Pubkey} {data : List UInt8}
    {pos : LiveObligationPositions} (h : decodeObligationLivePositions address data = .ok pos) :
    pos.deposits = occupiedSlots (depositSlot data) liveMaxDeposits ∧
      pos.borrows = occupiedSlots (borrowSlot data) liveMaxBorrows := by
  obtain ⟨header, -, h⟩ := Outcome.bind_eq_ok.1 h
  by_cases hshort : data.length < liveBorrowsOffset + liveMaxBorrows * obligationLiquiditySize
  · rw [if_pos hshort] at h
    exact absurd h (by simp)
  · rw [if_neg hshort] at h
    obtain ⟨deposits, hdeposits, h⟩ := Outcome.bind_eq_ok.1 h
    obtain ⟨borrows, hborrows, h⟩ := Outcome.bind_eq_ok.1 h
    rw [Outcome.pure_eq, Outcome.ok.injEq] at h
    have hd := collectSlots_occupied _ _ hdeposits
    have hb := collectSlots_occupied _ _ hborrows
    simp only [Nat.zero_add] at hd hb
    rw [← h]
    exact ⟨hd, hb⟩

end Kamino

namespace Execution

open Kamino

/-! ## The `refresh_obligation`s of a plan -/

section Pieces

variable (h : PdaHash) (p : KaminoTxBuildParams)

lemma filter_eq_nil {plan : Plan} (hplan : ∀ l ∈ plan, ¬ IsRefreshObligation l) :
    plan.filter (fun l => IsRefreshObligation l) = [] := by
  rw [List.filter_eq_nil_iff]
  exact fun l hl => by simpa using hplan l hl

/-- Refreshes of reserves, and then of the obligation. -/
lemma filter_refreshes (keys seen : List Pubkey) :
    (keys.map p.refreshReserveIx ++ [p.refreshObligationIx seen]).filter
      (fun l => IsRefreshObligation l) = [p.refreshObligationIx seen] := by
  rw [List.filter_append, filter_eq_nil fun l hl => not_isRefreshObligation_of_mem_map p hl,
    List.nil_append, List.filter_singleton]
  simp [p.isRefreshObligation_refreshObligationIx seen]

lemma filter_preludeIxs :
    (p.preludeIxs h).filter (fun l => IsRefreshObligation l) =
      [p.refreshObligationIx p.uniqueRefreshReserveKeys] := by
  have hbudget : (computeBudgetIxs p.cuLimit p.cuPrice).filter (fun l => IsRefreshObligation l) =
      [] :=
    filter_eq_nil fun l hl => (not_isRefresh_of_mem_computeBudgetIxs hl).2
  have hatas := filter_eq_nil fun l hl => (not_isRefresh_of_mem_ensureAtaIxs h p (l := l) hl).2
  rw [KaminoTxBuildParams.preludeIxs, KaminoTxBuildParams.refreshIxs, List.filter_append,
    List.filter_append, hbudget, hatas, filter_refreshes, List.nil_append, List.append_nil]

/-- The accounts of a `refresh_obligation`, in order. -/
lemma accounts_refreshObligationIx (seen : List Pubkey) :
    (p.refreshObligationIx seen).ix.accounts.map AccountMeta.pubkey =
      p.liquidate.lendingMarket :: p.obligation ::
        (p.obligationReserves seen ++ p.referrerTokenStates) := by
  simp [KaminoTxBuildParams.refreshObligationIx, Function.comp_def]

lemma obligationReserves_of_ne_nil (hne : p.depositReserves ++ p.borrowReserves ≠ [])
    (seen : List Pubkey) :
    p.obligationReserves seen = p.depositReserves ++ p.borrowReserves := if_neg hne

/-- The flash plan refreshes the obligation before the borrow and after it. -/
lemma filter_flash (borrowAcc : Kamino.FlashBorrowAccounts) (repayAcc : Kamino.FlashRepayAccounts) :
    ∃ refreshed, (flashHead h p borrowAcc ++ [flashLast h p repayAcc]).filter
        (fun l => IsRefreshObligation l) =
      [p.refreshObligationIx p.uniqueRefreshReserveKeys, p.refreshObligationIx refreshed] := by
  obtain ⟨refreshed, hpost, -, -⟩ := p.postFlashRefreshIxs_eq borrowAcc.reserve
  have hborrow : ∀ l ∈ [flashBorrowIx borrowAcc p.liquidityAmount], ¬ IsRefreshObligation l := by
    intro l hl hkind
    obtain rfl := List.mem_singleton.1 hl
    exact nomatch hkind.unique (isFlashBorrow_flashBorrowIx _ _)
  have htail : ∀ l ∈ [p.liquidateIx, flashLast h p repayAcc], ¬ IsRefreshObligation l := by
    intro l hl hkind
    rcases List.mem_pair.1 hl with rfl | rfl
    · exact nomatch hkind.unique p.isLiquidateV2_liquidateIx
    · exact nomatch hkind.unique (isFlashRepay_flashRepayIx _ _ _)
  -- Two stretches refresh the obligation, one before the borrow and one behind it.
  have hsplit : flashHead h p borrowAcc ++ [flashLast h p repayAcc] =
      p.preludeIxs h ++ ([flashBorrowIx borrowAcc p.liquidityAmount] ++
        ((refreshed.map p.refreshReserveIx ++ [p.refreshObligationIx refreshed]) ++
          [p.liquidateIx, flashLast h p repayAcc])) := by
    rw [skeleton_at_borrow, hpost]
    rfl
  refine ⟨refreshed, ?_⟩
  rw [hsplit, List.filter_append, filter_preludeIxs, List.filter_append, filter_eq_nil hborrow,
    List.filter_append, filter_refreshes, filter_eq_nil htail]
  rfl

/-- The inventory plan refreshes it once. -/
lemma filter_inventory :
    (p.preludeIxs h ++ [p.liquidateIx]).filter (fun l => IsRefreshObligation l) =
      [p.refreshObligationIx p.uniqueRefreshReserveKeys] := by
  have hliquidate : ∀ l ∈ [p.liquidateIx], ¬ IsRefreshObligation l := by
    intro l hl hkind
    obtain rfl := List.mem_singleton.1 hl
    exact nomatch hkind.unique p.isLiquidateV2_liquidateIx
  rw [List.filter_append, filter_preludeIxs, filter_eq_nil hliquidate, List.append_nil]

end Pieces

/-! ## After a live decode -/

section Live

variable (h : PdaHash)

/-- The accounts klend wants: market and obligation, the reserves of the deposits and of the
borrows in slot order, and a referrer token state for each borrow where there is a referrer. -/
def slotAccounts (obligation : Pubkey) (positions : LiveObligationPositions) : List Pubkey :=
  positions.header.lendingMarket :: obligation ::
    (slotReserves positions ++
      if positions.header.referrer = Pubkey.default then []
      else positions.borrows.map fun b =>
        h.klendReferrerTokenState positions.header.referrer b.reserve)

/-- The account set of the obligation, with the overlay and the filter the caller puts in. -/
def shadowSet (address liquidator : Pubkey) (positions : LiveObligationPositions)
    (repay withdraw : LiveReserveVaults) (authority : Pubkey)
    (overlay : List RefreshReserveAccounts) (filter : Option (List Pubkey)) : PlanAccountSet :=
  (PlanAccountSet.fromKaminoLive h address liquidator positions repay withdraw
    authority).withOverlay overlay filter

lemma nonzero_eq (k : Pubkey) :
    PlanAccountSet.nonzero k = if k = Pubkey.default then none else some k := by
  simp only [PlanAccountSet.nonzero, k.bytes_eq_zero_iff]

variable (address liquidator : Pubkey) (positions : LiveObligationPositions)
  (repay withdraw : LiveReserveVaults) (authority : Pubkey)
  (overlay : List RefreshReserveAccounts) (filter : Option (List Pubkey)) (amount : UInt64)

/-- Either plan's `refresh_obligation`s list the slots, whatever was refreshed before. -/
lemma accounts_refreshObligationIx_live (hslots : slotReserves positions ≠ [])
    (flash : Option (Kamino.FlashBorrowAccounts × Kamino.FlashRepayAccounts))
    (seen : List Pubkey) :
    let set := shadowSet h address liquidator positions repay withdraw authority overlay filter
    ((set.kaminoParams h set.flashReserves amount flash).refreshObligationIx
      seen).ix.accounts.map AccountMeta.pubkey = slotAccounts h address positions := by
  intro set
  let p := set.kaminoParams h set.flashReserves amount flash
  have hne : p.depositReserves ++ p.borrowReserves ≠ [] := hslots
  -- Without a referrer there are no token states; with one, a state for each borrow.
  have hstates : p.referrerTokenStates =
      if positions.header.referrer = Pubkey.default then []
      else positions.borrows.map fun b =>
        h.klendReferrerTokenState positions.header.referrer b.reserve := by
    simp only [p, set, shadowSet, PlanAccountSet.kaminoParams, PlanAccountSet.withOverlay,
      PlanAccountSet.fromKaminoLive, nonzero_eq]
    split_ifs with hreferrer
    · rfl
    · exact List.map_map
  rw [accounts_refreshObligationIx p, obligationReserves_of_ne_nil p hne, hstates]
  rfl

end Live

/-- **Each `refresh_obligation` lists the account's slots.**  For every decoded obligation with a
position, the flash plan has two `refresh_obligation`s and the inventory plan one, and each of
them lists market, obligation, the reserves of the deposit slots and of the borrow slots in
order, and a referrer token state for each borrow exactly when there is a referrer. -/
theorem live_refresh_obligation_lists (h : PdaHash) {address : Pubkey} {data : List UInt8}
    {positions : LiveObligationPositions}
    (hdecode : decodeObligationLivePositions address data = .ok positions)
    (hposition : positions.deposits ≠ [] ∨ positions.borrows ≠ []) (liquidator : Pubkey)
    (repay withdraw : LiveReserveVaults) (authority : Pubkey)
    (overlay : List RefreshReserveAccounts) (filter : Option (List Pubkey)) (amount : UInt64)
    (blob : JupiterQuoteBlob) :
    positions.deposits = occupiedSlots (depositSlot data) liveMaxDeposits ∧
    positions.borrows = occupiedSlots (borrowSlot data) liveMaxBorrows ∧
    let set := shadowSet h address liquidator positions repay withdraw authority overlay filter
    ∃ flashHead flashLast inventoryHead,
      (buildStrategyIxs h .kamino .kaminoFlashBorrow set amount blob).labeled =
        flashHead ++ blob.instructions ++ [flashLast] ∧
      (buildStrategyIxs h .kamino .inventory set amount blob).labeled =
        inventoryHead ++ blob.instructions ∧
      ((flashHead ++ [flashLast]).filter fun l => IsRefreshObligation l).map
          (fun l => l.ix.accounts.map AccountMeta.pubkey) =
        [slotAccounts h address positions, slotAccounts h address positions] ∧
      (inventoryHead.filter fun l => IsRefreshObligation l).map
          (fun l => l.ix.accounts.map AccountMeta.pubkey) =
        [slotAccounts h address positions] := by
  obtain ⟨hdeposits, hborrows⟩ := decodePositions_slots hdecode
  refine ⟨hdeposits, hborrows, ?_⟩
  intro set
  -- Without a slot the builder would list the two chosen reserves, so the assumption is needed.
  have hslots : slotReserves positions ≠ [] := by
    intro hnil
    obtain ⟨hd, hb⟩ := List.append_eq_nil_iff.1 hnil
    exact hposition.elim (fun hne => hne (List.map_eq_nil_iff.1 hd))
      fun hne => hne (List.map_eq_nil_iff.1 hb)
  have haccounts := accounts_refreshObligationIx_live h address liquidator positions repay
    withdraw authority overlay filter amount hslots
  let p := set.kaminoParams h set.flashReserves amount (some set.kaminoFlashPair)
  let q := set.kaminoParams h set.flashReserves amount none
  refine ⟨flashHead h p set.kaminoFlashPair.1, flashLast h p set.kaminoFlashPair.2,
    q.preludeIxs h ++ [q.liquidateIx], ?_, rfl, ?_, ?_⟩
  · show (buildFlashTx h p blob.instructions).getD [] = _
    rw [buildFlashTx_eq h p set.kaminoFlashPair.1 set.kaminoFlashPair.2 rfl, Option.getD_some]
  · obtain ⟨refreshed, hfilter⟩ := filter_flash h p set.kaminoFlashPair.1 set.kaminoFlashPair.2
    rw [hfilter, List.map_cons, List.map_singleton, haccounts, haccounts]
  · rw [filter_inventory, List.map_singleton, haccounts]

/-- The sample obligation with three reserves, which somebody referred. -/
def referredReserves : List UInt8 := threeReserves ++ (Pubkey.test 12 1).bytes

def referredPositions : LiveObligationPositions :=
  { threeReservesPositions with
    header := { threeReservesPositions.header with referrer := Pubkey.test 12 1 } }

lemma decode_referredReserves :
    decodeObligationLivePositions (Pubkey.test 1 1) referredReserves = .ok referredPositions := by
  decide +kernel

/-- Market, obligation, three reserves and the referrer's account for the one borrow: under an
overlay of all three reserves each refresh lists these six. -/
theorem three_reserves_refresh_obligation_lists :
    let set := shadowSet .prefixHash (Pubkey.test 1 1) (Pubkey.test 2 1) referredPositions
      (sampleVaults 3) (sampleVaults 1) (Pubkey.test 2 2)
      ([1, 2, 3].map fun r => PlanAccountSet.refreshAccounts (sampleVaults r)) none
    let six := slotAccounts .prefixHash (Pubkey.test 1 1) referredPositions
    six.length = 6 ∧ ∃ flashHead flashLast inventoryHead,
      (buildStrategyIxs .prefixHash .kamino .kaminoFlashBorrow set 1000000
        JupiterQuoteBlob.default).labeled = flashHead ++ [] ++ [flashLast] ∧
      (buildStrategyIxs .prefixHash .kamino .inventory set 1000000
        JupiterQuoteBlob.default).labeled = inventoryHead ++ [] ∧
      ((flashHead ++ [flashLast]).filter fun l => IsRefreshObligation l).map
          (fun l => l.ix.accounts.map AccountMeta.pubkey) = [six, six] ∧
      (inventoryHead.filter fun l => IsRefreshObligation l).map
          (fun l => l.ix.accounts.map AccountMeta.pubkey) = [six] :=
  ⟨by decide +kernel, (live_refresh_obligation_lists .prefixHash decode_referredReserves
    (Or.inl (by decide)) (Pubkey.test 2 1) (sampleVaults 3) (sampleVaults 1) (Pubkey.test 2 2) _
    none 1000000 JupiterQuoteBlob.default).2.2⟩

end Execution

end Grokbotliq
