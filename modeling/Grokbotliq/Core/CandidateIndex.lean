import Grokbotliq.Core.Types
import Grokbotliq.Framework.Blocks
import Grokbotliq.Framework.Runs

/-!
# The candidate index

Four tables.  `byAccount` and `byBand` classify candidates; `byAsset` and `accountTriggers`
hold the same set of price triggers twice, once ordered by price under each asset and side,
once as the list last registered for each account.  Waking an account reads the first copy,
replacing its triggers reads the second, so the index is only right while the two agree:
`CandidateIndex.Consistent`, kept by every operation (`consistent_apply`) and hence in every
run from the empty index (`consistent_exec`).

`mem_onPriceUpdate` is the scan's specification: the hits of a price move are the indexed
triggers it crosses.  They come by ascending trigger price; the accounts under one price stand
in a hash set, and come in whatever order that set is walked through (`ScanOrder`), so two
scans of one index agree up to the order of hits at one trigger price
(`sameBlocks_onPriceUpdate`).
-/

namespace Grokbotliq

/-- Which price move makes the account unhealthy: collateral falling to the trigger or below,
debt rising to the trigger or above. -/
inductive TriggerSide
  | collateralDown
  | debtUp
  deriving DecidableEq, Repr

structure CandidateMeta where
  account : Pubkey
  protocol : Protocol
  band : CandidateBand
  health : HealthFx
  assets : List Pubkey
  deriving DecidableEq

structure PriceTrigger where
  account : Pubkey
  asset : Pubkey
  side : TriggerSide
  triggerPrice : PriceFx
  deriving DecidableEq

structure TriggerHit where
  account : Pubkey
  asset : Pubkey
  side : TriggerSide
  triggerPrice : PriceFx
  newPrice : PriceFx
  deriving DecidableEq

/-- All that a hit says but whose it is. -/
def TriggerHit.crossing (h : TriggerHit) : Pubkey × TriggerSide × PriceFx × PriceFx :=
  (h.asset, h.side, h.triggerPrice, h.newPrice)

/-! ## The triggers of one asset -/

/-- The ordered maps from trigger price to watching accounts, one for each side. -/
structure AssetIndex where
  collateralDown : KeyMap PriceFx (KeySet Pubkey)
  debtUp : KeyMap PriceFx (KeySet Pubkey)

namespace AssetIndex

def empty : AssetIndex := ⟨∅, ∅⟩

/-- The map of a side. -/
def onSide (idx : AssetIndex) : TriggerSide → KeyMap PriceFx (KeySet Pubkey)
  | .collateralDown => idx.collateralDown
  | .debtUp => idx.debtUp

/-- The map of a side, updated in place. -/
def updateSide (idx : AssetIndex) (s : TriggerSide)
    (f : KeyMap PriceFx (KeySet Pubkey) → KeyMap PriceFx (KeySet Pubkey)) : AssetIndex :=
  match s with
  | .collateralDown => { idx with collateralDown := f idx.collateralDown }
  | .debtUp => { idx with debtUp := f idx.debtUp }

lemma onSide_updateSide (idx : AssetIndex) (s s' : TriggerSide)
    (f : KeyMap PriceFx (KeySet Pubkey) → KeyMap PriceFx (KeySet Pubkey)) :
    (idx.updateSide s f).onSide s' = if s' = s then f (idx.onSide s) else idx.onSide s' := by
  cases s <;> cases s' <;> simp [updateSide, onSide]

/-- Enter an account under a price. -/
def add (idx : AssetIndex) (s : TriggerSide) (price : PriceFx) (account : Pubkey) : AssetIndex :=
  idx.updateSide s fun map => map.upsertWith price KeySet.empty fun set => set.insert account

/-- Take an account out from under a price; a price nobody watches any more is dropped. -/
def remove (idx : AssetIndex) (s : TriggerSide) (price : PriceFx) (account : Pubkey) :
    AssetIndex :=
  idx.updateSide s fun map =>
    match map.lookup price with
    | none => map
    | some set =>
      let set := set.erase account
      if set.isEmpty then map.erase price else map.insert price set

/-- The account stands under the price on that side. -/
def Watches (idx : AssetIndex) (s : TriggerSide) (price : PriceFx) (account : Pubkey) : Prop :=
  ∃ set, (idx.onSide s).lookup price = some set ∧ account ∈ set

@[simp] lemma not_watches_empty (s : TriggerSide) (price : PriceFx) (account : Pubkey) :
    ¬ empty.Watches s price account := by
  rintro ⟨set, h, _⟩
  cases s <;> simp [empty, onSide, AList.lookup_empty] at h

lemma watches_add (idx : AssetIndex) (s s' : TriggerSide) (p p' : PriceFx) (a a' : Pubkey) :
    (idx.add s p a).Watches s' p' a' ↔ (s' = s ∧ p' = p ∧ a' = a) ∨ idx.Watches s' p' a' := by
  unfold Watches add
  rw [onSide_updateSide]
  by_cases hs : s' = s
  · subst hs
    rw [if_pos rfl]
    simp only [KeyMap.lookup_upsertWith]
    by_cases hp : p' = p
    · subst hp
      cases h : (idx.onSide s').lookup p' with
      | none => simp
      | some set => simp
    · simp [hp]
  · simp [hs]

lemma watches_remove (idx : AssetIndex) (s s' : TriggerSide) (p p' : PriceFx) (a a' : Pubkey) :
    (idx.remove s p a).Watches s' p' a' ↔ idx.Watches s' p' a' ∧ ¬ (s' = s ∧ p' = p ∧ a' = a) := by
  unfold Watches remove
  rw [onSide_updateSide]
  by_cases hs : s' = s
  · subst hs
    rw [if_pos rfl]
    cases h : (idx.onSide s').lookup p with
    | none =>
        simp only [true_and]
        constructor
        · rintro ⟨set, hset, ha⟩
          refine ⟨⟨set, hset, ha⟩, ?_⟩
          rintro ⟨rfl, -⟩
          rw [h] at hset
          exact absurd hset (by simp)
        · exact fun hw => hw.1
    | some set =>
        -- At the price itself the account is gone, and the price with it when it was the last one.
        by_cases hp : p' = p
        · subst hp
          by_cases hempty : (set.erase a).isEmpty = true
          · have hnone := KeySet.isEmpty_iff.1 hempty a'
            simp only [hempty, if_true, KeyMap.lookup_erase_eq_ite, h]
            simp only [KeySet.mem_erase, not_and] at hnone
            simp only [reduceCtorEq, false_and, exists_false, Option.some.injEq,
              exists_eq_left', true_and, false_iff, not_and, not_not]
            exact fun ha' => by_contra fun hne => hnone hne ha'
          · simp only [hempty, h]
            simp [and_comm]
        · by_cases hempty : (set.erase a).isEmpty = true
          · simp [hempty, hp]
          · simp [hempty, hp]
  · simp [hs]

end AssetIndex

/-! ## The index -/

/-- The orders in which a scan meets the accounts of its sets: there is a set for each asset, side
and price, and each has an order of its own. -/
abbrev ScanOrder := Pubkey → TriggerSide → PriceFx → SetOrder Pubkey

/-- Every set in the order in which its elements stand. -/
def ScanOrder.asStored : ScanOrder := fun _ _ _ => .asStored

structure CandidateIndex where
  byAccount : KeyMap Pubkey CandidateMeta
  byBand : KeyMap CandidateBand (KeySet Pubkey)
  byAsset : KeyMap Pubkey AssetIndex
  accountTriggers : KeyMap Pubkey (List PriceTrigger)

namespace CandidateIndex

def new : CandidateIndex := ⟨∅, ∅, ∅, ∅⟩

/-- Classify a candidate, moving it out of its previous band. -/
def upsertCandidate (ix : CandidateIndex) (m : CandidateMeta) : CandidateIndex :=
  let byBand := match ix.byAccount.lookup m.account with
    | some prev => ix.byBand.modify prev.band fun set => set.erase m.account
    | none => ix.byBand
  { ix with
    byAccount := ix.byAccount.insert m.account m
    byBand := byBand.upsertWith m.band KeySet.empty fun set => set.insert m.account }

def get (ix : CandidateIndex) (account : Pubkey) : Option CandidateMeta :=
  ix.byAccount.lookup account

/-- One step of the removal loop of `clear_triggers`. -/
def dropTrigger (account : Pubkey) (byAsset : KeyMap Pubkey AssetIndex) (t : PriceTrigger) :
    KeyMap Pubkey AssetIndex :=
  byAsset.modify t.asset fun idx => idx.remove t.side t.triggerPrice account

/-- One step of the insertion loop of `set_triggers`. -/
def addTrigger (account : Pubkey) (byAsset : KeyMap Pubkey AssetIndex) (t : PriceTrigger) :
    KeyMap Pubkey AssetIndex :=
  byAsset.upsertWith t.asset AssetIndex.empty fun idx => idx.add t.side t.triggerPrice account

def clearTriggers (ix : CandidateIndex) (account : Pubkey) : CandidateIndex :=
  match ix.accountTriggers.lookup account with
  | none => ix
  | some old =>
    { ix with
      accountTriggers := ix.accountTriggers.erase account
      byAsset := old.foldl (dropTrigger account) ix.byAsset }

/-- The second critical section of `set_triggers`. -/
def insertTriggers (ix : CandidateIndex) (account : Pubkey) (triggers : List PriceTrigger) :
    CandidateIndex :=
  { ix with
    byAsset := triggers.foldl (addTrigger account) ix.byAsset
    accountTriggers := ix.accountTriggers.insert account triggers }

def setTriggers (ix : CandidateIndex) (account : Pubkey) (triggers : List PriceTrigger) :
    CandidateIndex :=
  (ix.clearTriggers account).insertTriggers account triggers

/-- The classification half of `remove_candidate`. -/
def dropCandidate (ix : CandidateIndex) (account : Pubkey) : CandidateIndex :=
  match ix.byAccount.lookup account with
  | some prev =>
    { ix with
      byAccount := ix.byAccount.erase account
      byBand := ix.byBand.modify prev.band fun set => set.erase account }
  | none => ix

def removeCandidate (ix : CandidateIndex) (account : Pubkey) : CandidateIndex :=
  (ix.clearTriggers account).dropCandidate account

/-- Find accounts whose liquidation trigger was newly crossed by a price move. -/
def onPriceUpdate (ix : CandidateIndex) (order : ScanOrder) (asset : Pubkey)
    (prevPrice newPrice : PriceFx) : List TriggerHit :=
  match ix.byAsset.lookup asset with
  | none => []
  | some idx =>
    if newPrice < prevPrice then
      (idx.collateralDown.range newPrice prevPrice).flatMap fun e =>
        if e.1 < prevPrice ∧ newPrice ≤ e.1 then
          ((order asset .collateralDown e.1).iterate e.2).map fun account =>
            ⟨account, asset, .collateralDown, e.1, newPrice⟩
        else []
    else if prevPrice < newPrice then
      (idx.debtUp.range prevPrice newPrice).flatMap fun e =>
        if prevPrice < e.1 ∧ e.1 ≤ newPrice then
          ((order asset .debtUp e.1).iterate e.2).map fun account =>
            ⟨account, asset, .debtUp, e.1, newPrice⟩
        else []
    else []

/-! ## The two copies of the triggers -/

/-- `account` stands in the per-asset copy under `asset`, side and price. -/
def Indexed (byAsset : KeyMap Pubkey AssetIndex) (asset : Pubkey) (s : TriggerSide)
    (price : PriceFx) (account : Pubkey) : Prop :=
  ∃ idx, byAsset.lookup asset = some idx ∧ idx.Watches s price account

/-- The list holds a trigger on `asset` with that side and price. -/
def Listed (ts : List PriceTrigger) (asset : Pubkey) (s : TriggerSide) (price : PriceFx) : Prop :=
  ∃ t ∈ ts, asset = t.asset ∧ s = t.side ∧ price = t.triggerPrice

instance (ts : List PriceTrigger) (asset : Pubkey) (s : TriggerSide) (price : PriceFx) :
    Decidable (Listed ts asset s price) :=
  inferInstanceAs (Decidable (∃ t ∈ ts, _))

lemma not_listed_nil (asset : Pubkey) (s : TriggerSide) (price : PriceFx) :
    ¬ Listed [] asset s price := by
  rintro ⟨t, ht, -⟩
  exact absurd ht List.not_mem_nil

lemma listed_cons (t : PriceTrigger) (ts : List PriceTrigger) (asset : Pubkey) (s : TriggerSide)
    (price : PriceFx) :
    Listed (t :: ts) asset s price ↔
      (asset = t.asset ∧ s = t.side ∧ price = t.triggerPrice) ∨ Listed ts asset s price := by
  simp only [Listed, List.mem_cons, exists_eq_or_imp]

/-- `account`'s list holds a trigger on `asset` with that side and price. -/
def Registered (triggers : KeyMap Pubkey (List PriceTrigger)) (asset : Pubkey) (s : TriggerSide)
    (price : PriceFx) (account : Pubkey) : Prop :=
  ∃ ts, triggers.lookup account = some ts ∧ Listed ts asset s price

/-- **The representation invariant**: the two copies hold the same triggers. -/
def Consistent (ix : CandidateIndex) : Prop :=
  ∀ asset s price account,
    Indexed ix.byAsset asset s price account ↔ Registered ix.accountTriggers asset s price account

lemma indexed_addTrigger (acct : Pubkey) (m : KeyMap Pubkey AssetIndex) (t : PriceTrigger)
    (asset : Pubkey) (s : TriggerSide) (price : PriceFx) (account : Pubkey) :
    Indexed (addTrigger acct m t) asset s price account ↔
      (account = acct ∧ asset = t.asset ∧ s = t.side ∧ price = t.triggerPrice) ∨
        Indexed m asset s price account := by
  unfold Indexed addTrigger
  simp only [KeyMap.lookup_upsertWith]
  -- Only the entry of the trigger's own asset changes, made first where there is none.
  by_cases ha : asset = t.asset
  · subst ha
    cases h : m.lookup t.asset with
    | none =>
        simp only [if_true, Option.getD_none, Option.some.injEq, exists_eq_left',
          AssetIndex.watches_add, AssetIndex.not_watches_empty, or_false, reduceCtorEq,
          false_and, exists_false, true_and]
        tauto
    | some idx =>
        simp only [if_true, Option.getD_some, Option.some.injEq, exists_eq_left',
          AssetIndex.watches_add, true_and]
        tauto
  · simp [ha]

lemma indexed_dropTrigger (acct : Pubkey) (m : KeyMap Pubkey AssetIndex) (t : PriceTrigger)
    (asset : Pubkey) (s : TriggerSide) (price : PriceFx) (account : Pubkey) :
    Indexed (dropTrigger acct m t) asset s price account ↔
      Indexed m asset s price account ∧
        ¬ (account = acct ∧ asset = t.asset ∧ s = t.side ∧ price = t.triggerPrice) := by
  unfold Indexed dropTrigger
  simp only [KeyMap.lookup_modify]
  by_cases ha : asset = t.asset
  · subst ha
    cases h : m.lookup t.asset with
    | none => simp
    | some idx =>
        simp only [if_true, Option.map_some, Option.some.injEq, exists_eq_left',
          AssetIndex.watches_remove, true_and]
        tauto
  · simp [ha]

lemma indexed_foldl_addTrigger (acct asset : Pubkey) (s : TriggerSide) (price : PriceFx)
    (account : Pubkey) (ts : List PriceTrigger) (m : KeyMap Pubkey AssetIndex) :
    Indexed (ts.foldl (addTrigger acct) m) asset s price account ↔
      (account = acct ∧ Listed ts asset s price) ∨
        Indexed m asset s price account := by
  induction ts generalizing m with
  | nil => simp [not_listed_nil]
  | cons t ts ih =>
      rw [List.foldl_cons, ih, indexed_addTrigger, listed_cons]
      tauto

lemma indexed_foldl_dropTrigger (acct asset : Pubkey) (s : TriggerSide) (price : PriceFx)
    (account : Pubkey) (ts : List PriceTrigger) (m : KeyMap Pubkey AssetIndex) :
    Indexed (ts.foldl (dropTrigger acct) m) asset s price account ↔
      Indexed m asset s price account ∧
        ¬ (account = acct ∧ Listed ts asset s price) := by
  induction ts generalizing m with
  | nil => simp [not_listed_nil]
  | cons t ts ih =>
      rw [List.foldl_cons, ih, indexed_dropTrigger, listed_cons]
      tauto

lemma registered_insert (m : KeyMap Pubkey (List PriceTrigger)) (acct : Pubkey)
    (ts : List PriceTrigger) (asset : Pubkey) (s : TriggerSide) (price : PriceFx)
    (account : Pubkey) :
    Registered (m.insert acct ts) asset s price account ↔
      (account = acct ∧ Listed ts asset s price) ∨
        (account ≠ acct ∧ Registered m asset s price account) := by
  unfold Registered
  simp only [KeyMap.lookup_insert_eq_ite]
  by_cases ha : account = acct
  · simp [ha]
  · simp [ha]

lemma registered_erase (m : KeyMap Pubkey (List PriceTrigger)) (acct asset : Pubkey)
    (s : TriggerSide) (price : PriceFx) (account : Pubkey) :
    Registered (m.erase acct) asset s price account ↔
      account ≠ acct ∧ Registered m asset s price account := by
  unfold Registered
  simp only [KeyMap.lookup_erase_eq_ite]
  by_cases ha : account = acct
  · simp [ha]
  · simp [ha]

lemma not_registered_of_none {m : KeyMap Pubkey (List PriceTrigger)} {account : Pubkey}
    (h : m.lookup account = none) (asset : Pubkey) (s : TriggerSide) (price : PriceFx) :
    ¬ Registered m asset s price account := by
  rintro ⟨ts, hts, -⟩
  rw [h] at hts
  exact absurd hts (by simp)

/-! ## Every operation keeps the copies equal

Clearing takes out of the per-asset copy what the account's list holds, and setting clears first,
so that the new list meets nothing old of its account. -/

theorem consistent_new : new.Consistent := by
  intro asset s price account
  constructor
  · rintro ⟨idx, h, -⟩
    exact absurd h (by simp [new, AList.lookup_empty])
  · intro h
    exact absurd h (not_registered_of_none (AList.lookup_empty _) asset s price)

lemma clearTriggers_lookup (ix : CandidateIndex) (acct account : Pubkey) :
    (ix.clearTriggers acct).accountTriggers.lookup account =
      if account = acct then none else ix.accountTriggers.lookup account := by
  cases h : ix.accountTriggers.lookup acct with
  | none =>
      simp only [clearTriggers, h]
      by_cases ha : account = acct
      · rw [if_pos ha, ha, h]
      · rw [if_neg ha]
  | some old =>
      simp only [clearTriggers, h]
      exact KeyMap.lookup_erase_eq_ite ..

theorem consistent_clearTriggers {ix : CandidateIndex} (h : ix.Consistent) (acct : Pubkey) :
    (ix.clearTriggers acct).Consistent := by
  unfold clearTriggers
  cases hold : ix.accountTriggers.lookup acct with
  | none => exact h
  | some old =>
      intro asset s price account
      simp only [indexed_foldl_dropTrigger, registered_erase, h asset s price account]
      have hacct : Registered ix.accountTriggers asset s price acct ↔
          Listed old asset s price := by
        simp [Registered, hold]
      by_cases ha : account = acct
      · subst ha
        rw [hacct]
        tauto
      · simp [ha]

theorem consistent_insertTriggers {ix : CandidateIndex} (h : ix.Consistent) {acct : Pubkey}
    (hfree : ix.accountTriggers.lookup acct = none) (ts : List PriceTrigger) :
    (ix.insertTriggers acct ts).Consistent := by
  intro asset s price account
  simp only [insertTriggers, indexed_foldl_addTrigger, registered_insert, h asset s price account]
  by_cases ha : account = acct
  · subst ha
    have hnot := not_registered_of_none hfree asset s price
    tauto
  · simp [ha]

theorem consistent_setTriggers {ix : CandidateIndex} (h : ix.Consistent) (acct : Pubkey)
    (ts : List PriceTrigger) : (ix.setTriggers acct ts).Consistent := by
  refine consistent_insertTriggers (consistent_clearTriggers h acct) ?_ ts
  rw [clearTriggers_lookup, if_pos rfl]

@[simp] lemma dropCandidate_byAsset (ix : CandidateIndex) (acct : Pubkey) :
    (ix.dropCandidate acct).byAsset = ix.byAsset := by
  unfold dropCandidate
  split <;> rfl

@[simp] lemma dropCandidate_accountTriggers (ix : CandidateIndex) (acct : Pubkey) :
    (ix.dropCandidate acct).accountTriggers = ix.accountTriggers := by
  unfold dropCandidate
  split <;> rfl

/-- A call that writes the index. -/
inductive Op
  | upsertCandidate (m : CandidateMeta)
  | removeCandidate (account : Pubkey)
  | setTriggers (account : Pubkey) (triggers : List PriceTrigger)
  | clearTriggers (account : Pubkey)
  deriving DecidableEq

def apply (ix : CandidateIndex) : Op → CandidateIndex
  | .upsertCandidate m => ix.upsertCandidate m
  | .removeCandidate account => ix.removeCandidate account
  | .setTriggers account triggers => ix.setTriggers account triggers
  | .clearTriggers account => ix.clearTriggers account

theorem consistent_apply (ix : CandidateIndex) (op : Op) (h : ix.Consistent) :
    (ix.apply op).Consistent := by
  cases op with
  | upsertCandidate m => exact h
  | removeCandidate account =>
      intro asset s price a
      simp only [apply, removeCandidate, dropCandidate_byAsset, dropCandidate_accountTriggers]
      exact consistent_clearTriggers h account asset s price a
  | setTriggers account triggers => exact consistent_setTriggers h account triggers
  | clearTriggers account => exact consistent_clearTriggers h account

theorem consistent_exec (ops : List Op) : (Runs.exec apply new ops).Consistent :=
  Runs.exec_invariant Consistent consistent_apply ops consistent_new

/-! ### Calls about other accounts -/

/-- The call replaces or removes the triggers of `account`. -/
def Op.Replaces (account : Pubkey) : Op → Prop
  | .upsertCandidate _ => False
  | .removeCandidate a => a = account
  | .setTriggers a _ => a = account
  | .clearTriggers a => a = account

instance (account : Pubkey) : ∀ op, Decidable (Op.Replaces account op)
  | .upsertCandidate _ => isFalse id
  | .removeCandidate a => inferInstanceAs (Decidable (a = account))
  | .setTriggers a _ => inferInstanceAs (Decidable (a = account))
  | .clearTriggers a => inferInstanceAs (Decidable (a = account))

/-- A call about another account leaves this account's list alone. -/
lemma apply_accountTriggers (ix : CandidateIndex) (op : Op) {account : Pubkey}
    (h : ¬ op.Replaces account) :
    (ix.apply op).accountTriggers.lookup account = ix.accountTriggers.lookup account := by
  cases op with
  | upsertCandidate m => rfl
  | removeCandidate a =>
      have ha : account ≠ a := fun heq => h heq.symm
      simp only [apply, removeCandidate, dropCandidate_accountTriggers, clearTriggers_lookup]
      rw [if_neg ha]
  | setTriggers a ts =>
      have ha : account ≠ a := fun heq => h heq.symm
      simp only [apply, setTriggers, insertTriggers, KeyMap.lookup_insert_eq_ite,
        clearTriggers_lookup]
      rw [if_neg ha, if_neg ha]
  | clearTriggers a =>
      have ha : account ≠ a := fun heq => h heq.symm
      simp only [apply, clearTriggers_lookup]
      rw [if_neg ha]

/-! ## The scan

The range of the ordered map includes the price before the move, which the loop's own test takes
off again. -/

/-- The move from `prev` to `new` newly crosses the trigger. -/
def Crosses (s : TriggerSide) (trigger prev new : PriceFx) : Prop :=
  match s with
  | .collateralDown => new ≤ trigger ∧ trigger < prev
  | .debtUp => prev < trigger ∧ trigger ≤ new

instance (s : TriggerSide) (trigger prev new : PriceFx) : Decidable (Crosses s trigger prev new) :=
  match s with
  | .collateralDown => inferInstanceAs (Decidable (_ ∧ _))
  | .debtUp => inferInstanceAs (Decidable (_ ∧ _))

lemma mem_scan (map : KeyMap PriceFx (KeySet Pubkey)) (order : PriceFx → SetOrder Pubkey)
    {lo hi : PriceFx} (C : PriceFx → Prop) [DecidablePred C] (hC : ∀ p, C p → lo ≤ p ∧ p ≤ hi)
    (mk : PriceFx → Pubkey → TriggerHit) (h : TriggerHit) :
    (h ∈ (map.range lo hi).flatMap fun e =>
        if C e.1 then ((order e.1).iterate e.2).map fun account => mk e.1 account else []) ↔
      ∃ px, C px ∧ ∃ set, map.lookup px = some set ∧ ∃ a ∈ set, mk px a = h := by
  rw [List.mem_flatMap]
  constructor
  · rintro ⟨⟨px, set⟩, hmem, hh⟩
    rw [KeyMap.mem_range] at hmem
    by_cases hpx : C px
    · simp only [hpx, if_true, List.mem_map, SetOrder.mem_iterate] at hh
      exact ⟨px, hpx, set, hmem.1, hh⟩
    · simp [hpx] at hh
  · rintro ⟨px, hpx, set, hset, a, ha, hh⟩
    refine ⟨(px, set), KeyMap.mem_range.2 ⟨hset, hC px hpx⟩, ?_⟩
    simp only [hpx, if_true, List.mem_map, SetOrder.mem_iterate]
    exact ⟨a, ha, hh⟩

/-- **The hits of a price move are the indexed triggers it crosses.** -/
theorem mem_onPriceUpdate (ix : CandidateIndex) (order : ScanOrder) (asset : Pubkey)
    (prev new : PriceFx) (h : TriggerHit) :
    h ∈ ix.onPriceUpdate order asset prev new ↔
      h.asset = asset ∧ h.newPrice = new ∧ Crosses h.side h.triggerPrice prev new ∧
        Indexed ix.byAsset asset h.side h.triggerPrice h.account := by
  obtain ⟨account, hasset, side, trig, hnew⟩ := h
  unfold onPriceUpdate Indexed
  cases hidx : ix.byAsset.lookup asset with
  | none => simp
  | some idx =>
      simp only [Option.some.injEq, exists_eq_left']
      -- A fall scans the collateral side only, a rise the debt side only, and no move neither.
      rcases lt_trichotomy new prev with hlt | heq | hgt
      · rw [if_pos hlt, mem_scan idx.collateralDown (order asset .collateralDown)
          (fun px => px < prev ∧ new ≤ px) (fun p hp => ⟨hp.2, hp.1.le⟩)
          fun px account => ⟨account, asset, .collateralDown, px, new⟩]
        cases side with
        | collateralDown =>
            simp only [AssetIndex.Watches, AssetIndex.onSide, Crosses, TriggerHit.mk.injEq]
            constructor
            · rintro ⟨px, hpx, set, hset, a, ha, rfl, rfl, -, rfl, rfl⟩
              exact ⟨rfl, rfl, ⟨hpx.2, hpx.1⟩, set, hset, ha⟩
            · rintro ⟨rfl, rfl, hc, set, hset, ha⟩
              exact ⟨trig, ⟨hc.2, hc.1⟩, set, hset, account, ha, rfl, rfl, trivial, rfl, rfl⟩
        | debtUp =>
            simp only [TriggerHit.mk.injEq, reduceCtorEq, false_and, and_false, exists_false,
              false_iff]
            -- A debt trigger is crossed by a rise only.
            rintro ⟨-, -, hc, -⟩
            exact absurd (hc.1.trans_le hc.2) hlt.not_gt
      · subst heq
        rw [if_neg (lt_irrefl _), if_neg (lt_irrefl _)]
        simp only [List.not_mem_nil, false_iff]
        rintro ⟨-, -, hc, -⟩
        cases side with
        | collateralDown => exact absurd hc.1 (not_le.2 hc.2)
        | debtUp => exact absurd hc.2 (not_le.2 hc.1)
      · rw [if_neg hgt.not_gt, if_pos hgt, mem_scan idx.debtUp (order asset .debtUp)
          (fun px => prev < px ∧ px ≤ new) (fun p hp => ⟨hp.1.le, hp.2⟩)
          fun px account => ⟨account, asset, .debtUp, px, new⟩]
        cases side with
        | collateralDown =>
            simp only [TriggerHit.mk.injEq, reduceCtorEq, false_and, and_false, exists_false,
              false_iff]
            -- A collateral trigger is crossed by a fall only.
            rintro ⟨-, -, hc, -⟩
            exact absurd (hc.1.trans_lt hc.2) hgt.not_gt
        | debtUp =>
            simp only [AssetIndex.Watches, AssetIndex.onSide, Crosses, TriggerHit.mk.injEq]
            constructor
            · rintro ⟨px, hpx, set, hset, a, ha, rfl, rfl, -, rfl, rfl⟩
              exact ⟨rfl, rfl, hpx, set, hset, ha⟩
            · rintro ⟨rfl, rfl, hc, set, hset, ha⟩
              exact ⟨trig, hc, set, hset, account, ha, rfl, rfl, trivial, rfl, rfl⟩

lemma nodup_scan (map : KeyMap PriceFx (KeySet Pubkey)) (order : PriceFx → SetOrder Pubkey)
    (lo hi : PriceFx) (C : PriceFx → Prop) [DecidablePred C] (mk : PriceFx → Pubkey → TriggerHit)
    (hmk : ∀ px px' a a', mk px a = mk px' a' → px = px' ∧ a = a') :
    ((map.range lo hi).flatMap fun e =>
      if C e.1 then ((order e.1).iterate e.2).map fun account => mk e.1 account
      else []).Nodup := by
  rw [List.nodup_flatMap]
  constructor
  · intro e _
    split_ifs
    · exact ((order e.1).nodup_iterate e.2).map fun a a' h => (hmk _ _ a a' h).2
    · exact List.nodup_nil
  · have hkeys : (map.range lo hi).Pairwise fun e e' => e.1 ≠ e'.1 :=
      List.pairwise_map.1 KeyMap.nodup_keys_range
    -- Two prices share no hit, as a hit names its price.
    refine hkeys.imp fun {e e'} hne => ?_
    intro h he he'
    dsimp only at he he'
    split_ifs at he he'
    · obtain ⟨a, _, ha⟩ := List.mem_map.1 he
      obtain ⟨a', _, ha'⟩ := List.mem_map.1 he'
      exact hne (hmk _ _ a a' (ha.trans ha'.symm)).1
    all_goals first
      | exact absurd he List.not_mem_nil
      | exact absurd he' List.not_mem_nil

/-- A scan reports no trigger twice. -/
lemma nodup_onPriceUpdate (ix : CandidateIndex) (order : ScanOrder) (asset : Pubkey)
    (prev new : PriceFx) : (ix.onPriceUpdate order asset prev new).Nodup := by
  unfold onPriceUpdate
  cases ix.byAsset.lookup asset with
  | none => exact List.nodup_nil
  | some idx =>
      simp only
      split_ifs
      · refine nodup_scan idx.collateralDown (order asset .collateralDown) new prev
          (fun px => px < prev ∧ new ≤ px)
          (fun px account => ⟨account, asset, .collateralDown, px, new⟩) ?_
        intro px px' a a' h
        exact ⟨congrArg TriggerHit.triggerPrice h, congrArg TriggerHit.account h⟩
      · refine nodup_scan idx.debtUp (order asset .debtUp) prev new
          (fun px => prev < px ∧ px ≤ new) (fun px account => ⟨account, asset, .debtUp, px, new⟩) ?_
        intro px px' a a' h
        exact ⟨congrArg TriggerHit.triggerPrice h, congrArg TriggerHit.account h⟩
      · exact List.nodup_nil

/-- No move, no hit. -/
lemma onPriceUpdate_self (ix : CandidateIndex) (order : ScanOrder) (asset : Pubkey)
    (price : PriceFx) : ix.onPriceUpdate order asset price price = [] := by
  unfold onPriceUpdate
  cases ix.byAsset.lookup asset with
  | none => rfl
  | some idx => simp

/-! ### Two scans of one index -/

lemma sameBlocks_scan {κ : Type*} {key : TriggerHit → κ} (map : KeyMap PriceFx (KeySet Pubkey))
    (order order' : PriceFx → SetOrder Pubkey) (lo hi : PriceFx) (C : PriceFx → Prop)
    [DecidablePred C] (mk : PriceFx → Pubkey → TriggerHit) (k : PriceFx → κ)
    (hmk : ∀ px a, key (mk px a) = k px) :
    SameBlocks key
      ((map.range lo hi).flatMap fun e =>
        if C e.1 then ((order e.1).iterate e.2).map fun account => mk e.1 account else [])
      ((map.range lo hi).flatMap fun e =>
        if C e.1 then ((order' e.1).iterate e.2).map fun account => mk e.1 account else []) := by
  refine SameBlocks.flatMap fun e _ => ?_
  split_ifs
  · -- the accounts under one price are one block
    refine .of_perm (k e.1) (((order e.1).iterate_perm (order' e.1) e.2).map _) fun h hh => ?_
    obtain ⟨a, -, rfl⟩ := List.mem_map.1 hh
    exact hmk e.1 a
  · exact .nil

/-- **Two scans of one move agree up to the order of hits at one trigger price.** -/
theorem sameBlocks_onPriceUpdate (ix : CandidateIndex) (order order' : ScanOrder)
    (asset : Pubkey) (prev new : PriceFx) :
    SameBlocks TriggerHit.crossing (ix.onPriceUpdate order asset prev new)
      (ix.onPriceUpdate order' asset prev new) := by
  unfold onPriceUpdate
  cases ix.byAsset.lookup asset with
  | none => exact .nil
  | some idx =>
      dsimp only
      split_ifs
      · exact sameBlocks_scan idx.collateralDown _ _ new prev (fun px => px < prev ∧ new ≤ px)
          (fun px account => ⟨account, asset, .collateralDown, px, new⟩)
          (fun px => (asset, .collateralDown, px, new)) fun _ _ => rfl
      · exact sameBlocks_scan idx.debtUp _ _ prev new (fun px => prev < px ∧ px ≤ new)
          (fun px account => ⟨account, asset, .debtUp, px, new⟩)
          (fun px => (asset, .debtUp, px, new)) fun _ _ => rfl
      · exact .nil

end CandidateIndex

end Grokbotliq
