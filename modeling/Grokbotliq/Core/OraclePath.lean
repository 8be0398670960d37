import Grokbotliq.Core.CandidateIndex
import Grokbotliq.Core.StateStore

/-!
# The oracle path

`OracleTriggerPath.applyOracleUpdate` writes two stores under two different conditions: the
versioned `oracleStore` takes an entry when its `(slot, write_version)` is newer, the live
price book takes the price unless the store refused it *and* the book already shows it.  The
book is what the next crossing is computed from.

The two stores agree (`OracleTriggerPath.Agrees`) exactly as long as every update is
`InOrder`: newer than what the store holds, or repeating the price in the book.  An older
update with another price moves the book back and wakes candidates while the store keeps the
newer price (`stale_price_enters_book`).

Everything about a call is in `applyOracleUpdate_cases`: it takes the price into both places, or
into the book alone, or does nothing.  The scan of a price move is the index's; the path only
supplies the price before.
-/

namespace Grokbotliq

/-- The live price book. -/
abbrev OraclePriceBook := KeyMap Pubkey PriceFx

structure OracleTriggerPath where
  prices : OraclePriceBook
  index : CandidateIndex
  oracleStore : StateStore PriceFx
  metrics : Metrics

/-- The arguments of one `apply_oracle_update`, the clock it stamps the entry with, and the orders
in which its scan walks through the index. -/
structure OracleUpdate where
  asset : Pubkey
  newPrice : PriceFx
  slot : ℕ
  writeVersion : ℕ
  source : UpdateSource
  recvTsUs : ℕ
  order : ScanOrder

/-- The entry the update offers to the store. -/
def OracleUpdate.entry (u : OracleUpdate) : StoredAccount PriceFx where
  slot := u.slot
  writeVersion := u.writeVersion
  pubkey := u.asset
  decoded := u.newPrice
  source := u.source
  recvTsUs := u.recvTsUs

namespace OracleTriggerPath

/-- A path over an index and metrics, its book and its store empty. -/
def new (index : CandidateIndex) (metrics : Metrics) : OracleTriggerPath :=
  ⟨∅, index, StateStore.new, metrics⟩

/-- Apply an oracle price update; returns newly crossed trigger hits. -/
def applyOracleUpdate (p : OracleTriggerPath) (u : OracleUpdate) :
    OracleTriggerPath × List TriggerHit :=
  let prev := (p.prices.lookup u.asset).getD u.newPrice
  let (oracleStore, updated) := p.oracleStore.upsert u.entry
  if !updated && p.prices.lookup u.asset == some u.newPrice then
    ({ p with oracleStore := oracleStore }, [])
  else
    let hits := p.index.onPriceUpdate u.order u.asset prev u.newPrice
    ({ p with
        prices := p.prices.insert u.asset u.newPrice
        oracleStore := oracleStore
        metrics := p.metrics.countUpdate hits.length }, hits)

/-- The path after an update. -/
def update (p : OracleTriggerPath) (u : OracleUpdate) : OracleTriggerPath :=
  (p.applyOracleUpdate u).1

/-- The hits an update returns. -/
def hits (p : OracleTriggerPath) (u : OracleUpdate) : List TriggerHit :=
  (p.applyOracleUpdate u).2

/-- The hits of a sequence of updates, call by call. -/
def hitsAlong (p : OracleTriggerPath) : List OracleUpdate → List (List TriggerHit)
  | [] => []
  | u :: us => p.hits u :: (p.update u).hitsAlong us

/-! ## What one update does -/

/-- The update is newer than the store's entry, or repeats the price in the book. -/
def InOrder (p : OracleTriggerPath) (u : OracleUpdate) : Prop :=
  p.oracleStore.Accepts u.entry ∨ p.prices.lookup u.asset = some u.newPrice

instance (p : OracleTriggerPath) (u : OracleUpdate) : Decidable (p.InOrder u) :=
  inferInstanceAs (Decidable (_ ∨ _))

/-- All that one update can do: take the price, or nothing at all. -/
lemma applyOracleUpdate_cases (p : OracleTriggerPath) (u : OracleUpdate) :
    (p.oracleStore.Accepts u.entry ∨ p.prices.lookup u.asset ≠ some u.newPrice) ∧
        p.applyOracleUpdate u =
          ({ p with
              prices := p.prices.insert u.asset u.newPrice
              oracleStore := (p.oracleStore.upsert u.entry).1
              metrics := p.metrics.countUpdate (p.hits u).length },
            p.index.onPriceUpdate u.order u.asset ((p.prices.lookup u.asset).getD u.newPrice)
              u.newPrice) ∨
      (¬ p.oracleStore.Accepts u.entry ∧ p.prices.lookup u.asset = some u.newPrice) ∧
        p.applyOracleUpdate u = (p, []) := by
  by_cases hacc : p.oracleStore.Accepts u.entry
  · have hupd : (p.oracleStore.upsert u.entry).2 = true :=
      (StateStore.upsert_updated_iff _ _).2 hacc
    refine Or.inl ⟨Or.inl hacc, ?_⟩
    simp [hits, applyOracleUpdate, hupd]
  · have hupsert : p.oracleStore.upsert u.entry = (p.oracleStore, false) :=
      StateStore.upsert_of_not_accepts hacc
    -- A refused entry still moves the book when it shows another price.
    by_cases hbook : p.prices.lookup u.asset = some u.newPrice
    · refine Or.inr ⟨⟨hacc, hbook⟩, ?_⟩
      simp [applyOracleUpdate, hupsert, hbook]
    · refine Or.inl ⟨Or.inr hbook, ?_⟩
      simp [hits, applyOracleUpdate, hupsert, hbook]

/-- After the call the book shows the new price, and every other asset's price unchanged. -/
lemma update_prices (p : OracleTriggerPath) (u : OracleUpdate) (asset : Pubkey) :
    (p.update u).prices.lookup asset =
      if asset = u.asset then some u.newPrice else p.prices.lookup asset := by
  unfold update
  rcases p.applyOracleUpdate_cases u with ⟨-, h⟩ | ⟨⟨-, hbook⟩, h⟩
  · rw [h]
    exact KeyMap.lookup_insert_eq_ite ..
  · rw [h]
    by_cases ha : asset = u.asset
    · rw [if_pos ha, ha, hbook]
    · rw [if_neg ha]

lemma update_oracleStore (p : OracleTriggerPath) (u : OracleUpdate) :
    (p.update u).oracleStore = (p.oracleStore.upsert u.entry).1 := by
  unfold update
  rcases p.applyOracleUpdate_cases u with ⟨-, h⟩ | ⟨⟨hrej, -⟩, h⟩
  · rw [h]
  · rw [h, StateStore.upsert_of_not_accepts hrej]

@[simp] lemma update_index (p : OracleTriggerPath) (u : OracleUpdate) :
    (p.update u).index = p.index := by
  unfold update
  rcases p.applyOracleUpdate_cases u with ⟨-, h⟩ | ⟨-, h⟩ <;> rw [h]

/-- The hits are those of the move from the book's price, the new price where it has none. -/
lemma hits_eq (p : OracleTriggerPath) (u : OracleUpdate) :
    p.hits u = p.index.onPriceUpdate u.order u.asset
      ((p.prices.lookup u.asset).getD u.newPrice) u.newPrice := by
  rcases p.applyOracleUpdate_cases u with ⟨-, h⟩ | ⟨⟨-, hbook⟩, h⟩
  · exact congrArg Prod.snd h
  · have hnil : p.hits u = [] := congrArg Prod.snd h
    rw [hnil, hbook, Option.getD_some, CandidateIndex.onPriceUpdate_self]

/-! ## The book and the store -/

/-- **The coupling invariant**: for every asset the book shows what the store holds. -/
def Agrees (p : OracleTriggerPath) : Prop :=
  ∀ asset, p.prices.lookup asset = (p.oracleStore.get asset).map StoredAccount.decoded

lemma agrees_new (index : CandidateIndex) (metrics : Metrics) : (new index metrics).Agrees := by
  intro asset
  simp [new, AList.lookup_empty]

/-- What is asked of one call: the stores agree afterwards, and an update the store refuses
changes no price, wakes nobody, and leaves every later call's hits what they would have been. -/
structure StoresInStep (p : OracleTriggerPath) (u : OracleUpdate) : Prop where
  agrees : (p.update u).Agrees
  prices_of_stale : ¬ p.oracleStore.Accepts u.entry → (p.update u).prices = p.prices
  hits_of_stale : ¬ p.oracleStore.Accepts u.entry → p.hits u = []
  later_of_stale : ¬ p.oracleStore.Accepts u.entry →
    ∀ us, (p.update u).hitsAlong us = p.hitsAlong us

lemma agrees_update {p : OracleTriggerPath} {u : OracleUpdate} (hp : p.Agrees)
    (hu : p.InOrder u) : (p.update u).Agrees := by
  intro asset
  rw [update_prices, update_oracleStore, StateStore.get_upsert]
  by_cases ha : asset = u.asset
  · subst ha
    by_cases hacc : p.oracleStore.Accepts u.entry
    · rw [if_pos rfl, if_pos ⟨rfl, hacc⟩]
      rfl
    · have hbook : p.prices.lookup u.asset = some u.newPrice := hu.resolve_left hacc
      rw [if_pos rfl, if_neg fun h => hacc h.2, ← hbook]
      exact hp u.asset
  · rw [if_neg ha, if_neg fun h => ha h.1]
    exact hp asset

lemma storesInStep_of_inOrder {p : OracleTriggerPath} {u : OracleUpdate} (hp : p.Agrees)
    (hu : p.InOrder u) : p.StoresInStep u := by
  have hstale : ¬ p.oracleStore.Accepts u.entry → p.applyOracleUpdate u = (p, []) := by
    intro hrej
    rcases p.applyOracleUpdate_cases u with ⟨htake, -⟩ | ⟨-, h⟩
    · exact absurd (hu.resolve_left hrej) (htake.resolve_left hrej)
    · exact h
  refine ⟨agrees_update hp hu, fun hrej => ?_, fun hrej => ?_, fun hrej us => ?_⟩
  · rw [update, hstale hrej]
  · rw [hits, hstale hrej]
  · rw [update, hstale hrej]

/-- A refused update with another price breaks the agreement. -/
lemma inOrder_of_agrees_update {p : OracleTriggerPath} {u : OracleUpdate} (hp : p.Agrees)
    (hpost : (p.update u).Agrees) : p.InOrder u := by
  by_contra hu
  obtain ⟨hrej, hbook⟩ := not_or.1 hu
  have hpost' := hpost u.asset
  rw [update_prices, if_pos rfl, update_oracleStore, StateStore.upsert_of_not_accepts hrej,
    ← hp u.asset] at hpost'
  exact hbook hpost'.symm

/-- **The book follows the store along a run exactly when the run is in order.** -/
theorem storesInStep_along_iff (index : CandidateIndex) (metrics : Metrics)
    (us : List OracleUpdate) :
    Runs.Along update StoresInStep (new index metrics) us ↔
      Runs.Along update InOrder (new index metrics) us := by
  refine Runs.along_congr Agrees ?_ ?_ us (agrees_new index metrics)
  · intro p u hp
    exact ⟨fun h => inOrder_of_agrees_update hp h.agrees, storesInStep_of_inOrder hp⟩
  · intro p u _ h
    exact h.agrees

/-- A newer price of 100 followed by an older one of 90, on the same asset. -/
def staleRun : List OracleUpdate :=
  [⟨Pubkey.test 9 1, .ofNat 100, 10, 1, .mock, 0, .asStored⟩,
    ⟨Pubkey.test 9 1, .ofNat 90, 9, 5, .mock, 0, .asStored⟩]

/-- The older price ends up in the book while the store still holds the newer one. -/
theorem stale_price_enters_book :
    ¬ Runs.Along update StoresInStep (new CandidateIndex.new Metrics.zero) staleRun ∧
      (Runs.exec update (new CandidateIndex.new Metrics.zero) staleRun).prices.lookup
        (Pubkey.test 9 1) = some (.ofNat 90) ∧
      ((Runs.exec update (new CandidateIndex.new Metrics.zero) staleRun).oracleStore.get
        (Pubkey.test 9 1)).map StoredAccount.decoded = some (.ofNat 100) := by
  refine ⟨?_, by decide, by decide⟩
  rintro ⟨hfirst, hsecond, -⟩
  have hnot : ¬ InOrder (update (new CandidateIndex.new Metrics.zero)
      ⟨Pubkey.test 9 1, .ofNat 100, 10, 1, .mock, 0, .asStored⟩)
      ⟨Pubkey.test 9 1, .ofNat 90, 9, 5, .mock, 0, .asStored⟩ := by decide
  exact hnot (inOrder_of_agrees_update hfirst.agrees hsecond.agrees)

end OracleTriggerPath

end Grokbotliq
