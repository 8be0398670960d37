import Grokbotliq.Liquidator.PlanLoop
import Grokbotliq.Streaming.FailoverMux

/-!
# Fixture files

Oracle ticks and borrower snapshots as the fixture files give them, and what a binary makes of
them before it starts: the stream of price events, and the candidate index.  Prices and dollar
amounts are floats in the files; the conversions they go through are parameters.

A file may list an account twice.  The index then holds the triggers of its *last* entry
(`lookup_of_loadIndex`), while `findBorrower` finds the *first*.

Entering a borrower can fail in its protocol, its band and its triggers, and the first failure
ends the load.  A file that loads is one in which every entry can be read, so the last entry of an
account is the one that counts (`loadBorrower_eq_ok`, `lookup_of_loadIndex`).
-/

namespace Grokbotliq.Fixtures

open Liquidator

/-- The conversions of the floats of a fixture file. -/
structure FloatCasts (F : Type*) where
  /-- `PriceFx::from_f64`. -/
  priceFx : F → PriceFx
  /-- `HealthFx::from_f64`. -/
  healthFx : F → HealthFx
  /-- `(usd * 1_000_000.0) as i64`. -/
  signedUsdMicro : F → Int64
  /-- `(usd * 1_000_000.0) as u64`. -/
  usdMicro : F → UInt64

structure FixturePubkey where
  tag : UInt8
  index : UInt64
  deriving DecidableEq

def FixturePubkey.toPubkey (k : FixturePubkey) : Pubkey := Pubkey.test k.tag k.index

structure OracleTickFixture (F : Type*) where
  asset : FixturePubkey
  priceUsd : F
  slot : ℕ
  writeVersion : ℕ

structure TriggerFixture (F : Type*) where
  asset : FixturePubkey
  side : String
  triggerPriceUsd : F

structure PlanFixture (F : Type*) where
  repayAmount : UInt64
  grossProfitUsd : F
  notionalUsd : F
  capitalUsd : F

structure BorrowerFixture (F : Type*) where
  account : FixturePubkey
  protocol : String
  band : String
  health : F
  assets : List FixturePubkey
  triggers : List (TriggerFixture F)
  plan : PlanFixture F

/-! ## Reading a borrower -/

def parseProtocol (s : String) : Outcome StreamError Protocol :=
  match s.toLower with
  | "kamino" => .ok .kamino
  | "project0" | "p0" | "marginfi" => .ok .project0
  | "save" | "solend" => .ok .save
  | other => .err (.fixture ("unknown protocol: " ++ other))

def parseBand (s : String) : Outcome StreamError CandidateBand :=
  match s.toLower with
  | "critical" => .ok .critical
  | "hot" => .ok .hot
  | "warm" => .ok .warm
  | "cold" => .ok .cold
  | other => .err (.fixture ("unknown band: " ++ other))

def parseSide (s : String) : Outcome StreamError TriggerSide :=
  match s.toLower with
  | "collateraldown" | "collateral_down" => .ok .collateralDown
  | "debtup" | "debt_up" => .ok .debtUp
  | other => .err (.fixture ("unknown side: " ++ other))

variable {F : Type*} (fx : FloatCasts F)

def borrowerToMeta (b : BorrowerFixture F) : Outcome StreamError CandidateMeta := do
  let protocol ← parseProtocol b.protocol
  let band ← parseBand b.band
  return {
    account := b.account.toPubkey
    protocol := protocol
    band := band
    health := fx.healthFx b.health
    assets := b.assets.map FixturePubkey.toPubkey }

/-- The list of a borrower's triggers; the first side that cannot be read ends it. -/
def readTriggers (account : Pubkey) :
    List (TriggerFixture F) → Outcome StreamError (List PriceTrigger)
  | [] => .ok []
  | t :: ts => do
    let side ← parseSide t.side
    let rest ← readTriggers account ts
    return ⟨account, t.asset.toPubkey, side, fx.priceFx t.triggerPriceUsd⟩ :: rest

lemma parseSide_ne_panic (s : String) : parseSide s ≠ .panic := by
  unfold parseSide
  split <;> simp

lemma readTriggers_ne_panic (account : Pubkey) :
    ∀ ts : List (TriggerFixture F), readTriggers fx account ts ≠ .panic
  | [] => by simp [readTriggers]
  | t :: ts => by
      have hrest := readTriggers_ne_panic account ts
      unfold readTriggers
      simp [Outcome.bind_eq_panic, parseSide_ne_panic, hrest]

def borrowerTriggers (b : BorrowerFixture F) : Outcome StreamError (List PriceTrigger) :=
  readTriggers fx b.account.toPubkey b.triggers

def findBorrower (borrowers : List (BorrowerFixture F)) (hit : TriggerHit) :
    Option (BorrowerFixture F) :=
  borrowers.find? fun b => b.account.toPubkey = hit.account

/-! ## The index -/

lemma get_upsertCandidate (ix : CandidateIndex) (m : CandidateMeta) (account : Pubkey) :
    (ix.upsertCandidate m).get account =
      if account = m.account then some m else ix.get account :=
  KeyMap.lookup_insert_eq_ite ..

lemma get_setTriggers (ix : CandidateIndex) (owner account : Pubkey) (ts : List PriceTrigger) :
    (ix.setTriggers owner ts).get account = ix.get account := by
  unfold CandidateIndex.setTriggers CandidateIndex.insertTriggers CandidateIndex.clearTriggers
  cases ix.accountTriggers.lookup owner <;> rfl

lemma accountTriggers_setTriggers (ix : CandidateIndex) (owner account : Pubkey)
    (ts : List PriceTrigger) :
    (ix.setTriggers owner ts).accountTriggers.lookup account =
      if account = owner then some ts else ix.accountTriggers.lookup account := by
  unfold CandidateIndex.setTriggers CandidateIndex.insertTriggers
  rw [KeyMap.lookup_insert_eq_ite, CandidateIndex.clearTriggers_lookup]
  split_ifs <;> rfl

/-- One borrower entered: classified, then its triggers set. -/
def loadBorrower (ix : CandidateIndex) (b : BorrowerFixture F) :
    Outcome StreamError CandidateIndex := do
  let m ← borrowerToMeta fx b
  let triggers ← borrowerTriggers fx b
  return (ix.upsertCandidate m).setTriggers b.account.toPubkey triggers

def loadIndex (borrowers : List (BorrowerFixture F)) : Outcome StreamError CandidateIndex :=
  borrowers.foldlM (loadBorrower fx) CandidateIndex.new

/-- The last entry of a list that passes a test. -/
def latest? {α : Type*} (test : α → Bool) (xs : List α) : Option α := xs.reverse.find? test

@[simp] lemma latest?_nil {α : Type*} (test : α → Bool) : latest? test [] = none := rfl

lemma latest?_concat {α : Type*} (test : α → Bool) (xs : List α) (x : α) :
    latest? test (xs ++ [x]) = if test x = true then some x else latest? test xs := by
  unfold latest?
  rw [List.reverse_append, List.reverse_singleton, List.singleton_append, List.find?_cons]
  cases test x <;> simp

/-- The entry whose triggers the index holds for an account. -/
def lastEntry (borrowers : List (BorrowerFixture F)) (account : Pubkey) :
    Option (BorrowerFixture F) :=
  latest? (fun b => b.account.toPubkey = account) borrowers

/-- What a borrower that loads leaves in the index. -/
lemma loadBorrower_eq_ok {ix ix' : CandidateIndex} {b : BorrowerFixture F} :
    loadBorrower fx ix b = .ok ix' ↔
      ∃ m ts, borrowerToMeta fx b = .ok m ∧ borrowerTriggers fx b = .ok ts ∧
        ix' = (ix.upsertCandidate m).setTriggers b.account.toPubkey ts := by
  unfold loadBorrower
  simp only [Outcome.bind_eq_ok, Outcome.pure_eq, Outcome.ok.injEq]
  constructor
  · rintro ⟨m, hm, ts, hts, rfl⟩
    exact ⟨m, ts, hm, hts, rfl⟩
  · rintro ⟨m, ts, hm, hts, rfl⟩
    exact ⟨m, hm, ts, hts, rfl⟩

lemma loadBorrower_ne_panic (ix : CandidateIndex) (b : BorrowerFixture F) :
    loadBorrower fx ix b ≠ .panic := by
  have hprotocol : parseProtocol b.protocol ≠ .panic := by
    unfold parseProtocol
    split <;> simp
  have hband : parseBand b.band ≠ .panic := by
    unfold parseBand
    split <;> simp
  have htriggers := readTriggers_ne_panic fx b.account.toPubkey b.triggers
  unfold loadBorrower borrowerToMeta borrowerTriggers
  simp [Outcome.bind_eq_panic, hprotocol, hband, htriggers]

lemma loadIndex_concat (bs : List (BorrowerFixture F)) (b : BorrowerFixture F) :
    loadIndex fx (bs ++ [b]) = (loadIndex fx bs >>= fun ix => loadBorrower fx ix b) := by
  unfold loadIndex
  rw [List.foldlM_append]
  refine bind_congr fun ix => ?_
  rw [List.foldlM_cons]
  exact bind_pure _

/-- **The loaded index**: its two copies agree, and each account has the triggers of its last
entry in the file. -/
theorem lookup_of_loadIndex {borrowers : List (BorrowerFixture F)} {ix : CandidateIndex}
    (h : loadIndex fx borrowers = .ok ix) :
    ix.Consistent ∧ ∀ account ts, ix.accountTriggers.lookup account = some ts ↔
      ∃ b, lastEntry borrowers account = some b ∧ borrowerTriggers fx b = .ok ts := by
  -- By induction from the last row, which overwrites what an earlier one of its account has set.
  induction borrowers using List.reverseRecOn generalizing ix with
  | nil =>
      obtain rfl : CandidateIndex.new = ix := Outcome.ok.inj h
      refine ⟨CandidateIndex.consistent_new, fun account ts => ?_⟩
      simp [CandidateIndex.new, AList.lookup_empty, lastEntry]
  | append_singleton bs b ih =>
      rw [loadIndex_concat, Outcome.bind_eq_ok] at h
      obtain ⟨ix₀, hbs, hb⟩ := h
      obtain ⟨m, ts₀, -, hts₀, rfl⟩ := (loadBorrower_eq_ok fx).1 hb
      obtain ⟨hcons, htable⟩ := ih hbs
      have hcons' : (ix₀.upsertCandidate m).Consistent := hcons
      refine ⟨CandidateIndex.consistent_setTriggers hcons' _ _, fun account ts => ?_⟩
      have hlookup : ((ix₀.upsertCandidate m).setTriggers b.account.toPubkey
          ts₀).accountTriggers.lookup account =
            if account = b.account.toPubkey then some ts₀
            else ix₀.accountTriggers.lookup account := accountTriggers_setTriggers ..
      rw [hlookup, lastEntry, latest?_concat]
      by_cases ha : account = b.account.toPubkey
      · simp [ha, hts₀]
      · have hne : ¬ b.account.toPubkey = account := fun heq => ha heq.symm
        simpa [ha, hne, lastEntry] using htable account ts

/-- A borrower of a file that loads can be read. -/
lemma exists_meta_of_loadIndex {borrowers : List (BorrowerFixture F)} {ix : CandidateIndex}
    (h : loadIndex fx borrowers = .ok ix) {b : BorrowerFixture F} (hb : b ∈ borrowers) :
    ∃ m, borrowerToMeta fx b = .ok m := by
  induction borrowers using List.reverseRecOn generalizing ix with
  | nil => exact absurd hb List.not_mem_nil
  | append_singleton bs b' ih =>
      rw [loadIndex_concat, Outcome.bind_eq_ok] at h
      obtain ⟨ix₀, hbs, hb'⟩ := h
      rcases List.mem_append.1 hb with hmem | hmem
      · exact ih hbs hmem
      · obtain rfl := List.mem_singleton.1 hmem
        obtain ⟨m, -, hm, -⟩ := (loadBorrower_eq_ok fx).1 hb'
        exact ⟨m, hm⟩

/-- Reading fails with an error; it never panics. -/
lemma loadIndex_ne_panic (borrowers : List (BorrowerFixture F)) :
    loadIndex fx borrowers ≠ .panic := by
  induction borrowers using List.reverseRecOn with
  | nil => simp [loadIndex]
  | append_singleton bs b ih =>
      rw [loadIndex_concat, Ne, Outcome.bind_eq_panic]
      rintro (hbs | ⟨ix, -, hb⟩)
      · exact ih hbs
      · exact loadBorrower_ne_panic fx ix b hb

/-! ## The price events -/

def ticksToEvents (ticks : List (OracleTickFixture F)) : List StreamEvent :=
  ticks.map fun t => .price t.asset.toPubkey (fx.priceFx t.priceUsd) t.slot t.writeVersion

/-- The events that are not the first of their asset. -/
def laterEvents : List Pubkey → List StreamEvent → List StreamEvent
  | _, [] => []
  | seen, .price asset priceFx slot writeVersion :: evs =>
    if asset ∈ seen then .price asset priceFx slot writeVersion :: laterEvents seen evs
    else laterEvents (asset :: seen) evs
  | seen, .account _ :: evs => laterEvents seen evs
  | seen, .slot _ _ _ :: evs => laterEvents seen evs

end Grokbotliq.Fixtures
