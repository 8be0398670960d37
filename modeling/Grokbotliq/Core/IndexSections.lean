import Grokbotliq.Core.CandidateIndex

/-!
# Calls on the index as sequences of critical sections

Seen from the other threads a call is not one step: `set_triggers` clears the account's old
triggers in one critical section and registers the new ones in another, and `remove_candidate`
clears before it drops the candidate.  Here each section is an atomic step and the sections of
any number of calls interleave.

The two copies of the triggers stay equal as long as no section registers triggers over others
that a racing call has registered for the same account since the clearing, unless the new list
holds those too (`Clean`).  This is exact: the first section that is not clean leaves an entry
in the per-asset copy that no list accounts for (`always_consistent_iff`).
-/

namespace Grokbotliq

open CandidateIndex

/-- A critical section of a call that writes the index. -/
inductive IndexSection
  | upsert (m : CandidateMeta)
  | clear (account : Pubkey)
  | insert (account : Pubkey) (triggers : List PriceTrigger)
  | drop (account : Pubkey)

namespace IndexSection

def run (ix : CandidateIndex) : IndexSection → CandidateIndex
  | upsert m => ix.upsertCandidate m
  | clear account => ix.clearTriggers account
  | insert account triggers => ix.insertTriggers account triggers
  | drop account => ix.dropCandidate account

/-- The sections of a call, in order. -/
def ofOp : CandidateIndex.Op → List IndexSection
  | .upsertCandidate m => [upsert m]
  | .removeCandidate account => [clear account, drop account]
  | .setTriggers account triggers => [clear account, insert account triggers]
  | .clearTriggers account => [clear account]

/-- Run one after another the sections of a call are the call. -/
lemma exec_ofOp (ix : CandidateIndex) (op : CandidateIndex.Op) :
    Runs.exec run ix (ofOp op) = ix.apply op := by
  cases op <;> rfl

end IndexSection

/-! ## Interleavings -/

/-- The index and, for each thread, the sections its call has still to run. -/
structure SectionSystem (ι : Type*) where
  index : CandidateIndex
  todo : ι → List IndexSection

/-- A thread enters a call, or runs the next section of the call it is in. -/
inductive SectionEvent (ι : Type*)
  | call (i : ι) (op : CandidateIndex.Op)
  | enter (i : ι)

namespace SectionSystem

variable {ι : Type*} [DecidableEq ι]

/-- An empty index and no call in progress. -/
def start : SectionSystem ι := ⟨CandidateIndex.new, fun _ => []⟩

/-- A thread in the middle of a call cannot enter another. -/
def step (s : SectionSystem ι) : SectionEvent ι → SectionSystem ι
  | .call i op =>
    match s.todo i with
    | [] => { s with todo := Function.update s.todo i (IndexSection.ofOp op) }
    | _ :: _ => s
  | .enter i =>
    match s.todo i with
    | [] => s
    | sec :: rest => ⟨sec.run s.index, Function.update s.todo i rest⟩

/-- No call is in progress. -/
def Idle (s : SectionSystem ι) : Prop := ∀ i, s.todo i = []

/-- The section about to run does not register triggers over ones it does not hold itself. -/
def CleanSection (ix : CandidateIndex) : IndexSection → Prop
  | .insert account triggers =>
    ∀ t ∈ (ix.accountTriggers.lookup account).getD [],
      Listed triggers t.asset t.side t.triggerPrice
  | _ => True

instance (ix : CandidateIndex) : ∀ sec, Decidable (CleanSection ix sec)
  | .upsert _ => isTrue trivial
  | .clear _ => isTrue trivial
  | .insert _ _ => inferInstanceAs (Decidable (∀ t ∈ _, _))
  | .drop _ => isTrue trivial

/-- The event runs no section, or a clean one. -/
def Clean (s : SectionSystem ι) : SectionEvent ι → Prop
  | .call _ _ => True
  | .enter i => ∀ sec ∈ (s.todo i).head?, CleanSection s.index sec

instance (s : SectionSystem ι) : ∀ e, Decidable (s.Clean e)
  | .call _ _ => isTrue trivial
  | .enter _ => inferInstanceAs (Decidable (∀ sec ∈ _, _))

/-! ## What a section does to the two copies

Only the second section of `set_triggers` can break the agreement: it overwrites a list whose
entries it does not take out of the other copy. -/

/-- Registering over an old list keeps the copies equal exactly when the new list holds it. -/
lemma consistent_insertTriggers_iff {ix : CandidateIndex} (h : ix.Consistent) (acct : Pubkey)
    (ts : List PriceTrigger) :
    (ix.insertTriggers acct ts).Consistent ↔ CleanSection ix (.insert acct ts) := by
  have hindexed : ∀ asset s price account,
      Indexed (ix.insertTriggers acct ts).byAsset asset s price account ↔
        (account = acct ∧ Listed ts asset s price) ∨
          Registered ix.accountTriggers asset s price account := by
    intro asset s price account
    rw [← h asset s price account]
    exact indexed_foldl_addTrigger ..
  have hregistered : ∀ asset s price account,
      Registered (ix.insertTriggers acct ts).accountTriggers asset s price account ↔
        (account = acct ∧ Listed ts asset s price) ∨
          (account ≠ acct ∧ Registered ix.accountTriggers asset s price account) := by
    intro asset s price account
    exact registered_insert ..
  -- The section takes nothing out of the by-asset half, so what the account had before must be
  -- listed again.
  constructor
  · intro hafter t ht
    cases hold : ix.accountTriggers.lookup acct with
    | none => simp [hold] at ht
    | some old =>
        have hmem : t ∈ old := by simpa [hold] using ht
        have hreg : Registered ix.accountTriggers t.asset t.side t.triggerPrice acct :=
          ⟨old, hold, t, hmem, rfl, rfl, rfl⟩
        have hnow := (hafter t.asset t.side t.triggerPrice acct).1
          ((hindexed ..).2 (Or.inr hreg))
        rcases (hregistered ..).1 hnow with ⟨-, hlisted⟩ | ⟨hne, -⟩
        · exact hlisted
        · exact absurd rfl hne
  · intro hclean asset s price account
    rw [hindexed, hregistered]
    by_cases ha : account = acct
    · subst ha
      have hold : Registered ix.accountTriggers asset s price account →
          Listed ts asset s price := by
        rintro ⟨old, hlookup, t, ht, rfl, rfl, rfl⟩
        exact hclean t (by rw [hlookup]; exact ht)
      tauto
    · simp [ha]

lemma consistent_run_iff {ix : CandidateIndex} (h : ix.Consistent) (sec : IndexSection) :
    (sec.run ix).Consistent ↔ CleanSection ix sec := by
  cases sec with
  | upsert m => exact iff_of_true h trivial
  | clear account => exact iff_of_true (consistent_clearTriggers h account) trivial
  | insert account triggers => exact consistent_insertTriggers_iff h account triggers
  | drop account =>
      refine iff_of_true (fun asset s price a => ?_) trivial
      simp only [IndexSection.run, dropCandidate_byAsset, dropCandidate_accountTriggers]
      exact h asset s price a

lemma consistent_step_iff {s : SectionSystem ι} (h : s.index.Consistent) (e : SectionEvent ι) :
    (s.step e).index.Consistent ↔ s.Clean e := by
  cases e with
  | call i op =>
      cases htodo : s.todo i with
      | nil => simp only [step, htodo, Clean, h]
      | cons sec rest => simp only [step, htodo, Clean, h]
  | enter i =>
      cases htodo : s.todo i with
      | nil => simp [step, htodo, Clean, h]
      | cons sec rest =>
          have hclean : s.Clean (.enter i) ↔ CleanSection s.index sec := by
            simp [Clean, htodo]
          rw [hclean, ← consistent_run_iff h sec]
          simp only [step, htodo]

/-! ## Runs -/

/-- The copies are equal in every state of a run exactly when every section it runs is clean. -/
theorem always_consistent_iff (es : List (SectionEvent ι)) :
    Runs.Always step (fun s : SectionSystem ι => s.index.Consistent) start es ↔
      Runs.Along step Clean start es := by
  have hstart : (start : SectionSystem ι).index.Consistent := consistent_new
  rw [Runs.always_iff_along, and_iff_right hstart]
  exact Runs.along_congr (fun s : SectionSystem ι => s.index.Consistent)
    (fun s e hs => consistent_step_iff hs e) (fun _ _ _ hnext => hnext) es hstart

/-- **No orphan and no lost trigger between calls.**  In a run whose sections are all clean,
whenever no call is in progress the per-asset copy holds an entry exactly if the account's list
does. -/
theorem idle_consistent (es : List (SectionEvent ι))
    (hclean : Runs.Along step Clean (start : SectionSystem ι) es) :
    Runs.Always step (fun s : SectionSystem ι => s.Idle → s.index.Consistent) start es := by
  have hmono : ∀ s : SectionSystem ι, s.index.Consistent → s.Idle → s.index.Consistent :=
    fun _ h _ => h
  exact ((always_consistent_iff es).2 hclean).mono hmono es

/-- Two accounts' triggers set by two threads at once. -/
def crossingSets : List (SectionEvent (Fin 2)) :=
  [.call 0 (.setTriggers (Pubkey.test 7 1) [⟨Pubkey.test 7 1, Pubkey.test 9 1, .debtUp, .ofNat 5⟩]),
    .call 1 (.setTriggers (Pubkey.test 7 2) []),
    .enter 0, .enter 1, .enter 0, .enter 1]

theorem idle_consistent_crossingSets :
    Runs.Always step (fun s : SectionSystem (Fin 2) => s.Idle → s.index.Consistent) start
      crossingSets :=
  idle_consistent crossingSets (by decide)

/-! ## Two threads replacing the triggers of one account -/

/-- Both calls clear, then both register. -/
def racingSets : List (SectionEvent (Fin 2)) :=
  [.call 0 (.setTriggers (Pubkey.test 7 1)
      [⟨Pubkey.test 7 1, Pubkey.test 9 1, .collateralDown, .ofNat 100⟩]),
    .call 1 (.setTriggers (Pubkey.test 7 1)
      [⟨Pubkey.test 7 1, Pubkey.test 9 1, .collateralDown, .ofNat 50⟩]),
    .enter 0, .enter 1, .enter 0, .enter 1]

/-- Both calls are over, the account's list holds the trigger at 50 only, and a fall from 110 to
90 wakes the account at 100. -/
theorem racing_sets_leave_orphan :
    (Runs.exec step (start : SectionSystem (Fin 2)) racingSets).Idle ∧
      ¬ (Runs.exec step (start : SectionSystem (Fin 2)) racingSets).index.Consistent := by
  refine ⟨by unfold Idle; decide, fun hcons => ?_⟩
  have hhit : (⟨Pubkey.test 7 1, Pubkey.test 9 1, .collateralDown, .ofNat 100, .ofNat 90⟩ :
      TriggerHit) ∈ (Runs.exec step (start : SectionSystem (Fin 2)) racingSets).index.onPriceUpdate
        .asStored (Pubkey.test 9 1) (.ofNat 110) (.ofNat 90) := by decide
  have hindexed := ((mem_onPriceUpdate ..).1 hhit).2.2.2
  obtain ⟨ts, hts, t, ht, -, -, hprice⟩ := (hcons ..).1 hindexed
  have hlist :
      (Runs.exec step (start : SectionSystem (Fin 2)) racingSets).index.accountTriggers.lookup
        (Pubkey.test 7 1) =
        some [⟨Pubkey.test 7 1, Pubkey.test 9 1, .collateralDown, .ofNat 50⟩] := by decide
  obtain rfl := Option.some.inj (hlist.symm.trans hts)
  obtain rfl := List.mem_singleton.1 ht
  exact absurd hprice (by decide)

end SectionSystem

end Grokbotliq
