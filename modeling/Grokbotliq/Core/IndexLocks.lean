import Grokbotliq.Core.CandidateIndex
import Grokbotliq.Framework.Locks

/-!
# The candidate index under its four locks

Each method of the index as the sequence of locks it takes, any number of threads each making
any sequence of calls.  The methods that only look something up take one lock for reading and
give it back (`IndexCall.readProg`).  Run alone, the locked programs are the methods of
`CandidateIndex` (`eval_threadProg`).

Three nestings occur: `by_account` then `by_band` when a candidate is classified,
`account_triggers` then `by_asset` in `clear_triggers`, and the reverse, `by_asset` then
`account_triggers`, in the second half of `set_triggers`.  The last two can cross.  They are the
only way to a deadlock: a run meets none exactly as long as no call enters either of them while
another call stands between the two locks of the other (`no_deadlock_iff_sectionsApart`), and
threads that never call `set_triggers` cannot deadlock at all.

The general part is `Framework/Locks.lean`: programs that acquire and release, a discipline they
obey, and the wait-for graph of a state.  Here the discipline is the three nestings (`Nests`),
under which no thread asks for a lock while it holds two, so a circle of waiting threads has two
members and they are the two of `Crossed` (`deadlock_iff_crossed`).
-/

namespace Grokbotliq

open Locks

/-- The locks of the index, named by the table they guard. -/
inductive IndexLock
  | byAccount
  | byBand
  | byAsset
  | accountTriggers
  deriving DecidableEq, Repr

abbrev IndexProg := Prog IndexLock CandidateIndex

namespace IndexLock

/-- `.write()` on a table. -/
def write (l : IndexLock) : IndexLock × Mode := (l, .exclusive)

/-- `.read()` on a table. -/
def read (l : IndexLock) : IndexLock × Mode := (l, .shared)

end IndexLock

open IndexLock

/-! ## The methods -/

/-- One call of a method of the index. -/
inductive IndexCall
  | upsertCandidate (m : CandidateMeta)
  | removeCandidate (account : Pubkey)
  | setTriggers (account : Pubkey) (triggers : List PriceTrigger)
  | clearTriggers (account : Pubkey)
  | onPriceUpdate (asset : Pubkey) (prevPrice newPrice : PriceFx)
  | get (account : Pubkey)
  | accountsInBand (band : CandidateBand)
  | triggerCount
  | candidateCount

namespace IndexCall

/-- Guards are dropped in the reverse order of their declaration. -/
def upsertProg (m : CandidateMeta) (k : IndexProg) : IndexProg :=
  .acquire byAccount.write id fun _ =>
    .acquire byBand.write (fun ix => ix.upsertCandidate m) fun _ =>
      .release byBand (.release byAccount k)

def clearProg (account : Pubkey) (k : IndexProg) : IndexProg :=
  .acquire accountTriggers.write
    (fun ix => { ix with accountTriggers := ix.accountTriggers.erase account }) fun ix =>
      match ix.accountTriggers.lookup account with
      | none => .release accountTriggers k
      | some old =>
        .acquire byAsset.write
          (fun ix => { ix with
            byAsset := old.foldl (CandidateIndex.dropTrigger account) ix.byAsset }) fun _ =>
          .release byAsset (.release accountTriggers k)

def setProg (account : Pubkey) (triggers : List PriceTrigger) (k : IndexProg) : IndexProg :=
  clearProg account <|
    .acquire byAsset.write id fun _ =>
      .acquire accountTriggers.write (fun ix => ix.insertTriggers account triggers) fun _ =>
        .release accountTriggers (.release byAsset k)

def removeProg (account : Pubkey) (k : IndexProg) : IndexProg :=
  clearProg account <|
    .acquire byAccount.write id fun _ =>
      .acquire byBand.write (fun ix => ix.dropCandidate account) fun _ =>
        .release byBand (.release byAccount k)

/-- A method that reads one table and returns. -/
def readProg (l : IndexLock) (k : IndexProg) : IndexProg :=
  .acquire l.read id fun _ => .release l k

/-- The call's locks, then `k`. -/
def prog : IndexCall → IndexProg → IndexProg
  | upsertCandidate m => upsertProg m
  | removeCandidate account => removeProg account
  | setTriggers account triggers => setProg account triggers
  | clearTriggers account => clearProg account
  | onPriceUpdate _ _ _ => readProg byAsset
  | get _ => readProg byAccount
  | accountsInBand _ => readProg byBand
  | triggerCount => readProg accountTriggers
  | candidateCount => readProg byAccount

/-- What the call does to the index. -/
def apply (ix : CandidateIndex) : IndexCall → CandidateIndex
  | upsertCandidate m => ix.upsertCandidate m
  | removeCandidate account => ix.removeCandidate account
  | setTriggers account triggers => ix.setTriggers account triggers
  | clearTriggers account => ix.clearTriggers account
  | onPriceUpdate _ _ _ => ix
  | get _ => ix
  | accountsInBand _ => ix
  | triggerCount => ix
  | candidateCount => ix

end IndexCall

/-- A thread making its calls one after another. -/
def threadProg (calls : List IndexCall) : IndexProg := calls.foldr IndexCall.prog .done

/-! ### Alone, the programs are the methods -/

lemma eval_clearProg (account : Pubkey) (k : IndexProg) (ix : CandidateIndex) :
    (IndexCall.clearProg account k).eval ix = k.eval (ix.clearTriggers account) := by
  cases h : ix.accountTriggers.lookup account with
  | none =>
      have herase : ix.accountTriggers.erase account = ix.accountTriggers :=
        KeyMap.erase_of_lookup_none h
      simp only [IndexCall.clearProg, Prog.eval, h, CandidateIndex.clearTriggers, herase]
  | some old => simp only [IndexCall.clearProg, Prog.eval, h, CandidateIndex.clearTriggers]

lemma eval_prog (c : IndexCall) (k : IndexProg) (ix : CandidateIndex) :
    (c.prog k).eval ix = k.eval (c.apply ix) := by
  cases c with
  | upsertCandidate m => rfl
  | removeCandidate account => exact eval_clearProg ..
  | setTriggers account triggers => exact eval_clearProg ..
  | clearTriggers account => exact eval_clearProg ..
  | onPriceUpdate asset prevPrice newPrice => rfl
  | get account => rfl
  | accountsInBand band => rfl
  | triggerCount => rfl
  | candidateCount => rfl

/-- **A thread that runs alone makes its calls.** -/
theorem eval_threadProg (calls : List IndexCall) (ix : CandidateIndex) :
    (threadProg calls).eval ix = Runs.exec IndexCall.apply ix calls := by
  induction calls generalizing ix with
  | nil => rfl
  | cons c calls ih =>
      rw [threadProg, List.foldr_cons, eval_prog, Runs.exec_cons]
      exact ih _

/-! ## The discipline -/

/-- The nestings that occur; the one of `set_triggers` only where `sets` holds. -/
inductive Nests (sets : Prop) : IndexLock × Mode → IndexLock × Mode → Prop
  | classify : Nests sets byAccount.write byBand.write
  | clear : Nests sets accountTriggers.write byAsset.write
  | set : sets → Nests sets byAsset.write accountTriggers.write

/-- A call of `set_triggers`. -/
def IndexCall.IsSet : IndexCall → Prop
  | .setTriggers _ _ => True
  | _ => False

/-- No lock is asked for while two are held. -/
lemma nests_pair {sets : Prop} (h h' r : IndexLock × Mode) :
    Nests sets h h' → Nests sets h r → ¬ Nests sets h' r := by
  rintro ⟨⟩ ⟨⟩ hr <;> cases hr

lemma obeys_clearProg {sets : Prop} (account : Pubkey) {k : IndexProg}
    (hk : k.Obeys (Nests sets) []) :
    (IndexCall.clearProg account k).Obeys (Nests sets) [] := by
  refine Prog.obeys_outer fun ix => ?_
  cases ix.accountTriggers.lookup account with
  | none => exact Prog.obeys_release_last accountTriggers.write hk
  | some old => exact Prog.obeys_inner Nests.clear (by decide) _ hk

/-- A reader holds its lock alone, so any discipline allows it. -/
lemma obeys_readProg {sets : Prop} (l : IndexLock) {k : IndexProg}
    (hk : k.Obeys (Nests sets) []) : (IndexCall.readProg l k).Obeys (Nests sets) [] :=
  Prog.obeys_outer fun _ => Prog.obeys_release_last l.read hk

lemma obeys_prog {sets : Prop} (c : IndexCall) (hc : c.IsSet → sets) {k : IndexProg}
    (hk : k.Obeys (Nests sets) []) : (c.prog k).Obeys (Nests sets) [] := by
  cases c with
  | upsertCandidate m =>
      exact Prog.obeys_outer fun _ => Prog.obeys_inner Nests.classify (by decide) _ hk
  | removeCandidate account =>
      exact obeys_clearProg account <|
        Prog.obeys_outer fun _ => Prog.obeys_inner Nests.classify (by decide) _ hk
  | setTriggers account triggers =>
      exact obeys_clearProg account <|
        Prog.obeys_outer fun _ => Prog.obeys_inner (Nests.set (hc trivial)) (by decide) _ hk
  | clearTriggers account => exact obeys_clearProg account hk
  | onPriceUpdate asset prevPrice newPrice => exact obeys_readProg byAsset hk
  | get account => exact obeys_readProg byAccount hk
  | accountsInBand band => exact obeys_readProg byBand hk
  | triggerCount => exact obeys_readProg accountTriggers hk
  | candidateCount => exact obeys_readProg byAccount hk

lemma obeys_threadProg {sets : Prop} (calls : List IndexCall)
    (hcalls : ∀ c ∈ calls, c.IsSet → sets) : (threadProg calls).Obeys (Nests sets) [] := by
  induction calls with
  | nil => trivial
  | cons c calls ih =>
      exact obeys_prog c (hcalls c List.mem_cons_self)
        (ih fun c' hc' => hcalls c' (List.mem_cons_of_mem _ hc'))

/-! ## Threads on one index -/

/-- Threads sharing one index. -/
abbrev IndexSystem (ι : Type) := LockSystem ι IndexLock CandidateIndex

namespace IndexSystem

open LockSystem

variable {ι : Type}

/-- Each thread about to make its calls on `ix`. -/
def start (calls : ι → List IndexCall) (ix : CandidateIndex) : IndexSystem ι :=
  LockSystem.start (fun i => threadProg (calls i)) ix

/-- Two threads between the two locks of `clear_triggers` and of `set_triggers`. -/
def Crossed (s : IndexSystem ι) : Prop :=
  ∃ i j, s.Between i accountTriggers.write byAsset.write ∧
    s.Between j byAsset.write accountTriggers.write

/-- The scheduled thread enters neither of the two nestings while another thread stands between
the two locks of the other: it does not take `account_triggers` to clear triggers it will find
there while a `set_triggers` holds `by_asset` and still lacks `account_triggers`, and it does
not take `by_asset` for a `set_triggers` while a clearing call holds `account_triggers` and
still lacks `by_asset`. -/
def SectionsApart (s : IndexSystem ι) (i : ι) : Prop :=
  ¬ (s.Enters i accountTriggers.write byAsset.write ∧
      ∃ j, s.Between j byAsset.write accountTriggers.write) ∧
    ¬ (s.Enters i byAsset.write accountTriggers.write ∧
      ∃ j, s.Between j accountTriggers.write byAsset.write)

lemma disciplined_start (calls : ι → List IndexCall) (ix : CandidateIndex) :
    (start calls ix).Disciplined (Nests True) :=
  fun i => obeys_threadProg (calls i) fun _ _ _ => trivial

lemma not_deadlock_start (calls : ι → List IndexCall) (ix : CandidateIndex) :
    ¬ (start calls ix).Deadlock :=
  LockSystem.not_deadlock_start _ ix

/-- Only the two sections of the triggers can block each other in a circle. -/
lemma deadlock_iff_crossed {s : IndexSystem ι} (hs : s.Disciplined (Nests True)) :
    s.Deadlock ↔ s.Crossed := by
  constructor
  · rintro ⟨S, ⟨i, hi⟩, hS⟩
    -- two steps along the wait-for graph, each at a thread between two locks
    obtain ⟨-, -, j, hj, h, r, -, hb⟩ := Deadlock.holder hS hi
    obtain ⟨lock, hreq, k, -, h', r', hlock, hb'⟩ := Deadlock.holder hS hj
    obtain rfl : lock = r := Option.some.inj (hreq.symm.trans hb.2)
    have hn := hs.allowed_of_between hb
    have hn' := hs.allowed_of_between hb'
    -- Of the pairs that are nested, only those of clearing and setting are reversed.
    cases hn with
    | classify => cases hn' <;> exact absurd hlock (by decide)
    | clear =>
        cases hn' with
        | classify => exact absurd hlock (by decide)
        | clear => exact absurd hlock (by decide)
        | set => exact ⟨j, k, hb, hb'⟩
    | set =>
        cases hn' with
        | classify => exact absurd hlock (by decide)
        | clear => exact ⟨k, j, hb', hb⟩
        | set => exact absurd hlock (by decide)
  · rintro ⟨i, j, hi, hj⟩
    exact deadlock_of_between hi hj (by decide) (by decide) (by decide)

variable [Fintype ι] [DecidableEq ι]

/-- A step leads two threads across each other exactly if it enters one of the nestings while
the other is occupied. -/
lemma crossed_step_iff {s : IndexSystem ι} (hs : s.Disciplined (Nests True))
    (hcross : ¬ s.Crossed) (i : ι) : Crossed (s.step i) ↔ ¬ s.SectionsApart i := by
  have hcases {j : ι} {h r : IndexLock × Mode} (hb : (s.step i).Between j h r) :
      s.Between j h r ∨ (j = i ∧ s.Enters i h r) := between_step_cases hs nests_pair hb
  unfold SectionsApart
  rw [not_and_or, not_not, not_not]
  -- A new crossing needs this thread between its locks; both being old would have crossed before.
  constructor
  · rintro ⟨a, b, ha, hb⟩
    rcases hcases ha with hold | ⟨rfl, henter⟩
    · rcases hcases hb with hold' | ⟨rfl, henter'⟩
      · exact absurd ⟨a, b, hold, hold'⟩ hcross
      · exact Or.inr ⟨henter', a, hold⟩
    · rcases hcases hb with hold' | ⟨rfl, henter'⟩
      · exact Or.inl ⟨henter, b, hold'⟩
      -- one acquisition cannot take both locks
      obtain ⟨-, effect, next, hprog, -⟩ := henter
      obtain ⟨-, effect', next', hprog', -⟩ := henter'
      rw [hprog] at hprog'
      injection hprog' with hlock
      exact absurd hlock (by decide)
  · have hother {j : ι} {h r : IndexLock × Mode} (he : s.Enters i r h) (hb : s.Between j h r)
        (hne : h ≠ r) : (s.step i).Between j h r := by
      refine (between_step_of_ne s ?_ h r).2 hb
      rintro rfl
      -- the entering thread would already hold the lock it goes on to ask for
      have hn := hs.allowed_of_between hb
      have hn' := (disciplined_step s j hs).allowed_of_between he.between
      have hself : (s.step j).Between j h h := by
        obtain ⟨hfree, effect, next, hprog, hreq⟩ := he
        refine ⟨?_, ?_⟩
        · simp only [step, hprog, if_pos hfree, Function.update_self]
          exact List.mem_cons_of_mem _ hb.1
        · simp only [step, hprog, if_pos hfree, Function.update_self]
          exact hreq
      have hirr := (disciplined_step s j hs).allowed_of_between hself
      exact nests_pair h r h hn hirr hn'
    rintro (⟨he, j, hb⟩ | ⟨he, j, hb⟩)
    · exact ⟨i, j, he.between, hother he hb (by decide)⟩
    · exact ⟨j, i, hother he hb (by decide), he.between⟩

/-- **When the index cannot deadlock.**  For any threads, calls and starting index: a run meets
no deadlock exactly if no call enters one of the two sections of the triggers while another
stands between the two locks of the other section. -/
theorem no_deadlock_iff_sectionsApart (calls : ι → List IndexCall) (ix : CandidateIndex)
    (schedule : List ι) :
    Runs.Always step (fun s => ¬ s.Deadlock) (start calls ix) schedule ↔
      Runs.Along step SectionsApart (start calls ix) schedule := by
  rw [Runs.always_iff_along, and_iff_right (not_deadlock_start calls ix)]
  refine Runs.along_congr
    (fun s : IndexSystem ι => s.Disciplined (Nests True) ∧ ¬ s.Crossed) ?_ ?_ schedule
    ⟨disciplined_start calls ix, fun h => not_deadlock_start calls ix
      ((deadlock_iff_crossed (disciplined_start calls ix)).2 h)⟩
  · rintro s i ⟨hs, hcross⟩
    rw [deadlock_iff_crossed (disciplined_step s i hs), crossed_step_iff hs hcross, not_not]
  · rintro s i ⟨hs, -⟩ hdead
    have hs' := disciplined_step s i hs
    exact ⟨hs', fun h => hdead ((deadlock_iff_crossed hs').2 h)⟩

/-- Two threads: the first registers triggers for one account and then replaces them, the
second registers triggers for another. -/
def replacingCalls : Fin 2 → List IndexCall
  | 0 => [.setTriggers (Pubkey.test 1 1) [], .setTriggers (Pubkey.test 1 1) []]
  | 1 => [.setTriggers (Pubkey.test 1 2) []]

/-- The replacing call takes `account_triggers` while the other call holds `by_asset`. -/
theorem replacing_triggers_deadlocks :
    Deadlock (Runs.exec step (start replacingCalls CandidateIndex.new)
      [0, 0, 0, 0, 0, 0, 1, 1, 1, 0]) := by
  refine deadlock_of_between (i := (0 : Fin 2)) (j := 1) (h := accountTriggers.write)
    (r := byAsset.write) ⟨?_, ?_⟩ ⟨?_, ?_⟩ (by decide) (by decide) (by decide)
  · decide
  · decide
  · decide
  · decide

/-- Where no thread calls `set_triggers` every nesting follows one order of the locks. -/
theorem not_deadlock_without_setTriggers (calls : ι → List IndexCall)
    (hcalls : ∀ i, ∀ c ∈ calls i, ¬ c.IsSet) (ix : CandidateIndex) (schedule : List ι) :
    ¬ (Runs.exec step (start calls ix) schedule).Deadlock := by
  have hs : (Runs.exec step (start calls ix) schedule).Disciplined (Nests False) :=
    Runs.exec_invariant (Disciplined (Nests False)) disciplined_step schedule
      fun i => obeys_threadProg (calls i) (hcalls i)
  refine not_deadlock_of_rank hs
    (fun | .byAccount => 0 | .byBand => 1 | .accountTriggers => 0 | .byAsset => 1) ?_
  intro h r hn
  cases hn with
  | classify => decide
  | clear => decide
  | set hfalse => exact hfalse.elim

/-- Two threads that remove a candidate and clear its triggers, in step. -/
theorem not_deadlock_removing :
    ¬ (Runs.exec step (start (fun _ : Fin 2 => [.removeCandidate (Pubkey.test 1 1),
      .clearTriggers (Pubkey.test 1 1)]) CandidateIndex.new) [0, 1, 0, 1, 0]).Deadlock :=
  not_deadlock_without_setTriggers _ (fun _ c hc => by
    rcases List.mem_pair.1 hc with rfl | rfl <;> exact id) _ _

end IndexSystem

end Grokbotliq
