import Grokbotliq.Framework.Runs

/-!
# Threads that take locks

Each thread runs a `Prog`: a sequence of acquisitions and releases of shared/exclusive locks,
with the reads and writes of the guarded data made at an acquisition.  What a program does next
may depend on the data it saw.  `LockSystem.step` schedules one thread; a thread whose lock is
not free stays where it is.

`Obeys allowed held` is a program's lock discipline: `allowed h r` is the order in which two
locks may be nested, and after a release nothing more is asked for until everything is given
back.  Steps keep it (`disciplined_step`), and it is what a deadlock is analysed with:
`Deadlock.holder` follows one edge of the wait-for graph, `not_deadlock_of_rank` is the
classical lock-order theorem, and `between_step_cases` says how a thread comes to stand between
two locks.

A discipline is checked on the program text, without scheduling anything: `obeys_outer`,
`obeys_inner` and `obeys_release_last` go through a program of nested sections one acquisition at
a time.  Programs may branch on the data they read, and then every branch has to obey.
-/

namespace Grokbotliq.Locks

/-- How a lock is held. -/
inductive Mode
  | shared
  | exclusive
  deriving DecidableEq, Repr

/-- Two holders exclude each other unless both are shared. -/
def Mode.Conflicts (m m' : Mode) : Prop := ¬ (m = .shared ∧ m' = .shared)

instance (m m' : Mode) : Decidable (m.Conflicts m') := inferInstanceAs (Decidable (¬ _))

variable {ι L D : Type}

/-- A program over locks `L` and data `D`. -/
inductive Prog (L D : Type)
  | done
  /-- Take a lock; with it held, update the data and go on as the data says. -/
  | acquire (lock : L × Mode) (effect : D → D) (next : D → Prog L D)
  | release (lock : L) (next : Prog L D)

namespace Prog

/-- The lock the program is about to ask for. -/
def request : Prog L D → Option (L × Mode)
  | acquire lock _ _ => some lock
  | _ => none

/-- What the program makes of the data when nobody interferes. -/
def eval : Prog L D → D → D
  | done, d => d
  | acquire _ effect next, d => (next d).eval (effect d)
  | release _ next, d => next.eval d

/-- What is still held after a release. -/
def giveBack [DecidableEq L] (held : List (L × Mode)) (lock : L) : List (L × Mode) :=
  held.filter fun h => h.1 ≠ lock

/-- The lock discipline of a program, from the locks held when it starts. -/
def Obeys [DecidableEq L] (allowed : L × Mode → L × Mode → Prop) :
    List (L × Mode) → Prog L D → Prop
  | _, done => True
  | held, acquire lock _ next =>
      (∀ h ∈ held, allowed h lock) ∧ ∀ d, (next d).Obeys allowed (lock :: held)
  | held, release lock next =>
      (next.request ≠ none → giveBack held lock = []) ∧ next.Obeys allowed (giveBack held lock)

section

variable [DecidableEq L] {allowed : L × Mode → L × Mode → Prop}

/-- Giving back the only lock held. -/
lemma obeys_release_last (lock : L × Mode) {k : Prog L D} (hk : k.Obeys allowed []) :
    (release lock.1 k).Obeys allowed [lock] := by
  have hback : giveBack [lock] lock.1 = [] := by simp [giveBack]
  refine ⟨fun _ => hback, ?_⟩
  rw [hback]
  exact hk

/-- The inner section of two nested ones, released in reverse order. -/
lemma obeys_inner {outer inner : L × Mode} (h : allowed outer inner) (hne : inner.1 ≠ outer.1)
    (effect : D → D) {k : Prog L D} (hk : k.Obeys allowed []) :
    (acquire inner effect fun _ => release inner.1 (release outer.1 k)).Obeys allowed [outer] := by
  have hback : giveBack [inner, outer] inner.1 = [outer] := by
    simp [giveBack, hne.symm]
  refine ⟨by simpa using h, fun _ => ⟨fun hreq => absurd rfl hreq, ?_⟩⟩
  rw [hback]
  exact obeys_release_last outer hk

/-- A section entered with nothing held. -/
lemma obeys_outer {lock : L × Mode} {effect : D → D} {next : D → Prog L D}
    (h : ∀ d, (next d).Obeys allowed [lock]) : (acquire lock effect next).Obeys allowed [] :=
  ⟨fun _ hmem => absurd hmem List.not_mem_nil, h⟩

end

end Prog

/-- The threads, the locks each of them holds, and the shared data. -/
structure LockSystem (ι L D : Type) where
  prog : ι → Prog L D
  held : ι → List (L × Mode)
  data : D

namespace LockSystem

/-- No lock taken yet. -/
def start (prog : ι → Prog L D) (data : D) : LockSystem ι L D := ⟨prog, fun _ => [], data⟩

/-- Nobody holds the lock in a conflicting mode. -/
def Free (s : LockSystem ι L D) (lock : L × Mode) : Prop :=
  ∀ j, ∀ h ∈ s.held j, h.1 = lock.1 → ¬ lock.2.Conflicts h.2

instance [Fintype ι] [DecidableEq L] (s : LockSystem ι L D) (lock : L × Mode) :
    Decidable (s.Free lock) :=
  inferInstanceAs (Decidable (∀ j, ∀ h ∈ s.held j, h.1 = lock.1 → ¬ lock.2.Conflicts h.2))

/-- The thread takes its next action, if its lock is free. -/
def step [Fintype ι] [DecidableEq ι] [DecidableEq L] (s : LockSystem ι L D) (i : ι) :
    LockSystem ι L D :=
  match s.prog i with
  | .done => s
  | .acquire lock effect next =>
    if s.Free lock then
      ⟨Function.update s.prog i (next s.data), Function.update s.held i (lock :: s.held i),
        effect s.data⟩
    else s
  | .release lock next =>
    ⟨Function.update s.prog i next, Function.update s.held i (Prog.giveBack (s.held i) lock),
      s.data⟩

/-! ## Deadlock

A deadlock is a set of threads, not a circle, so that it can be stated without ordering them. -/

/-- Thread `i` asks for a lock that another thread `j` holds. -/
def WaitsFor (s : LockSystem ι L D) (i j : ι) : Prop :=
  i ≠ j ∧ ∃ lock, (s.prog i).request = some lock ∧
    ∃ h ∈ s.held j, h.1 = lock.1 ∧ lock.2.Conflicts h.2

/-- A non-empty set of threads each waiting for a lock held by another of the set. -/
def Deadlock (s : LockSystem ι L D) : Prop :=
  ∃ S : Set ι, S.Nonempty ∧ ∀ i ∈ S, ∃ j ∈ S, s.WaitsFor i j

/-- Thread `i` holds `h` and asks for `r`. -/
def Between (s : LockSystem ι L D) (i : ι) (h r : L × Mode) : Prop :=
  h ∈ s.held i ∧ (s.prog i).request = some r

/-- Thread `i` is about to take `h`, which is free, and will ask for `r` next. -/
def Enters (s : LockSystem ι L D) (i : ι) (h r : L × Mode) : Prop :=
  s.Free h ∧ ∃ effect next, s.prog i = .acquire h effect next ∧ (next s.data).request = some r

lemma not_deadlock_start (prog : ι → Prog L D) (data : D) : ¬ (start prog data).Deadlock := by
  rintro ⟨S, ⟨i, hi⟩, hwait⟩
  obtain ⟨j, -, -, lock, -, h, hheld, -⟩ := hwait i hi
  exact absurd hheld List.not_mem_nil

/-- Two threads each holding what the other asks for. -/
lemma deadlock_of_between {s : LockSystem ι L D} {i j : ι} {h r : L × Mode}
    (hi : s.Between i h r) (hj : s.Between j r h) (hne : h ≠ r)
    (hconf : h.2.Conflicts h.2) (hconf' : r.2.Conflicts r.2) : s.Deadlock := by
  have hij : i ≠ j := by
    rintro rfl
    exact hne (Option.some.inj (hj.2.symm.trans hi.2))
  refine ⟨{i, j}, ⟨i, Or.inl rfl⟩, ?_⟩
  rintro k (rfl | rfl)
  · exact ⟨j, Or.inr rfl, hij, r, hi.2, r, hj.1, rfl, hconf'⟩
  · exact ⟨i, Or.inl rfl, hij.symm, h, hj.2, h, hi.1, rfl, hconf⟩

/-- One edge of the wait-for graph: the thread waited for is itself between two locks. -/
lemma Deadlock.holder {s : LockSystem ι L D} {S : Set ι}
    (hS : ∀ i ∈ S, ∃ j ∈ S, s.WaitsFor i j) {i : ι} (hi : i ∈ S) :
    ∃ lock, (s.prog i).request = some lock ∧ ∃ j ∈ S, ∃ h r, h.1 = lock.1 ∧ s.Between j h r := by
  obtain ⟨j, hj, -, lock, hreq, h, hheld, hlock, -⟩ := hS i hi
  obtain ⟨-, -, -, r, hreq', -⟩ := hS j hj
  exact ⟨lock, hreq, j, hj, h, r, hlock, hheld, hreq'⟩

section Discipline

variable [DecidableEq L] {allowed : L × Mode → L × Mode → Prop}

/-- Every thread's remaining program obeys the discipline. -/
def Disciplined (allowed : L × Mode → L × Mode → Prop) (s : LockSystem ι L D) : Prop :=
  ∀ i, (s.prog i).Obeys allowed (s.held i)

/-- A thread between two locks respects the order. -/
lemma Disciplined.allowed_of_between {s : LockSystem ι L D} (hs : s.Disciplined allowed) {i : ι}
    {h r : L × Mode} (hb : s.Between i h r) : allowed h r := by
  obtain ⟨hheld, hreq⟩ := hb
  have hobeys : (s.prog i).Obeys allowed (s.held i) := hs i
  cases hprog : s.prog i with
  | done => rw [hprog] at hreq; exact absurd hreq (by simp [Prog.request])
  | acquire lock effect next =>
      rw [hprog] at hreq hobeys
      obtain rfl : lock = r := Option.some.inj hreq
      exact hobeys.1 h hheld
  | release lock next => rw [hprog] at hreq; exact absurd hreq (by simp [Prog.request])

/-- **The lock-order theorem**: if locks are nested in the order of a rank only, there is no
deadlock. -/
theorem not_deadlock_of_rank [Finite ι] {s : LockSystem ι L D} (hs : s.Disciplined allowed)
    (rank : L → ℕ) (hrank : ∀ h r, allowed h r → rank h.1 < rank r.1) : ¬ s.Deadlock := by
  rintro ⟨S, hne, hS⟩
  -- the thread of the set that asks for the lock of highest rank
  obtain ⟨i, hi, hmax⟩ := Set.exists_max_image S
    (fun i => ((s.prog i).request.map fun lock => rank lock.1).getD 0) S.toFinite hne
  obtain ⟨lock, hreq, j, hj, h, r, hlock, hb⟩ := Deadlock.holder hS hi
  have hlt : rank h.1 < rank r.1 := hrank h r (hs.allowed_of_between hb)
  have hle := hmax j hj
  simp only [hreq, hb.2, Option.map_some, Option.getD_some] at hle
  rw [hlock] at hlt
  omega

variable [Fintype ι] [DecidableEq ι]

/-- All that a scheduled thread can do. -/
lemma step_cases (s : LockSystem ι L D) (i : ι) :
    s.step i = s ∨
    (∃ lock effect next, s.prog i = .acquire lock effect next ∧ s.Free lock ∧
      s.step i = ⟨Function.update s.prog i (next s.data),
        Function.update s.held i (lock :: s.held i), effect s.data⟩) ∨
    (∃ lock next, s.prog i = .release lock next ∧
      s.step i = ⟨Function.update s.prog i next,
        Function.update s.held i (Prog.giveBack (s.held i) lock), s.data⟩) := by
  cases hprog : s.prog i with
  | done => exact Or.inl (by simp only [step, hprog])
  | acquire lock effect next =>
      by_cases hfree : s.Free lock
      · exact Or.inr (Or.inl ⟨lock, effect, next, rfl, hfree, by
          simp only [step, hprog, if_pos hfree]⟩)
      · exact Or.inl (by simp only [step, hprog, if_neg hfree])
  | release lock next => exact Or.inr (Or.inr ⟨lock, next, rfl, by simp only [step, hprog]⟩)

theorem disciplined_step (s : LockSystem ι L D) (i : ι) (hs : s.Disciplined allowed) :
    (s.step i).Disciplined allowed := by
  have hi : (s.prog i).Obeys allowed (s.held i) := hs i
  rcases s.step_cases i with h | ⟨lock, effect, next, hprog, -, h⟩ | ⟨lock, next, hprog, h⟩
  · rw [h]
    exact hs
  · rw [hprog] at hi
    rw [h]
    intro j
    by_cases hj : j = i
    · subst hj
      simpa using hi.2 s.data
    · simpa [hj] using hs j
  · rw [hprog] at hi
    rw [h]
    intro j
    by_cases hj : j = i
    · subst hj
      simpa using hi.2
    · simpa [hj] using hs j

lemma between_step_of_ne (s : LockSystem ι L D) {i j : ι} (hj : j ≠ i) (h r : L × Mode) :
    (s.step i).Between j h r ↔ s.Between j h r := by
  unfold Between
  rcases s.step_cases i with heq | ⟨_, _, _, -, -, heq⟩ | ⟨_, _, -, heq⟩
  · rw [heq]
  · simp [heq, hj]
  · simp [heq, hj]

lemma Enters.between {s : LockSystem ι L D} {i : ι} {h r : L × Mode} (he : s.Enters i h r) :
    (s.step i).Between i h r := by
  obtain ⟨hfree, effect, next, hprog, hreq⟩ := he
  have hstep : s.step i = ⟨Function.update s.prog i (next s.data),
      Function.update s.held i (h :: s.held i), effect s.data⟩ := by
    simp only [step, hprog, if_pos hfree]
  simp [Between, hstep, hreq]

/-- Where no thread ever nests three locks, a thread stands between two locks after a step
only if it did before or if the step took the first of them. -/
lemma between_step_cases {s : LockSystem ι L D} (hs : s.Disciplined allowed)
    (hpair : ∀ h h' r, allowed h h' → allowed h r → ¬ allowed h' r) {i j : ι} {h r : L × Mode}
    (hb : (s.step i).Between j h r) : s.Between j h r ∨ (j = i ∧ s.Enters i h r) := by
  by_cases hj : j = i
  · subst hj
    have hobeys' : allowed h r := (disciplined_step s j hs).allowed_of_between hb
    have hobeys : (s.prog j).Obeys allowed (s.held j) := hs j
    rcases s.step_cases j with heq | ⟨lock, effect, next, hprog, hfree, heq⟩ |
      ⟨lock, next, hprog, heq⟩
    · rw [heq] at hb
      exact Or.inl hb
    · have hreq : (next s.data).request = some r := by simpa [heq] using hb.2
      -- The held lock is the one just taken, or one held before, which the order excludes.
      have hmem : h = lock ∨ h ∈ s.held j := by simpa [heq] using hb.1
      rw [hprog] at hobeys
      have hlock : allowed lock r := by
        refine (disciplined_step s j hs).allowed_of_between (i := j) ⟨?_, hb.2⟩
        simp [heq]
      rcases hmem with rfl | hmem
      · exact Or.inr ⟨rfl, hfree, effect, next, hprog, hreq⟩
      · exact absurd hlock (hpair h lock r (hobeys.1 h hmem) hobeys')
    · have hreq : next.request = some r := by simpa [heq] using hb.2
      -- A thread that asks again right after giving a lock back holds nothing.
      have hmem : h ∈ Prog.giveBack (s.held j) lock := by simpa [heq] using hb.1
      rw [hprog] at hobeys
      rw [hobeys.1 (by simp [hreq])] at hmem
      exact absurd hmem List.not_mem_nil
  · exact Or.inl ((between_step_of_ne s hj h r).1 hb)

end Discipline

end LockSystem

end Grokbotliq.Locks
