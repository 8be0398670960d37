import Mathlib

/-!
# Runs of a deterministic machine

A machine is a step function `step : σ → α → σ`; the letters of `α` carry everything a step
is free in (the call made, its arguments, the clock it reads, the thread scheduled).  A run is
a list of letters and `exec` is the state it ends in, so an interleaving of several parties is
a run like any other.

Four forms of statement about runs are used throughout.  `exec_invariant` is the plain
induction.  `Along C` says that every step of a run satisfies `C` in the state it is taken
from; it is how a run is restricted by what its steps see.  `Always P` and `Sometime P` say
that every, or some, state the run passes through satisfies `P`.  `always_of_along` and
`along_congr` are the two rules that go from step conditions to states.

`Along` is the natural form of a condition that a scheduler or an environment has to meet, since
it is judged in the state before the step and says nothing about what comes of it.  Where such a
condition fails there is a first step at which it does (`exists_first_of_not_along`), which is how
exactness is shown: up to that step the invariant holds.  `tally` counts the parties of a system
that are in a phase, and a step of one party changes it by `tally_update`.
-/

namespace Grokbotliq.Runs

variable {σ α : Type*} {step : σ → α → σ}

/-- The state a run ends in. -/
def exec (step : σ → α → σ) (s : σ) (as : List α) : σ := as.foldl step s

@[simp] lemma exec_nil (s : σ) : exec step s [] = s := rfl

@[simp] lemma exec_cons (s : σ) (a : α) (as : List α) :
    exec step s (a :: as) = exec step (step s a) as := rfl

@[simp] lemma exec_append (s : σ) (as bs : List α) :
    exec step s (as ++ bs) = exec step (exec step s as) bs := List.foldl_append

/-- **The induction over runs.** -/
theorem exec_invariant (Inv : σ → Prop) (hstep : ∀ s a, Inv s → Inv (step s a)) :
    ∀ (as : List α) {s : σ}, Inv s → Inv (exec step s as)
  | [], _, hs => hs
  | a :: as, _, hs => exec_invariant Inv hstep as (hstep _ a hs)

/-! ## Conditions on the steps of a run -/

/-- Every step of the run satisfies `C` in the state it is taken from. -/
def Along (step : σ → α → σ) (C : σ → α → Prop) : σ → List α → Prop
  | _, [] => True
  | s, a :: as => C s a ∧ Along step C (step s a) as

@[simp] lemma along_nil {C : σ → α → Prop} (s : σ) : Along step C s [] := trivial

@[simp] lemma along_cons {C : σ → α → Prop} (s : σ) (a : α) (as : List α) :
    Along step C s (a :: as) ↔ C s a ∧ Along step C (step s a) as := Iff.rfl

instance Along.decidable {C : σ → α → Prop} [∀ s a, Decidable (C s a)] :
    ∀ (s : σ) (as : List α), Decidable (Along step C s as)
  | _, [] => isTrue trivial
  | s, a :: as => @instDecidableAnd _ _ _ (Along.decidable (step s a) as)

/-- Two step conditions that agree wherever an invariant holds, and keep that invariant,
hold along the same runs. -/
theorem along_congr (Inv : σ → Prop) {C D : σ → α → Prop}
    (hCD : ∀ s a, Inv s → (C s a ↔ D s a))
    (hkeep : ∀ s a, Inv s → C s a → Inv (step s a)) :
    ∀ (as : List α) {s : σ}, Inv s → (Along step C s as ↔ Along step D s as)
  | [], _, _ => Iff.rfl
  | a :: as, s, hs => by
      rw [along_cons, along_cons]
      constructor
      · rintro ⟨hC, has⟩
        exact ⟨(hCD s a hs).1 hC, (along_congr Inv hCD hkeep as (hkeep s a hs hC)).1 has⟩
      · rintro ⟨hD, has⟩
        have hC : C s a := (hCD s a hs).2 hD
        exact ⟨hC, (along_congr Inv hCD hkeep as (hkeep s a hs hC)).2 has⟩

/-- A property of states that a step keeps exactly when it meets a condition holds at the end
of a run exactly when it held at the start and every step met the condition. -/
theorem exec_iff_along {P : σ → Prop} {C : σ → α → Prop}
    (hstep : ∀ s a, P (step s a) ↔ P s ∧ C s a) :
    ∀ (as : List α) (s : σ), P (exec step s as) ↔ P s ∧ Along step C s as
  | [], s => by rw [exec_nil, and_iff_left (along_nil s)]
  | a :: as, s => by
      rw [exec_cons, exec_iff_along hstep as, hstep, along_cons, and_assoc]

/-- Where a condition does not hold along a run there is a first step that violates it. -/
lemma exists_first_of_not_along {C : σ → α → Prop} (s : σ) (as : List α)
    (h : ¬ Along step C s as) :
    ∃ pre a post, as = pre ++ a :: post ∧ Along step C s pre ∧ ¬ C (exec step s pre) a := by
  induction as generalizing s with
  | nil => exact absurd trivial h
  | cons a as ih =>
      by_cases hC : C s a
      · obtain ⟨pre, b, post, rfl, hpre, hb⟩ := ih (step s a) fun has => h ⟨hC, has⟩
        exact ⟨a :: pre, b, post, rfl, ⟨hC, hpre⟩, hb⟩
      · exact ⟨[], a, as, rfl, trivial, hC⟩

/-! ## The states a run passes through -/

/-- Every state of the run, the first and the last included, satisfies `P`. -/
def Always (step : σ → α → σ) (P : σ → Prop) : σ → List α → Prop
  | s, [] => P s
  | s, a :: as => P s ∧ Always step P (step s a) as

lemma Always.last {P : σ → Prop} :
    ∀ (as : List α) {s : σ}, Always step P s as → P (exec step s as)
  | [], _, h => h
  | _ :: as, _, h => Always.last as h.2

/-- A condition on the steps that keeps an invariant keeps it in every state of the run. -/
theorem always_of_along {Inv : σ → Prop} {C : σ → α → Prop}
    (hstep : ∀ s a, Inv s → C s a → Inv (step s a)) :
    ∀ (as : List α) {s : σ}, Inv s → Along step C s as → Always step Inv s as
  | [], _, hs, _ => hs
  | a :: as, _, hs, h => ⟨hs, always_of_along hstep as (hstep _ a hs h.1) h.2⟩

/-- Checking every state is checking the first and then the state after each step. -/
lemma always_iff_along {P : σ → Prop} (s : σ) (as : List α) :
    Always step P s as ↔ P s ∧ Along step (fun s a => P (step s a)) s as := by
  induction as generalizing s with
  | nil => simp [Always]
  | cons a as ih => rw [Always, ih, along_cons]

lemma Always.mono {P Q : σ → Prop} (hPQ : ∀ s, P s → Q s) :
    ∀ (as : List α) {s : σ}, Always step P s as → Always step Q s as
  | [], _, h => hPQ _ h
  | _ :: as, _, h => ⟨hPQ _ h.1, Always.mono hPQ as h.2⟩

/-- Some state of the run, the first and the last included, satisfies `P`. -/
def Sometime (step : σ → α → σ) (P : σ → Prop) : σ → List α → Prop
  | s, [] => P s
  | s, a :: as => P s ∨ Sometime step P (step s a) as

lemma Sometime.of_first {P : σ → Prop} {s : σ} (h : P s) :
    ∀ as : List α, Sometime step P s as
  | [] => h
  | _ :: _ => Or.inl h

/-! ## Runs in rounds -/

/-- **The induction over rounds.**  Where a round either reaches `Done`, which later rounds
keep, or makes a measure smaller, as many rounds as the measure counts reach it. -/
theorem exec_rounds (Inv : σ → Prop) {Done : σ → Prop} (Round : List α → Prop) (μ : σ → ℕ)
    (hinv : ∀ s as, Inv s → Round as → Inv (exec step s as))
    (hkeep : ∀ s as, Inv s → Round as → Done s → Done (exec step s as))
    (hless : ∀ s as, Inv s → Round as →
      Done (exec step s as) ∨ μ (exec step s as) < μ s) :
    ∀ (rounds : List (List α)) {s : σ}, Inv s → (∀ as ∈ rounds, Round as) →
      (Done s ∨ μ s < rounds.length) → Done (exec step s rounds.flatten)
  | [], _, _, _, h => h.resolve_right (Nat.not_lt_zero _)
  | as :: rounds, s, hs, hrounds, h => by
      have has : Round as := hrounds as List.mem_cons_self
      rw [List.flatten_cons, exec_append]
      refine exec_rounds Inv Round μ hinv hkeep hless rounds (hinv s as hs has)
        (fun bs hbs => hrounds bs (List.mem_cons_of_mem _ hbs)) ?_
      rcases h with hdone | hμ
      · exact Or.inl (hkeep s as hs has hdone)
      · refine (hless s as hs has).imp_right fun hlt => ?_
        rw [List.length_cons] at hμ
        omega

/-! ## Counting parties by phase -/

section Tally

variable {ι κ : Type*} [Fintype ι] [DecidableEq κ]

/-- How many parties are in phase `k`. -/
def tally (f : ι → κ) (k : κ) : ℕ := (Finset.univ.filter fun i => f i = k).card

/-- One party moving from its phase to `k`. -/
lemma tally_update [DecidableEq ι] (f : ι → κ) (i : ι) (k k' : κ) :
    tally (Function.update f i k) k' + (if f i = k' then 1 else 0) =
      tally f k' + (if k = k' then 1 else 0) := by
  have hrest : ∑ j ∈ Finset.univ.erase i, (if Function.update f i k j = k' then 1 else 0) =
      ∑ j ∈ Finset.univ.erase i, (if f j = k' then 1 else 0) := by
    refine Finset.sum_congr rfl fun j hj => ?_
    rw [Function.update_of_ne (Finset.ne_of_mem_erase hj)]
  simp only [tally, Finset.card_filter]
  rw [← Finset.add_sum_erase Finset.univ _ (Finset.mem_univ i), hrest,
    ← Finset.add_sum_erase Finset.univ (fun j => if f j = k' then 1 else 0) (Finset.mem_univ i)]
  simp only [Function.update_self]
  omega

/-- What the parties come to together, after one of them has changed. -/
lemma sum_update {ι κ : Type*} [Fintype ι] [DecidableEq ι] (g : κ → ℕ) (f : ι → κ) (i : ι)
    (k : κ) : ∑ j, g (Function.update f i k j) + g (f i) = ∑ j, g (f j) + g k := by
  have hrest : ∑ j ∈ Finset.univ.erase i, g (Function.update f i k j) =
      ∑ j ∈ Finset.univ.erase i, g (f j) := by
    refine Finset.sum_congr rfl fun j hj => ?_
    rw [Function.update_of_ne (Finset.ne_of_mem_erase hj)]
  rw [← Finset.add_sum_erase Finset.univ _ (Finset.mem_univ i), hrest,
    ← Finset.add_sum_erase Finset.univ (fun j => g (f j)) (Finset.mem_univ i),
    Function.update_self]
  omega

lemma tally_pos {f : ι → κ} {i : ι} {k : κ} (h : f i = k) : 0 < tally f k :=
  Finset.card_pos.2 ⟨i, by simp [h]⟩

end Tally

end Grokbotliq.Runs
