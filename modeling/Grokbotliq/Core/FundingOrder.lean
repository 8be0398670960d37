import Grokbotliq.Core.Funding
import Grokbotliq.Framework.StableSort

/-!
# The order of the funding paths

What `pick_best` does with a list of any length: the candidates are the feasible paths in
order of score, ties as they came, and the best is the first accepted one or, where none is
accepted, the first.

Two general facts about a stable sort carry the statement: elements that tie are not put out of
their order, and the first element of the result that passes a test is the earliest of the highest
ones that do.  Both come from `Framework/StableSort.lean`.
-/

namespace Grokbotliq

namespace ProfitConfig

/-- The feasible paths with their scores, in the order of the input. -/
def scoredFeasible (config : ProfitConfig) (inputs : List FundingPathInput) :
    List ScoredFundingPath :=
  (inputs.filter FundingPathInput.feasible).map config.scored

/-- Of the paths that `eligible` admits `best` has the highest score, and is the first that
does. -/
def TopScored (eligible : ScoredFundingPath → Prop) (paths : List ScoredFundingPath)
    (best : ScoredFundingPath) : Prop :=
  eligible best ∧ ∃ before after, paths = before ++ best :: after ∧
    (∀ path ∈ before, eligible path → path.expectedValueScore < best.expectedValueScore) ∧
    ∀ path ∈ after, eligible path → path.expectedValueScore ≤ best.expectedValueScore

lemma filterMap_scoreOne (config : ProfitConfig) (inputs : List FundingPathInput) :
    inputs.filterMap config.scoreOne = config.scoredFeasible inputs := by
  induction inputs with
  | nil => rfl
  | cons i inputs ih =>
      by_cases hfeasible : i.feasible = true
      · rw [List.filterMap_cons_some (config.scoreOne_of_feasible hfeasible), ih, scoredFeasible,
          scoredFeasible, List.filter_cons_of_pos hfeasible, List.map_cons]
      · rw [List.filterMap_cons_none (config.scoreOne_of_not_feasible hfeasible), ih,
          scoredFeasible, scoredFeasible, List.filter_cons_of_neg hfeasible]

lemma candidates_eq (config : ProfitConfig) (inputs : List FundingPathInput) :
    (config.pickBest inputs).candidates =
      (config.scoredFeasible inputs).insertionSort scoredBefore := by
  rw [← filterMap_scoreOne]
  rfl

lemma topScored_of_find? {p : ScoredFundingPath → Bool} {paths : List ScoredFundingPath}
    {best : ScoredFundingPath} (h : (paths.insertionSort scoredBefore).find? p = some best) :
    TopScored (fun path => p path = true) paths best := by
  obtain ⟨before, after, hsplit, hbest, hbefore, hafter⟩ := earliest_of_find? scoredBefore h
  refine ⟨hbest, before, after, hsplit, fun path hpath hp => ?_, hafter⟩
  exact Int64.not_le.1 (hbefore path hpath hp)

lemma best_eq_none_iff {config : ProfitConfig} {inputs : List FundingPathInput} :
    (config.pickBest inputs).best = none ↔ ∀ i ∈ inputs, i.feasible = false := by
  have hbest : (config.pickBest inputs).best = none ↔
      (config.pickBest inputs).candidates.find? ScoredFundingPath.accepted = none ∧
        (config.pickBest inputs).candidates.head? = none := Option.or_eq_none_iff
  -- The fallback is the first candidate, so no best means no candidate at all.
  rw [hbest, List.head?_eq_none_iff]
  constructor
  · rintro ⟨-, hnone⟩ i hi
    by_contra hfeasible
    have hmem : config.scored i ∈ (config.pickBest inputs).candidates :=
      mem_candidates.2 ⟨i, hi, Bool.eq_true_of_not_eq_false hfeasible, rfl⟩
    rw [hnone] at hmem
    exact List.not_mem_nil hmem
  · intro hnone
    have hempty : (config.pickBest inputs).candidates = [] := by
      apply List.eq_nil_iff_forall_not_mem.2
      intro path hpath
      obtain ⟨i, hi, hfeasible, -⟩ := mem_candidates.1 hpath
      exact Bool.false_ne_true ((hnone i hi).symm.trans hfeasible)
    exact ⟨by rw [hempty]; rfl, hempty⟩

/-- **What `pick_best` picks.**  For every list of paths: the candidates are the scored feasible
paths in order of score, ties in the order of the input; the best is accepted exactly when some
feasible path is, and then has the highest score among the accepted ones, the first on ties; a
best that is not accepted has the highest score of all; and there is no best exactly when no path
is feasible. -/
theorem pickBest_spec (config : ProfitConfig) (inputs : List FundingPathInput) :
    let plan := config.pickBest inputs
    let scored := config.scoredFeasible inputs
    (plan.candidates.Perm scored ∧
      plan.candidates.Pairwise (fun a b => b.expectedValueScore ≤ a.expectedValueScore) ∧
      ∀ score, plan.candidates.filter (fun path => path.expectedValueScore = score) =
        scored.filter fun path => path.expectedValueScore = score) ∧
    ((∃ best, plan.best = some best ∧ best.accepted = true) ↔
      ∃ i ∈ inputs, i.feasible = true ∧ (config.evaluate i.profitInput).isAccept = true) ∧
    (∀ best, plan.best = some best → best.accepted = true →
      TopScored (fun path => path.accepted = true) scored best) ∧
    (∀ best, plan.best = some best → best.accepted = false →
      TopScored (fun _ => True) scored best) ∧
    (plan.best = none ↔ ∀ i ∈ inputs, i.feasible = false) := by
  intro plan scored
  have hcandidates : plan.candidates = scored.insertionSort scoredBefore :=
    config.candidates_eq inputs
  refine ⟨⟨?_, ?_, fun score => ?_⟩, exists_best_accepted_iff, fun best hbest hacc => ?_,
    fun best hbest hrej => ?_, best_eq_none_iff⟩
  · rw [hcandidates]
    exact List.perm_insertionSort scoredBefore scored
  · rw [hcandidates]
    exact List.pairwise_insertionSort scoredBefore scored
  · rw [hcandidates]
    -- Two paths of one score are not put out of their order by a stable sort.
    apply filter_insertionSort_of_tie
    intro a b ha hb
    have htie : b.expectedValueScore = a.expectedValueScore :=
      (of_decide_eq_true hb).trans (of_decide_eq_true ha).symm
    exact Int64.le_of_eq htie
  · have hfind := find_eq_of_best hbest hacc
    rw [candidates_eq] at hfind
    exact topScored_of_find? hfind
  · -- the best is rejected, so it is the first candidate
    have hhead : plan.candidates.head? = some best := by
      rcases Option.or_eq_some_iff.1 hbest with hfind | ⟨-, hhead⟩
      · rw [List.find?_some hfind] at hrej
        exact absurd hrej (by simp)
      · exact hhead
    have hfind : plan.candidates.find? (fun _ => true) = some best := by
      rw [← List.head?_filter, List.filter_true]
      exact hhead
    rw [hcandidates] at hfind
    obtain ⟨-, before, after, hsplit, hbefore, hafter⟩ := topScored_of_find? hfind
    exact ⟨trivial, before, after, hsplit, fun path hpath _ => hbefore path hpath rfl,
      fun path hpath _ => hafter path hpath rfl⟩

end ProfitConfig

end Grokbotliq
