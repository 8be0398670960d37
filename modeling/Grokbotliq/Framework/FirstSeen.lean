import Mathlib

/-!
# Listing each element once

`FirstSeen xs ys` says that `ys` has the elements of `xs`, each once and in the order in which they
first occur there.  There is one such list (`FirstSeen.unique`), so loops that build one are the
same function, however they keep track of what they have seen.

A loop goes over `xs` an element at a time, and either has seen the element (`FirstSeen.skip`) or
pushes it (`FirstSeen.push`).

The list is determined by two properties, its elements and their order, and neither speaks of the
loop.  Uniqueness is proved from these two; a loop is then dealt with by an induction whose
invariant is that what it has pushed is the list for what it has been through.
-/

namespace Grokbotliq

variable {α : Type*} [DecidableEq α]

/-- `ys` lists the elements of `xs` once each, in order of first occurrence. -/
structure FirstSeen (xs ys : List α) : Prop where
  nodup : ys.Nodup
  mem_iff : ∀ x, x ∈ ys ↔ x ∈ xs
  ordered : ys.Pairwise fun a b => xs.idxOf a < xs.idxOf b

namespace FirstSeen

lemma nil : FirstSeen ([] : List α) [] := ⟨List.nodup_nil, fun _ => Iff.rfl, List.Pairwise.nil⟩

/-- First occurrences stay where they are when the list grows. -/
lemma ordered_append {xs ys : List α} (h : FirstSeen xs ys) (x : α) :
    ys.Pairwise fun a b => (xs ++ [x]).idxOf a < (xs ++ [x]).idxOf b := by
  refine h.ordered.imp_of_mem fun {a b} ha hb hlt => ?_
  rw [List.idxOf_append_of_mem ((h.mem_iff a).1 ha), List.idxOf_append_of_mem ((h.mem_iff b).1 hb)]
  exact hlt

lemma skip {xs ys : List α} (h : FirstSeen xs ys) {x : α} (hx : x ∈ ys) :
    FirstSeen (xs ++ [x]) ys := by
  refine ⟨h.nodup, fun a => ?_, h.ordered_append x⟩
  rw [List.mem_append, List.mem_singleton, ← h.mem_iff, iff_self_or]
  rintro rfl
  exact hx

lemma push {xs ys : List α} (h : FirstSeen xs ys) {x : α} (hx : x ∉ ys) :
    FirstSeen (xs ++ [x]) (ys ++ [x]) := by
  have hnew : x ∉ xs := fun hmem => hx ((h.mem_iff x).2 hmem)
  refine ⟨h.nodup.append (List.nodup_singleton x) (by simpa using hx), fun a => ?_, ?_⟩
  · rw [List.mem_append, List.mem_append, h.mem_iff]
  · rw [List.pairwise_append]
    refine ⟨h.ordered_append x, List.pairwise_singleton _ x, fun a ha b hb => ?_⟩
    obtain rfl := List.mem_singleton.1 hb
    have hold : a ∈ xs := (h.mem_iff a).1 ha
    rw [List.idxOf_append_of_mem hold, List.idxOf_append_of_notMem hnew]
    exact (List.idxOf_lt_length_of_mem hold).trans_le (Nat.le_add_right _ _)

/-- There is only one such list. -/
theorem unique {xs ys zs : List α} (hy : FirstSeen xs ys) (hz : FirstSeen xs zs) : ys = zs := by
  have hperm : ys.Perm zs := by
    rw [List.perm_ext_iff_of_nodup hy.nodup hz.nodup]
    intro x
    rw [hy.mem_iff, hz.mem_iff]
  refine hperm.eq_of_pairwise (fun a b _ _ hab hba => ?_) hy.ordered hz.ordered
  exact absurd (hab.trans hba) (lt_irrefl _)

end FirstSeen

/-! ## A loop with two lists -/

/-- The loop that pushes what it has not seen on a list of its own and on its output. -/
def pushUnseen (state : List α × List α) (x : α) : List α × List α :=
  if x ∈ state.1 then state else (state.1 ++ [x], state.2 ++ [x])

/-- Both lists are what was seen. -/
lemma firstSeen_foldl_pushUnseen {done : List α} {state : List α × List α}
    (h : FirstSeen done state.1 ∧ state.2 = state.1) (xs : List α) :
    FirstSeen (done ++ xs) (xs.foldl pushUnseen state).2 := by
  induction xs generalizing done state with
  | nil =>
      rw [List.append_nil, List.foldl_nil, h.2]
      exact h.1
  | cons x xs ih =>
      rw [List.append_cons, List.foldl_cons]
      apply ih
      rw [pushUnseen]
      split_ifs with hx
      · exact ⟨h.1.skip hx, h.2⟩
      · exact ⟨h.1.push hx, by rw [h.2]⟩

/-- From empty lists the loop collects everything. -/
lemma firstSeen_pushUnseen (xs : List α) : FirstSeen xs (xs.foldl pushUnseen ([], [])).2 := by
  have hloop := @firstSeen_foldl_pushUnseen α _ [] ([], []) ⟨FirstSeen.nil, rfl⟩ xs
  rwa [List.nil_append] at hloop

end Grokbotliq
