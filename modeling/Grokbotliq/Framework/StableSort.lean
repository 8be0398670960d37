import Mathlib

/-!
# Stable sorting

Insertion sort puts an element before those it ties with, so it keeps the order of the input
among elements that tie.  It therefore commutes with every filter (`filter_insertionSort`), and
the first of the sorted elements that passes a test is the earliest of those that are to precede
all others that pass (`earliest_of_find?`).

Sorting is by a relation that is total and transitive, and two elements tie where it holds both
ways.
-/

namespace Grokbotliq

variable {α : Type*} (r : α → α → Prop) [DecidableRel r]

/-- `x` is to precede whatever follows it in the list, and nothing before it ties with it or is
to precede it. -/
def IsEarliest (xs : List α) (x : α) : Prop :=
  ∃ before after, xs = before ++ x :: after ∧ (∀ y ∈ before, ¬ r y x) ∧ ∀ y ∈ after, r x y

lemma filter_orderedInsert_of_neg {p : α → Bool} {x : α} (hx : ¬ p x = true) (xs : List α) :
    (xs.orderedInsert r x).filter p = xs.filter p := by
  induction xs with
  | nil => rw [List.orderedInsert_nil, List.filter_cons_of_neg hx]
  | cons y ys ih =>
      by_cases hxy : r x y
      · rw [List.orderedInsert_cons_of_le r _ hxy, List.filter_cons_of_neg hx]
      · rw [List.orderedInsert_of_not_le r _ hxy, List.filter_cons, List.filter_cons, ih]

section Sorted

variable [IsTrans α r]

lemma filter_orderedInsert_of_pos {p : α → Bool} {x : α} (hx : p x = true) {xs : List α}
    (h : xs.Pairwise r) :
    (xs.orderedInsert r x).filter p = (xs.filter p).orderedInsert r x := by
  induction xs with
  | nil => rw [List.orderedInsert_nil, List.filter_cons_of_pos hx]; rfl
  | cons y ys ih =>
      obtain ⟨hy, hys⟩ := List.pairwise_cons.1 h
      by_cases hxy : r x y
      · rw [List.orderedInsert_cons_of_le r _ hxy, List.filter_cons_of_pos hx]
        cases hkept : (y :: ys).filter p with
        | nil => rfl
        | cons z zs =>
            -- what is left in front comes from further behind in the sorted list
            have hz : z ∈ y :: ys := List.mem_of_mem_filter (hkept ▸ List.mem_cons_self)
            have hxz : r x z := by
              rcases List.mem_cons.1 hz with rfl | hz
              · exact hxy
              · exact IsTrans.trans x y z hxy (hy z hz)
            rw [List.orderedInsert_cons_of_le r _ hxz]
      · rw [List.orderedInsert_of_not_le r _ hxy]
        by_cases hpy : p y = true
        · rw [List.filter_cons_of_pos hpy, List.filter_cons_of_pos hpy,
            List.orderedInsert_of_not_le r _ hxy, ih hys]
        · rw [List.filter_cons_of_neg hpy, List.filter_cons_of_neg hpy, ih hys]

variable [Std.Total r]

/-- **Sorting commutes with filters.** -/
theorem filter_insertionSort (p : α → Bool) (xs : List α) :
    (xs.insertionSort r).filter p = (xs.filter p).insertionSort r := by
  induction xs with
  | nil => rfl
  | cons x xs ih =>
      rw [List.insertionSort_cons]
      by_cases hx : p x = true
      · rw [filter_orderedInsert_of_pos r hx (List.pairwise_insertionSort r xs), ih,
          List.filter_cons_of_pos hx, List.insertionSort_cons]
      · rw [filter_orderedInsert_of_neg r hx, ih, List.filter_cons_of_neg hx]

/-- Elements that all tie keep their order. -/
lemma filter_insertionSort_of_tie {p : α → Bool} (htie : ∀ x y, p x = true → p y = true → r x y)
    (xs : List α) : (xs.insertionSort r).filter p = xs.filter p := by
  rw [filter_insertionSort]
  apply List.Pairwise.insertionSort_eq
  apply List.pairwise_of_forall_mem_list
  intro x hx y hy
  exact htie x y (List.of_mem_filter hx) (List.of_mem_filter hy)

/-- **The first of the sorted elements.** -/
theorem isEarliest_of_head? {xs : List α} {x : α} (h : (xs.insertionSort r).head? = some x) :
    IsEarliest r xs x := by
  induction xs generalizing x with
  | nil => exact absurd h (by simp)
  | cons y ys ih =>
      have hsorted : (ys.insertionSort r).Pairwise r := List.pairwise_insertionSort r ys
      rw [List.insertionSort_cons] at h
      cases hrest : ys.insertionSort r with
      | nil =>
          have hys : ys = [] := by
            have hperm := List.perm_insertionSort r ys
            rw [hrest] at hperm
            exact List.nil_perm.1 hperm
          rw [hrest, List.orderedInsert_nil] at h
          obtain rfl := Option.some.inj h
          exact ⟨[], [], by rw [hys]; rfl, by simp, by simp⟩
      | cons z zs =>
          rw [hrest] at h hsorted
          -- The new element goes to the front, or the head of the sorted rest stays there.
          by_cases hyz : r y z
          · rw [List.orderedInsert_cons_of_le r _ hyz] at h
            obtain rfl := Option.some.inj h
            refine ⟨[], ys, rfl, by simp, fun w hw => ?_⟩
            have hw' : w ∈ z :: zs := hrest ▸ (List.mem_insertionSort r).2 hw
            rcases List.mem_cons.1 hw' with rfl | hw'
            · exact hyz
            · exact IsTrans.trans y z w hyz ((List.pairwise_cons.1 hsorted).1 w hw')
          · rw [List.orderedInsert_of_not_le r _ hyz] at h
            obtain rfl := Option.some.inj h
            obtain ⟨before, after, hsplit, hbefore, hafter⟩ := ih (by rw [hrest]; rfl)
            refine ⟨y :: before, after, by rw [hsplit]; rfl, ?_, hafter⟩
            intro w hw
            rcases List.mem_cons.1 hw with rfl | hw
            · exact hyz
            · exact hbefore w hw

/-- **The first of the sorted elements that passes a test.**  It passes, nothing before it that
passes ties with it or is to precede it, and it is to precede whatever follows and passes. -/
theorem earliest_of_find? {p : α → Bool} {xs : List α} {x : α}
    (h : (xs.insertionSort r).find? p = some x) :
    ∃ before after, xs = before ++ x :: after ∧ p x = true ∧
      (∀ y ∈ before, p y = true → ¬ r y x) ∧ ∀ y ∈ after, p y = true → r x y := by
  rw [← List.head?_filter, filter_insertionSort] at h
  obtain ⟨kept, rest, hsplit, hkept, hrest⟩ := isEarliest_of_head? r h
  obtain ⟨front, back, rfl, rfl, hback⟩ := List.filter_eq_append_iff.1 hsplit
  obtain ⟨skipped, after, rfl, hskipped, hx, rfl⟩ := List.filter_eq_cons_iff.1 hback
  refine ⟨front ++ skipped, after, by rw [List.append_assoc], hx, ?_, ?_⟩
  · intro y hy hpy
    rcases List.mem_append.1 hy with hy | hy
    · exact hkept y (List.mem_filter.2 ⟨hy, hpy⟩)
    · exact absurd hpy (hskipped y hy)
  · intro y hy hpy
    exact hrest y (List.mem_filter.2 ⟨hy, hpy⟩)

end Sorted

end Grokbotliq
