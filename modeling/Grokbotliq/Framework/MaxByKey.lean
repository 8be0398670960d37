import Mathlib

/-!
# The element of greatest key

The last of the elements of a list whose key is greatest, as a left-to-right scan finds it.  It
depends on an element's key only (`maxByKey_map`), and a list that is not empty has one.

Ties matter: of two elements of one key the later one is returned, as in a standard library's
`max_by_key`.  An update that changes elements and keeps their keys therefore changes which
element is returned only by changing that element.
-/

namespace Grokbotliq

variable {α β K : Type*} [LinearOrder K]

/-- The element of greatest key, the last of them on ties. -/
def maxByKey (key : α → K) (xs : List α) : Option α :=
  xs.foldl (fun best x =>
    match best with
    | none => some x
    | some b => if key b ≤ key x then some x else some b) none

lemma maxByKey_cons_cons (key : α → K) (b x : α) (xs : List α) :
    maxByKey key (b :: x :: xs) =
      if key b ≤ key x then maxByKey key (x :: xs) else maxByKey key (b :: xs) := by
  by_cases hle : key b ≤ key x
  · simp [maxByKey, hle]
  · simp [maxByKey, hle]

/-- The scan commutes with a map that keeps the keys. -/
lemma maxByKey_map (key : β → K) (f : α → β) (xs : List α) :
    maxByKey key (xs.map f) = (maxByKey (fun x => key (f x)) xs).map f := by
  cases xs with
  | nil => rfl
  | cons b xs =>
      induction xs generalizing b with
      | nil => rfl
      | cons x xs ih =>
          have hkeep := ih x
          have hdrop := ih b
          rw [List.map_cons] at hkeep hdrop
          rw [List.map_cons, List.map_cons, maxByKey_cons_cons, maxByKey_cons_cons, hkeep, hdrop]
          split_ifs <;> rfl

lemma exists_mem_maxByKey (key : α → K) {xs : List α} (h : xs ≠ []) :
    ∃ x ∈ xs, maxByKey key xs = some x := by
  cases xs with
  | nil => exact absurd rfl h
  | cons b xs =>
      clear h
      induction xs generalizing b with
      | nil => exact ⟨b, List.mem_singleton_self b, rfl⟩
      | cons x xs ih =>
          rw [maxByKey_cons_cons]
          split_ifs
          · obtain ⟨y, hy, hmax⟩ := ih x
            exact ⟨y, List.mem_cons_of_mem b hy, hmax⟩
          · obtain ⟨y, hy, hmax⟩ := ih b
            refine ⟨y, ?_, hmax⟩
            rcases List.mem_cons.1 hy with rfl | hy
            · exact List.mem_cons_self
            · exact List.mem_cons_of_mem b (List.mem_cons_of_mem x hy)

lemma mem_of_maxByKey {key : α → K} {xs : List α} {x : α} (h : maxByKey key xs = some x) :
    x ∈ xs := by
  have hne : xs ≠ [] := by
    rintro rfl
    exact absurd h (by simp [maxByKey])
  obtain ⟨y, hy, hmax⟩ := exists_mem_maxByKey key hne
  exact Option.some.inj (hmax.symm.trans h) ▸ hy

end Grokbotliq
