import Mathlib

/-!
# Where in a list a property holds

A list assembled from pieces is described by the positions at which its elements have a
property: at one position only, or nowhere from a position on.  Both follow from the pieces.

A position is found by splitting the list at it: what stands before has no such element, and
neither has what comes after (`OnlyAt.of_append_cons`).  `Preceded` is for properties that look
back: each element is judged by what has come before it, and the second part of a list with the
first part in front of it (`preceded_append`).
-/

namespace Grokbotliq

variable {α : Type*} {p : α → Prop}

/-- Position `i` is in the list, and it is the only one whose element satisfies `p`. -/
def OnlyAt (p : α → Prop) (xs : List α) (i : ℕ) : Prop :=
  i < xs.length ∧ ∀ k x, xs[k]? = some x → (p x ↔ k = i)

/-- Every element satisfying `p` stands before position `i`. -/
def OnlyBefore (p : α → Prop) (xs : List α) (i : ℕ) : Prop :=
  ∀ k x, xs[k]? = some x → p x → k < i

lemma OnlyBefore.of_append {before after : List α} (h : ∀ x ∈ after, ¬ p x) :
    OnlyBefore p (before ++ after) before.length := by
  intro k x hx hp
  by_contra hk
  rw [List.getElem?_append_right (by omega)] at hx
  exact h x (List.mem_of_getElem? hx) hp

lemma OnlyAt.of_append_cons {before after : List α} {a : α} (ha : p a)
    (hbefore : ∀ x ∈ before, ¬ p x) (hafter : ∀ x ∈ after, ¬ p x) :
    OnlyAt p (before ++ a :: after) before.length := by
  refine ⟨by simp, fun k x hx => ?_⟩
  rcases Nat.lt_trichotomy k before.length with hlt | rfl | hgt
  · rw [List.getElem?_append_left hlt] at hx
    exact iff_of_false (hbefore x (List.mem_of_getElem? hx)) (Nat.ne_of_lt hlt)
  · rw [List.getElem?_append_right (Nat.le_refl _), Nat.sub_self] at hx
    obtain rfl : a = x := by simpa using hx
    exact iff_of_true ha rfl
  · rw [List.getElem?_append_right (Nat.le_of_lt hgt), List.getElem?_cons,
      if_neg (by omega)] at hx
    exact iff_of_false (hafter x (List.mem_of_getElem? hx)) (Nat.ne_of_gt hgt)

/-- The element in the only position is every element that satisfies `p`. -/
lemma OnlyAt.getElem?_eq {xs : List α} {i : ℕ} {x : α} (h : OnlyAt p xs i) (hx : x ∈ xs)
    (hp : p x) : xs[i]? = some x := by
  obtain ⟨k, hk⟩ := List.mem_iff_getElem?.1 hx
  exact (h.2 k x hk).1 hp ▸ hk

lemma OnlyAt.unique {xs : List α} {i j : ℕ} (hi : OnlyAt p xs i) (hj : OnlyAt p xs j) :
    i = j := by
  have hget : xs[i]? = some (xs.get ⟨i, hi.1⟩) := List.getElem?_eq_getElem hi.1
  exact (hj.2 i _ hget).1 ((hi.2 i _ hget).2 rfl)

/-! ## What stands before an element -/

/-- Every element stands in relation `q` to the elements before it. -/
def Preceded (q : List α → α → Prop) (xs : List α) : Prop :=
  ∀ k x, xs[k]? = some x → q (xs.take k) x

variable {q : List α → α → Prop}

/-- Only elements about which `q` says nothing. -/
lemma Preceded.of_forall {xs : List α} (h : ∀ x ∈ xs, ∀ before, q before x) : Preceded q xs :=
  fun _ x hx => h x (List.mem_of_getElem? hx) _

@[simp] lemma preceded_singleton {a : α} : Preceded q [a] ↔ q [] a := by
  constructor
  · exact fun h => h 0 a rfl
  · intro h k x hx
    rcases k with - | k
    · obtain rfl : a = x := by simpa using hx
      exact h
    · exact absurd hx (by simp)

lemma preceded_append {xs ys : List α} :
    Preceded q (xs ++ ys) ↔ Preceded q xs ∧ Preceded (fun before => q (xs ++ before)) ys := by
  constructor
  · intro h
    refine ⟨fun k x hx => ?_, fun k x hx => ?_⟩
    · have hk := (List.getElem?_eq_some_iff.1 hx).1
      have hmain := h k x (by rwa [List.getElem?_append_left hk])
      rwa [List.take_append_of_le_length (Nat.le_of_lt hk)] at hmain
    · have hmain := h (xs.length + k) x (by
        rwa [List.getElem?_append_right (by omega), Nat.add_sub_cancel_left])
      rwa [List.take_length_add_append] at hmain
  · intro h k x hx
    obtain ⟨hxs, hys⟩ := h
    -- A position is in the first list, or behind it with all of that list before it.
    rcases Nat.lt_or_ge k xs.length with hk | hk
    · rw [List.getElem?_append_left hk] at hx
      rw [List.take_append_of_le_length (Nat.le_of_lt hk)]
      exact hxs k x hx
    · rw [List.getElem?_append_right hk] at hx
      obtain ⟨d, rfl⟩ := Nat.exists_eq_add_of_le hk
      rw [Nat.add_sub_cancel_left] at hx
      rw [List.take_length_add_append]
      exact hys d x hx

end Grokbotliq
