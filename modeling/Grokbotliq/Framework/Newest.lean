import Mathlib

/-!
# The newest element of a set

Where replicas keep, for each key, the element of greatest version they have heard of, what
they hold is a function of the *set* of elements heard and not of the order they came in.
`IsNewest ver S o` says that `o` is what a holder of `S` keeps; `IsNewest.insert_newer` and
`IsNewest.insert_older` are its two steps, and `IsNewest.unique` is order independence: where
no two elements of `S` share a version there is only one such `o`.

An element is offered and either is newer than what is kept or is not; the two lemmas about
`insert` are these two cases, and an invariant of the form "what is kept is the newest of what was
offered" goes through any sequence of offers by them.
-/

namespace Grokbotliq

variable {E V : Type*} [LinearOrder V] {ver : E → V} {S : Set E}

/-- `o` is the element of `S` with the greatest version, or nothing when `S` is empty. -/
def IsNewest (ver : E → V) (S : Set E) : Option E → Prop
  | none => S = ∅
  | some e => e ∈ S ∧ ∀ e' ∈ S, ver e' ≤ ver e

namespace IsNewest

lemma nothing : IsNewest ver (∅ : Set E) none := rfl

/-- An element newer than the one kept takes its place. -/
lemma insert_newer {o : Option E} {e : E} (h : IsNewest ver S o)
    (hnew : ∀ x, o = some x → ver x < ver e) : IsNewest ver (insert e S) (some e) := by
  refine ⟨Set.mem_insert e S, ?_⟩
  rintro e' (rfl | he')
  · exact le_rfl
  · cases o with
    | none =>
        have hS : S = ∅ := h
        rw [hS] at he'
        exact absurd he' (Set.notMem_empty e')
    | some x => exact (h.2 e' he').trans (hnew x rfl).le

/-- An element no newer than the one kept changes nothing. -/
lemma insert_older {x e : E} (h : IsNewest ver S (some x)) (hold : ver e ≤ ver x) :
    IsNewest ver (insert e S) (some x) := by
  refine ⟨Set.mem_insert_of_mem e h.1, ?_⟩
  rintro e' (rfl | he')
  · exact hold
  · exact h.2 e' he'

/-- Where versions tell elements apart there is one newest element. -/
lemma unique {o o' : Option E} (hinj : Set.InjOn ver S) (h : IsNewest ver S o)
    (h' : IsNewest ver S o') : o = o' := by
  cases o with
  | none =>
      have hS : S = ∅ := h
      cases o' with
      | none => rfl
      | some e' =>
          have he' : e' ∈ S := h'.1
          rw [hS] at he'
          exact absurd he' (Set.notMem_empty e')
  | some e =>
      cases o' with
      | none =>
          have hS : S = ∅ := h'
          have he : e ∈ S := h.1
          rw [hS] at he
          exact absurd he (Set.notMem_empty e)
      | some e' =>
          have hver : ver e = ver e' := le_antisymm (h'.2 e h.1) (h.2 e' h'.1)
          rw [hinj h.1 h'.1 hver]

end IsNewest

end Grokbotliq
