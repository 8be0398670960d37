import Mathlib

/-!
# Keeping the first element of each key

A loop over a list that keeps an element when its key has not been kept before and a filter
admits the key.  What it keeps has distinct keys, and these are all the keys of the list that
are admitted and new.  A second such loop over what a first one kept therefore keeps it all.

The admitted keys are decided by the filter alone, so the list of keys can be read off without
running the loop (`mem_keys_keepFirst`).  That the keys kept are distinct is what a second loop
needs (`keepFirst_eq_self`).
-/

namespace Grokbotliq

variable {α κ : Type*} [DecidableEq κ]

/-- The elements of the list whose key is not in `seen`, is admitted, and occurs first there. -/
def keepFirst (key : α → κ) (admits : κ → Bool) : List κ → List α → List α
  | _, [] => []
  | seen, x :: xs =>
    if key x ∈ seen ∨ admits (key x) = false then keepFirst key admits seen xs
    else x :: keepFirst key admits (seen ++ [key x]) xs

variable {key : α → κ} {admits : κ → Bool}

lemma mem_of_mem_keepFirst {x : α} {xs : List α} {seen : List κ}
    (h : x ∈ keepFirst key admits seen xs) : x ∈ xs := by
  induction xs generalizing seen with
  | nil => exact h
  | cons y xs ih =>
      rw [keepFirst] at h
      split_ifs at h with hskip
      · exact List.mem_cons_of_mem _ (ih h)
      · rcases List.mem_cons.1 h with rfl | h
        · exact List.mem_cons_self
        · exact List.mem_cons_of_mem _ (ih h)

/-- The keys kept: those of the list that are new and admitted. -/
lemma mem_keys_keepFirst {k : κ} {xs : List α} {seen : List κ} :
    k ∈ (keepFirst key admits seen xs).map key ↔
      k ∈ xs.map key ∧ k ∉ seen ∧ admits k = true := by
  induction xs generalizing seen with
  | nil => simp [keepFirst]
  | cons y xs ih =>
      rw [keepFirst, List.map_cons, List.mem_cons]
      split_ifs with hskip
      · rw [ih]
        refine ⟨fun h => ⟨Or.inr h.1, h.2⟩, fun h => ⟨h.1.resolve_left fun hk => ?_, h.2⟩⟩
        -- the key of a skipped element is seen or not admitted
        rcases hskip with hseen | hnot
        · exact h.2.1 (hk ▸ hseen)
        · exact absurd (hk ▸ h.2.2) (by rw [hnot]; exact Bool.false_ne_true)
      · obtain ⟨hnew, hadmits⟩ := not_or.1 hskip
        rw [Bool.not_eq_false] at hadmits
        rw [List.map_cons, List.mem_cons, ih, List.mem_append, List.mem_singleton]
        constructor
        · rintro (rfl | ⟨hk, hseen, hok⟩)
          · exact ⟨Or.inl rfl, hnew, hadmits⟩
          · exact ⟨Or.inr hk, fun h => hseen (Or.inl h), hok⟩
        · rintro ⟨hk, hseen, hok⟩
          by_cases hhead : k = key y
          · exact Or.inl hhead
          · exact Or.inr ⟨hk.resolve_left hhead, fun h => h.elim hseen hhead, hok⟩

lemma nodup_keys_keepFirst (xs : List α) (seen : List κ) :
    ((keepFirst key admits seen xs).map key).Nodup := by
  induction xs generalizing seen with
  | nil => exact List.nodup_nil
  | cons y xs ih =>
      rw [keepFirst]
      split_ifs with hskip
      · exact ih seen
      · rw [List.map_cons, List.nodup_cons]
        refine ⟨fun hmem => ?_, ih _⟩
        exact (mem_keys_keepFirst.1 hmem).2.1 (List.mem_append_right _ (List.mem_singleton_self _))

/-- Where the keys are distinct, new and admitted, everything is kept. -/
lemma keepFirst_eq_self {xs : List α} {seen : List κ} (hnodup : (xs.map key).Nodup)
    (hkeep : ∀ x ∈ xs, key x ∉ seen ∧ admits (key x) = true) :
    keepFirst key admits seen xs = xs := by
  induction xs generalizing seen with
  | nil => rfl
  | cons y xs ih =>
      obtain ⟨hnew, hadmits⟩ := hkeep y List.mem_cons_self
      obtain ⟨hhead, htail⟩ := List.nodup_cons.1 hnodup
      have hskip : ¬ (key y ∈ seen ∨ admits (key y) = false) := by
        rw [hadmits]
        exact fun h => h.elim hnew Bool.true_eq_false.mp
      rw [keepFirst, if_neg hskip, ih htail fun x hx => ?_]
      obtain ⟨hx', hok⟩ := hkeep x (List.mem_cons_of_mem _ hx)
      refine ⟨fun hmem => ?_, hok⟩
      rcases List.mem_append.1 hmem with hmem | hmem
      · exact hx' hmem
      · rw [List.mem_singleton] at hmem
        exact hhead (hmem ▸ List.mem_map_of_mem hx)

end Grokbotliq
