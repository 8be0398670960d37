import Mathlib

/-!
# Lists that agree up to the order inside blocks

A program that walks through an ordered table of unordered sets meets the rows in their order
and the elements of a row in any order.  Two such walks give lists that need not be equal and
are more alike than two permutations of each other: `SameBlocks key xs ys` says that both fall
into the same sequence of blocks, each block of `xs` a rearrangement of its partner in `ys`
and all of one `key`.

The relation goes through everything that treats the elements one by one: appending
(`SameBlocks.append`), walking through rows (`SameBlocks.flatMap`), and dropping or replacing
elements by a rule that sees no more than the key of the block
(`SameBlocks.filterMap`, `SameBlocks.map`).

Equality is too much to ask of two such walks, and a permutation is too little: it would let an
element of a late row stand before one of an early row.
-/

namespace Grokbotliq

variable {α β ι κ κ' : Type*}

/-- The lists agree but for the order of elements that stand together and have one key. -/
inductive SameBlocks (key : α → κ) : List α → List α → Prop
  | nil : SameBlocks key [] []
  | block {b c xs ys : List α} (k : κ) (hperm : b.Perm c) (hkey : ∀ x ∈ b, key x = k)
      (hrest : SameBlocks key xs ys) : SameBlocks key (b ++ xs) (c ++ ys)

namespace SameBlocks

variable {key : α → κ} {key' : β → κ'} {xs ys xs' ys' : List α}

/-- A single block. -/
lemma of_perm {b c : List α} (k : κ) (hperm : b.Perm c) (hkey : ∀ x ∈ b, key x = k) :
    SameBlocks key b c := by
  have h := SameBlocks.block k hperm hkey .nil
  rwa [List.append_nil, List.append_nil] at h

lemma append (h : SameBlocks key xs ys) (h' : SameBlocks key xs' ys') :
    SameBlocks key (xs ++ xs') (ys ++ ys') := by
  induction h with
  | nil => exact h'
  | block k hperm hkey _ ih =>
      rw [List.append_assoc, List.append_assoc]
      exact .block k hperm hkey ih

/-- Row by row. -/
lemma flatMap {f g : ι → List α} :
    ∀ {rows : List ι}, (∀ i ∈ rows, SameBlocks key (f i) (g i)) →
      SameBlocks key (rows.flatMap f) (rows.flatMap g)
  | [], _ => .nil
  | i :: rows, h => by
      rw [List.flatMap_cons, List.flatMap_cons]
      exact (h i List.mem_cons_self).append (flatMap fun j hj => h j (List.mem_cons_of_mem i hj))

/-- What a rule makes of the elements, where the new keys are read off the old ones. -/
lemma filterMap (h : SameBlocks key xs ys) {f : α → Option β} (g : κ → κ')
    (hkey : ∀ x y, f x = some y → key' y = g (key x)) :
    SameBlocks key' (xs.filterMap f) (ys.filterMap f) := by
  induction h with
  | nil => exact .nil
  | block k hperm hk _ ih =>
      rw [List.filterMap_append, List.filterMap_append]
      refine .block (g k) (hperm.filterMap f) (fun y hy => ?_) ih
      obtain ⟨x, hx, hxy⟩ := List.mem_filterMap.1 hy
      rw [hkey x y hxy, hk x hx]

lemma map (h : SameBlocks key xs ys) {f : α → β} (g : κ → κ')
    (hkey : ∀ x, key' (f x) = g (key x)) : SameBlocks key' (xs.map f) (ys.map f) := by
  rw [← List.filterMap_eq_map]
  refine h.filterMap g fun x y hy => ?_
  rw [← Option.some.inj hy, hkey]

end SameBlocks

end Grokbotliq
