import Mathlib

/-!
# Finite maps and finite sets with an iteration order

`KeyMap K V` is Mathlib's `AList` at a constant family: a list of entries with pairwise
distinct keys, that distinctness being a field of the structure.  It models a hash map and an
ordered map alike; the order in which the entries stand is one order in which such a map may
be iterated, and nothing proved about contents depends on it.

This file adds what the library lacks: one equation for the lookup after each of
`insert` and `erase`, the two in-place updates (`upsertWith`, the entry-or-default idiom, and
`modify`, which leaves an absent key absent), the ascending `range` of an ordered map, and
`KeySet`, a list of distinct elements.

Where a program walks through a hash map or a hash set, the order it meets the elements in is
not the program's to choose: it comes with the table's seed.  `IterationOrder` and `SetOrder`
are such orders, as parameters; a result that holds for every one of them says nothing that
depends on the seed.
-/

namespace Grokbotliq

/-- A finite map from `K` to `V`. -/
abbrev KeyMap (K V : Type*) := AList (fun _ : K => V)

namespace KeyMap

variable {K V : Type*}

lemma keys_eq_map (m : KeyMap K V) :
    (m.entries.map fun e => (e.1, e.2)).map Prod.fst = m.keys := by
  simp [AList.keys, List.keys]

variable [DecidableEq K]

lemma lookup_insert_eq_ite (m : KeyMap K V) (k k' : K) (v : V) :
    (m.insert k v).lookup k' = if k' = k then some v else m.lookup k' := by
  split
  · rename_i h
    subst h
    exact AList.lookup_insert m
  · rename_i h
    exact AList.lookup_insert_ne h

lemma lookup_erase_eq_ite (m : KeyMap K V) (k k' : K) :
    (m.erase k).lookup k' = if k' = k then none else m.lookup k' := by
  split
  · rename_i h
    subst h
    exact AList.lookup_erase k' m
  · rename_i h
    exact AList.lookup_erase_ne h

lemma erase_of_lookup_none {m : KeyMap K V} {k : K} (h : m.lookup k = none) : m.erase k = m := by
  have hk : k ∉ m.keys := AList.lookup_eq_none.1 h
  exact AList.ext (List.kerase_of_notMem_keys hk)

/-- `entry(k).or_insert(dflt)` followed by an update in place. -/
def upsertWith (m : KeyMap K V) (k : K) (dflt : V) (f : V → V) : KeyMap K V :=
  m.insert k (f ((m.lookup k).getD dflt))

lemma lookup_upsertWith (m : KeyMap K V) (k k' : K) (dflt : V) (f : V → V) :
    (m.upsertWith k dflt f).lookup k' =
      if k' = k then some (f ((m.lookup k).getD dflt)) else m.lookup k' :=
  lookup_insert_eq_ite ..

/-- An update in place of a key that is there; an absent key stays absent. -/
def modify (m : KeyMap K V) (k : K) (f : V → V) : KeyMap K V :=
  match m.lookup k with
  | none => m
  | some v => m.insert k (f v)

lemma lookup_modify (m : KeyMap K V) (k k' : K) (f : V → V) :
    (m.modify k f).lookup k' = if k' = k then (m.lookup k).map f else m.lookup k' := by
  cases h : m.lookup k with
  | none =>
      simp only [modify, h, Option.map_none]
      split
      · rename_i hk
        rw [hk, h]
      · rfl
  | some v => simp [modify, h, lookup_insert_eq_ite]

/-- The entries with key between `lo` and `hi`, in ascending order of key. -/
def range [LinearOrder K] (m : KeyMap K V) (lo hi : K) : List (K × V) :=
  ((m.entries.map fun e => (e.1, e.2)).filter fun e => lo ≤ e.1 ∧ e.1 ≤ hi).insertionSort
    fun a b => a.1 ≤ b.1

lemma mem_range [LinearOrder K] {m : KeyMap K V} {lo hi : K} {e : K × V} :
    e ∈ m.range lo hi ↔ m.lookup e.1 = some e.2 ∧ lo ≤ e.1 ∧ e.1 ≤ hi := by
  have hentry : (∃ x ∈ m.entries, (x.1, x.2) = e) ↔ m.lookup e.1 = some e.2 := by
    rw [← Option.mem_def, AList.mem_lookup_iff]
    constructor
    · rintro ⟨x, hx, rfl⟩
      exact hx
    · intro h
      exact ⟨⟨e.1, e.2⟩, h, rfl⟩
  simp only [range, List.mem_insertionSort, List.mem_filter, List.mem_map,
    decide_eq_true_eq, hentry]

omit [DecidableEq K] in
lemma nodup_keys_range [LinearOrder K] {m : KeyMap K V} {lo hi : K} :
    ((m.range lo hi).map Prod.fst).Nodup := by
  rw [range, ((List.perm_insertionSort _ _).map Prod.fst).nodup_iff]
  refine List.Nodup.sublist (List.filter_sublist.map Prod.fst) ?_
  rw [keys_eq_map]
  exact m.keys_nodup

end KeyMap

/-! ## Iteration -/

/-- An order in which maps are iterated: for each map, its entries in some order.  It stands
for a hash function with its seed. -/
structure IterationOrder (K V : Type*) where
  iterate : KeyMap K V → List (K × V)
  perm : ∀ m, (iterate m).Perm (m.entries.map fun e => (e.1, e.2))

namespace IterationOrder

variable {K V : Type*}

/-- The order in which the entries stand. -/
def asStored : IterationOrder K V := ⟨fun m => m.entries.map fun e => (e.1, e.2), fun _ => .rfl⟩

lemma mem_iterate [DecidableEq K] (o : IterationOrder K V) {m : KeyMap K V} {k : K} {v : V} :
    (k, v) ∈ o.iterate m ↔ m.lookup k = some v := by
  rw [(o.perm m).mem_iff, ← Option.mem_def, AList.mem_lookup_iff]
  simp

lemma nodup_keys (o : IterationOrder K V) (m : KeyMap K V) :
    ((o.iterate m).map Prod.fst).Nodup := by
  rw [((o.perm m).map Prod.fst).nodup_iff, KeyMap.keys_eq_map]
  exact m.keys_nodup

end IterationOrder

/-! ## Sets -/

/-- A finite set, as the list of its elements in some iteration order. -/
structure KeySet (K : Type*) where
  elems : List K
  nodup : elems.Nodup

namespace KeySet

variable {K : Type*}

/-- The empty set. -/
def empty : KeySet K := ⟨[], List.nodup_nil⟩

instance : Inhabited (KeySet K) := ⟨empty⟩

instance : Membership K (KeySet K) := ⟨fun s a => a ∈ s.elems⟩

lemma mem_def {s : KeySet K} {a : K} : a ∈ s ↔ a ∈ s.elems := Iff.rfl

@[simp] lemma not_mem_empty (a : K) : a ∉ (empty : KeySet K) := by simp [mem_def, empty]

/-- No element at all. -/
def isEmpty (s : KeySet K) : Bool := s.elems.isEmpty

lemma isEmpty_iff {s : KeySet K} : s.isEmpty = true ↔ ∀ a, a ∉ s := by
  simp [isEmpty, mem_def, List.eq_nil_iff_forall_not_mem]

variable [DecidableEq K]

instance (a : K) (s : KeySet K) : Decidable (a ∈ s) :=
  inferInstanceAs (Decidable (a ∈ s.elems))

/-- Insertion; an element already present stays where it is. -/
def insert (s : KeySet K) (a : K) : KeySet K := ⟨s.elems.insert a, s.nodup.insert⟩

/-- Removal. -/
def erase (s : KeySet K) (a : K) : KeySet K := ⟨s.elems.erase a, s.nodup.erase a⟩

@[simp] lemma mem_insert {s : KeySet K} {a b : K} : a ∈ s.insert b ↔ a = b ∨ a ∈ s :=
  List.mem_insert_iff

@[simp] lemma mem_erase {s : KeySet K} {a b : K} : a ∈ s.erase b ↔ a ≠ b ∧ a ∈ s :=
  s.nodup.mem_erase_iff

end KeySet

/-- An order in which sets are iterated: for each set, its elements in some order. -/
structure SetOrder (K : Type*) where
  iterate : KeySet K → List K
  perm : ∀ s, (iterate s).Perm s.elems

namespace SetOrder

variable {K : Type*}

/-- The order in which the elements stand. -/
def asStored : SetOrder K := ⟨KeySet.elems, fun _ => .rfl⟩

@[simp] lemma mem_iterate (o : SetOrder K) {s : KeySet K} {a : K} : a ∈ o.iterate s ↔ a ∈ s :=
  (o.perm s).mem_iff

lemma nodup_iterate (o : SetOrder K) (s : KeySet K) : (o.iterate s).Nodup :=
  (o.perm s).nodup_iff.2 s.nodup

/-- Two orders list one set alike up to a rearrangement. -/
lemma iterate_perm (o o' : SetOrder K) (s : KeySet K) : (o.iterate s).Perm (o'.iterate s) :=
  (o.perm s).trans (o'.perm s).symm

end SetOrder

end Grokbotliq
