import Grokbotliq.Core.Types

/-!
# The versioned state store

Entries are replaced only by entries of a strictly greater `(slot, write_version)`, compared
lexicographically.  `StateStore.upsert` is the one writer; `get_upsert` says what it leaves
for every key and `upsert_updated_iff` when it reports an update, and everything else about
the store is derived from these two.

The version is compared strictly, so an entry of the version that is held is refused, whatever it
says.  Racing writers are the subject of `Core/StoreMerge.lean`.
-/

namespace Grokbotliq

/-- Stored account or oracle entry with slot + write_version concurrency control. -/
structure StoredAccount (T : Type) where
  slot : ℕ
  writeVersion : ℕ
  pubkey : Pubkey
  decoded : T
  source : UpdateSource
  recvTsUs : ℕ
  deriving DecidableEq

/-- The version a stored entry is compared by. -/
def StoredAccount.version {T : Type} (e : StoredAccount T) : ℕ ×ₗ ℕ :=
  toLex (e.slot, e.writeVersion)

/-- `is_stale_vs`: the other version is strictly newer. -/
def StoredAccount.isStaleVs {T : Type} (e : StoredAccount T) (otherSlot otherWv : ℕ) : Bool :=
  decide (e.version < toLex (otherSlot, otherWv))

/-- In-memory state store keyed by pubkey. -/
structure StateStore (T : Type) where
  inner : KeyMap Pubkey (StoredAccount T)

namespace StateStore

variable {T : Type}

/-- The empty store. -/
def new : StateStore T := ⟨∅⟩

/-- The entry of a key. -/
def get (s : StateStore T) (k : Pubkey) : Option (StoredAccount T) := s.inner.lookup k

@[simp] lemma get_new (k : Pubkey) : (new : StateStore T).get k = none := AList.lookup_empty k

/-- Insert if missing or if the incoming `(slot, write_version)` is newer; the flag tells
whether the store was updated. -/
def upsert (s : StateStore T) (entry : StoredAccount T) : StateStore T × Bool :=
  match s.inner.lookup entry.pubkey with
  | some existing =>
    if !existing.isStaleVs entry.slot entry.writeVersion then (s, false)
    else (⟨s.inner.insert entry.pubkey entry⟩, true)
  | none => (⟨s.inner.insert entry.pubkey entry⟩, true)

def remove (s : StateStore T) (key : Pubkey) : StateStore T × Option (StoredAccount T) :=
  (⟨s.inner.erase key⟩, s.inner.lookup key)

/-- The store takes the entry: its key is absent or held at a strictly older version. -/
def Accepts (s : StateStore T) (entry : StoredAccount T) : Prop :=
  ∀ existing, s.get entry.pubkey = some existing → existing.version < entry.version

instance (s : StateStore T) (entry : StoredAccount T) : Decidable (s.Accepts entry) :=
  match h : s.get entry.pubkey with
  | none => isTrue fun _ he => by rw [h] at he; exact absurd he (by simp)
  | some existing => decidable_of_iff (existing.version < entry.version) <| by
      constructor
      · rintro hlt _ he
        obtain rfl : existing = _ := Option.some.inj (h.symm.trans he)
        exact hlt
      · exact fun hall => hall existing h

/-- Both things an `upsert` can do. -/
lemma upsert_cases (s : StateStore T) (entry : StoredAccount T) :
    (s.Accepts entry ∧ s.upsert entry = (⟨s.inner.insert entry.pubkey entry⟩, true)) ∨
    (¬ s.Accepts entry ∧ s.upsert entry = (s, false)) := by
  cases h : s.inner.lookup entry.pubkey with
  | none =>
      refine Or.inl ⟨fun _ he => ?_, by simp only [upsert, h]⟩
      exact absurd (h.symm.trans he) (by simp)
  | some existing =>
      by_cases hlt : existing.version < entry.version
      · refine Or.inl ⟨fun e he => ?_, ?_⟩
        · obtain rfl : existing = e := Option.some.inj (h.symm.trans he)
          exact hlt
        · simp [upsert, h, StoredAccount.isStaleVs, show existing.version <
            toLex (entry.slot, entry.writeVersion) from hlt]
      · refine Or.inr ⟨fun hall => hlt (hall existing h), ?_⟩
        simp [upsert, h, StoredAccount.isStaleVs, show ¬ existing.version <
          toLex (entry.slot, entry.writeVersion) from hlt]

lemma upsert_updated_iff (s : StateStore T) (entry : StoredAccount T) :
    (s.upsert entry).2 = true ↔ s.Accepts entry := by
  rcases s.upsert_cases entry with ⟨hacc, h⟩ | ⟨hrej, h⟩
  · simp [h, hacc]
  · simp [h, hrej]

lemma upsert_of_not_accepts {s : StateStore T} {entry : StoredAccount T}
    (h : ¬ s.Accepts entry) : s.upsert entry = (s, false) := by
  rcases s.upsert_cases entry with ⟨hacc, _⟩ | ⟨_, heq⟩
  · exact absurd hacc h
  · exact heq

/-- The contents after an `upsert`. -/
lemma get_upsert (s : StateStore T) (entry : StoredAccount T) (k : Pubkey) :
    (s.upsert entry).1.get k =
      if k = entry.pubkey ∧ s.Accepts entry then some entry else s.get k := by
  rcases s.upsert_cases entry with ⟨hacc, h⟩ | ⟨hrej, h⟩
  · simp only [h, get, KeyMap.lookup_insert_eq_ite, hacc, and_true]
  · simp only [h, hrej, and_false, if_false]

lemma get_remove (s : StateStore T) (key k : Pubkey) :
    (s.remove key).1.get k = if k = key then none else s.get k :=
  KeyMap.lookup_erase_eq_ite ..

end StateStore

end Grokbotliq
