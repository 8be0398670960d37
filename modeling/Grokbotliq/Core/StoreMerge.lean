import Grokbotliq.Core.StateStore
import Grokbotliq.Framework.Newest
import Grokbotliq.Framework.Runs

/-!
# Racing writers of one store

Streams and backfills upsert into the store in no particular order.  `Tracks s seen` says that
the store holds, under every key, the newest of the updates seen for it; every `upsert` keeps
it (`tracks_upsert`), so the contents after any number of updates are determined by which
updates there were.  `merge_of_updates` puts this together with what a single call reports and
leaves alone, and with the versions of a key never going down while nobody removes it.

The invariant determines the contents only if no two updates of one key share a version
(`DistinctVersions`).  Where they do, as for accounts that come without a slot, the first to
arrive stands (`get_applyAll_of_same_version`).
-/

namespace Grokbotliq.StateStore

variable {T : Type}

/-- The updates of a list that are for `k`. -/
def updatesOf (us : List (StoredAccount T)) (k : Pubkey) : Set (StoredAccount T) :=
  {e | e ∈ us ∧ e.pubkey = k}

/-- Under every key stands the newest update seen for it. -/
def Tracks (s : StateStore T) (seen : List (StoredAccount T)) : Prop :=
  ∀ k, IsNewest StoredAccount.version (updatesOf seen k) (s.get k)

/-- No two different updates of one key share their `(slot, write_version)`. -/
def DistinctVersions (us : List (StoredAccount T)) : Prop :=
  ∀ e ∈ us, ∀ e' ∈ us, e.pubkey = e'.pubkey → e.version = e'.version → e = e'

/-- The store after a list of updates. -/
def applyAll (s : StateStore T) (us : List (StoredAccount T)) : StateStore T :=
  Runs.exec (fun s e => (s.upsert e).1) s us

/-! ## Upserts keep the newest update -/

lemma updatesOf_cons_self (e : StoredAccount T) (us : List (StoredAccount T)) :
    updatesOf (e :: us) e.pubkey = insert e (updatesOf us e.pubkey) := by
  ext e'
  simp only [updatesOf, List.mem_cons, Set.mem_ofPred_eq, Set.mem_insert_iff]
  constructor
  · rintro ⟨rfl | h, hk⟩
    · exact Or.inl rfl
    · exact Or.inr ⟨h, hk⟩
  · rintro (rfl | ⟨h, hk⟩)
    · exact ⟨Or.inl rfl, rfl⟩
    · exact ⟨Or.inr h, hk⟩

lemma updatesOf_cons_of_ne {e : StoredAccount T} {k : Pubkey} (h : k ≠ e.pubkey)
    (us : List (StoredAccount T)) : updatesOf (e :: us) k = updatesOf us k := by
  ext e'
  simp only [updatesOf, List.mem_cons, Set.mem_ofPred_eq]
  constructor
  · rintro ⟨rfl | h', hk⟩
    · exact absurd hk.symm h
    · exact ⟨h', hk⟩
  · rintro ⟨h', hk⟩
    exact ⟨Or.inr h', hk⟩

lemma tracks_new : (new : StateStore T).Tracks [] := by
  intro k
  have hempty : updatesOf ([] : List (StoredAccount T)) k = ∅ := by
    simp [updatesOf]
  rw [hempty, get_new]
  exact IsNewest.nothing

lemma tracks_upsert {s : StateStore T} {seen : List (StoredAccount T)} (h : s.Tracks seen)
    (e : StoredAccount T) : (s.upsert e).1.Tracks (e :: seen) := by
  intro k
  rw [get_upsert]
  by_cases hk : k = e.pubkey
  · subst hk
    rw [updatesOf_cons_self]
    by_cases hacc : s.Accepts e
    · rw [if_pos ⟨rfl, hacc⟩]
      exact (h e.pubkey).insert_newer hacc
    · rw [if_neg fun hand => hacc hand.2]
      obtain ⟨x, hx, hle⟩ : ∃ x, s.get e.pubkey = some x ∧ e.version ≤ x.version := by
        simpa [Accepts] using hacc
      have hnewest := h e.pubkey
      rw [hx] at hnewest ⊢
      exact hnewest.insert_older hle
  · rw [if_neg fun hand => hk hand.1, updatesOf_cons_of_ne hk]
    exact h k

lemma tracks_congr {s : StateStore T} {seen seen' : List (StoredAccount T)}
    (hmem : ∀ e, e ∈ seen ↔ e ∈ seen') (h : s.Tracks seen) : s.Tracks seen' := by
  intro k
  have hsame : updatesOf seen' k = updatesOf seen k := by
    ext e
    simp [updatesOf, hmem e]
  rw [hsame]
  exact h k

lemma tracks_applyAll {s : StateStore T} {seen : List (StoredAccount T)} (h : s.Tracks seen) :
    ∀ us : List (StoredAccount T), (s.applyAll us).Tracks (us ++ seen)
  | [] => h
  | e :: us => by
      have hrest := tracks_applyAll (tracks_upsert h e) us
      refine tracks_congr (fun x => ?_) hrest
      simp only [List.mem_append, List.mem_cons]
      tauto

/-- After a list of updates every key holds the newest of its own. -/
theorem tracks_applyAll_new (us : List (StoredAccount T)) :
    ((new : StateStore T).applyAll us).Tracks us := by
  have h := tracks_applyAll (tracks_new (T := T)) us
  rwa [List.append_nil] at h

/-- **Which updates there were decides the contents**, not the order they came in. -/
theorem get_applyAll_perm {us us' : List (StoredAccount T)} (hdist : DistinctVersions us)
    (hperm : us'.Perm us) (k : Pubkey) :
    ((new : StateStore T).applyAll us').get k = ((new : StateStore T).applyAll us).get k := by
  have hinj : Set.InjOn StoredAccount.version (updatesOf us k) := by
    intro e he e' he' hver
    exact hdist e he.1 e' he'.1 (he.2.trans he'.2.symm) hver
  have h' : ((new : StateStore T).applyAll us').Tracks us :=
    tracks_congr (fun e => hperm.mem_iff) (tracks_applyAll_new us')
  exact (h' k).unique hinj (tracks_applyAll_new us k)

/-! ## Updates of one version

What the bootstrap makes of accounts without a context, whose slot is zero. -/

/-- Among updates of one version the first of a key stands: a later one never replaces it. -/
lemma get_applyAll_of_same_version {v : ℕ ×ₗ ℕ} (k : Pubkey) :
    ∀ (us : List (StoredAccount T)) {s : StateStore T},
      (∀ k e, s.get k = some e → e.version = v) → (∀ e ∈ us, e.version = v) →
      (s.applyAll us).get k = (s.get k).or (us.find? fun e => e.pubkey = k)
  | [], s, _, _ => by
      rw [List.find?_nil, Option.or_none]
      rfl
  | e :: us, s, hs, hus => by
      have he : e.version = v := hus e List.mem_cons_self
      -- The first update, applied or not, leaves a store of the same version.
      have hs' : ∀ k e', (s.upsert e).1.get k = some e' → e'.version = v := by
        intro k e' h
        rw [get_upsert] at h
        split_ifs at h with hk
        · obtain rfl := Option.some.inj h
          exact he
        · exact hs k e' h
      have hrest := get_applyAll_of_same_version k us hs' fun e' he' =>
        hus e' (List.mem_cons_of_mem e he')
      have hnext : (s.applyAll (e :: us)) = (s.upsert e).1.applyAll us := rfl
      rw [hnext, hrest, get_upsert, List.find?_cons]
      by_cases hk : e.pubkey = k
      · subst hk
        rw [decide_eq_true rfl]
        cases hget : s.get e.pubkey with
        | none =>
            have hacc : s.Accepts e := fun x hx => absurd (hget.symm.trans hx) (by simp)
            simp [hacc]
        | some x =>
            have hrej : ¬s.Accepts e := fun hacc =>
              absurd (hacc x hget) (by rw [hs _ x hget, he]; exact lt_irrefl v)
            simp [hrej]
      · have hother : ¬(k = e.pubkey ∧ s.Accepts e) := fun h => hk h.1.symm
        rw [if_neg hother, decide_eq_false hk]

/-! ## One call -/

/-- An update is reported exactly when the key was absent or its version went up. -/
lemma upsert_reports_iff (s : StateStore T) (e : StoredAccount T) :
    (s.upsert e).2 = true ↔
      s.get e.pubkey = none ∨ ∃ old now, s.get e.pubkey = some old ∧
        (s.upsert e).1.get e.pubkey = some now ∧ old.version < now.version := by
  rw [upsert_updated_iff]
  constructor
  · intro hacc
    cases hget : s.get e.pubkey with
    | none => exact Or.inl rfl
    | some old =>
        refine Or.inr ⟨old, e, rfl, ?_, hacc old hget⟩
        rw [get_upsert, if_pos ⟨rfl, hacc⟩]
  · rintro (hnone | ⟨old, now, hold, hnow, hlt⟩)
    · intro x hx
      exact absurd (hnone.symm.trans hx) (by simp)
    · by_contra hrej
      rw [upsert_of_not_accepts hrej, hold] at hnow
      obtain rfl : old = now := Option.some.inj hnow
      exact absurd hlt (lt_irrefl _)

lemma get_upsert_of_ne (s : StateStore T) (e : StoredAccount T) {k : Pubkey}
    (hk : k ≠ e.pubkey) : (s.upsert e).1.get k = s.get k := by
  rw [get_upsert, if_neg fun hand => hk hand.1]

/-! ## Versions between removals -/

/-- A call that writes the store. -/
inductive Op (T : Type)
  | upsert (entry : StoredAccount T)
  | remove (key : Pubkey)

def apply (s : StateStore T) : Op T → StateStore T
  | .upsert e => (s.upsert e).1
  | .remove key => (s.remove key).1

/-- The store holds `k` at this version or a later one. -/
def HoldsSince (k : Pubkey) (v : ℕ ×ₗ ℕ) (s : StateStore T) : Prop :=
  ∃ e, s.get k = some e ∧ v ≤ e.version

lemma holdsSince_upsert {k : Pubkey} {v : ℕ ×ₗ ℕ} {s : StateStore T} (h : s.HoldsSince k v)
    (e : StoredAccount T) : (s.upsert e).1.HoldsSince k v := by
  obtain ⟨x, hx, hle⟩ := h
  by_cases htaken : k = e.pubkey ∧ s.Accepts e
  · refine ⟨e, by rw [get_upsert, if_pos htaken], ?_⟩
    have hlt : x.version < e.version := htaken.2 x (by rw [← htaken.1]; exact hx)
    exact hle.trans hlt.le
  · exact ⟨x, by rw [get_upsert, if_neg htaken]; exact hx, hle⟩

/-- While nobody removes a key its stored version does not go down. -/
theorem version_mono {k : Pubkey} {v : ℕ ×ₗ ℕ} :
    ∀ (ops : List (Op T)) {s : StateStore T}, (∀ op ∈ ops, op ≠ .remove k) →
      s.HoldsSince k v → (Runs.exec apply s ops).HoldsSince k v
  | [], _, _, h => h
  | .upsert e :: ops, s, hops, h => by
      have hrest : ∀ op ∈ ops, op ≠ .remove k := fun op hop => hops op (List.mem_cons_of_mem _ hop)
      exact version_mono ops hrest (holdsSince_upsert h e)
  | .remove key :: ops, s, hops, h => by
      have hrest : ∀ op ∈ ops, op ≠ .remove k := fun op hop => hops op (List.mem_cons_of_mem _ hop)
      have hne : k ≠ key := by
        rintro rfl
        exact hops _ List.mem_cons_self rfl
      obtain ⟨e, he, hle⟩ := h
      have hkept : (s.remove key).1.HoldsSince k v :=
        ⟨e, by rw [get_remove, if_neg hne]; exact he, hle⟩
      exact version_mono ops hrest hkept

/-! ## The merge -/

/-- **Racing writers converge.**  Any two orders of the same updates leave the same contents;
each key holds its newest update; a call reports exactly whether the version went up, and
touches no other key; and versions never go down between removals. -/
theorem merge_of_updates (us : List (StoredAccount T)) (hdist : DistinctVersions us) :
    (∀ us' : List (StoredAccount T), us'.Perm us →
        ∀ k, ((new : StateStore T).applyAll us').get k = ((new : StateStore T).applyAll us).get k) ∧
      (∀ k, IsNewest StoredAccount.version (updatesOf us k)
        (((new : StateStore T).applyAll us).get k)) ∧
      (∀ (s : StateStore T) (e : StoredAccount T),
        ((s.upsert e).2 = true ↔
          s.get e.pubkey = none ∨ ∃ old now, s.get e.pubkey = some old ∧
            (s.upsert e).1.get e.pubkey = some now ∧ old.version < now.version) ∧
        ∀ k, k ≠ e.pubkey → (s.upsert e).1.get k = s.get k) ∧
      ∀ (s : StateStore T) (ops : List (Op T)) (k : Pubkey) (old : StoredAccount T),
        (∀ op ∈ ops, op ≠ .remove k) → s.get k = some old →
          ∃ now, (Runs.exec apply s ops).get k = some now ∧ old.version ≤ now.version := by
  refine ⟨fun us' hperm k => get_applyAll_perm hdist hperm k, tracks_applyAll_new us, ?_, ?_⟩
  · intro s e
    exact ⟨upsert_reports_iff s e, fun k hk => get_upsert_of_ne s e hk⟩
  · intro s ops k old hops hold
    exact version_mono ops hops ⟨old, hold, le_rfl⟩

/-- Two versions of one account and one of another. -/
def sampleUpdates : List (StoredAccount ℕ) :=
  [⟨10, 1, Pubkey.test 1 1, 100, .mock, 0⟩, ⟨10, 2, Pubkey.test 1 1, 400, .mock, 0⟩,
    ⟨10, 1, Pubkey.test 1 2, 7, .geyser, 0⟩]

theorem merge_of_sampleUpdates :
    ((new : StateStore ℕ).applyAll sampleUpdates.reverse).get (Pubkey.test 1 1) =
      ((new : StateStore ℕ).applyAll sampleUpdates).get (Pubkey.test 1 1) := by
  have hdist : DistinctVersions sampleUpdates := by unfold DistinctVersions; decide
  exact (merge_of_updates sampleUpdates hdist).1 _ (List.reverse_perm _) _

end Grokbotliq.StateStore
