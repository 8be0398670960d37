import Grokbotliq.Core.CandidateIndex

/-!
# The bands of the candidates

A candidate's band stands in its entry of `byAccount`, and the account once more in the set of
that band.  The second copy is moved when an upsert changes the band and cleared on removal, so
after any calls the sets are what the last call about each account says (`bands_of_run`).

The invariant is `CandidateIndex.Banded`.  An upsert takes the account out of the set of its old
band and enters it in that of the new one, and between the two writes it stands in no set at all
(`inBand_erase_of_banded`).  What an entry holds is followed through one call by `get_apply` and
through a run by `latestMeta`; since every candidate has exactly one band, the sizes of the sets
add up to the number of candidates.
-/

namespace Grokbotliq

namespace CandidateIndex

def accountsInBand (ix : CandidateIndex) (order : SetOrder Pubkey) (band : CandidateBand) :
    List Pubkey :=
  match ix.byBand.lookup band with
  | some set => order.iterate set
  | none => []

def candidateCount (ix : CandidateIndex) : ℕ := ix.byAccount.keys.length

/-- What is known of `account` after a call. -/
def latest (account : Pubkey) (known : Option CandidateMeta) : Op → Option CandidateMeta
  | .upsertCandidate m => if account = m.account then some m else known
  | .removeCandidate a => if account = a then none else known
  | .setTriggers _ _ => known
  | .clearTriggers _ => known

/-- The meta of the last upsert of `account` that no removal follows. -/
def latestMeta (ops : List Op) (account : Pubkey) : Option CandidateMeta :=
  ops.foldl (latest account) none

/-! ## The two copies of a band -/

/-- `account` stands in the set of `band`. -/
def InBand (byBand : KeyMap CandidateBand (KeySet Pubkey)) (band : CandidateBand)
    (account : Pubkey) : Prop :=
  ∃ set, byBand.lookup band = some set ∧ account ∈ set

/-- **The invariant**: the set of a band holds the accounts whose entry has that band. -/
def Banded (ix : CandidateIndex) : Prop :=
  ∀ band account, InBand ix.byBand band account ↔
    ∃ m, ix.byAccount.lookup account = some m ∧ m.band = band

lemma mem_accountsInBand {ix : CandidateIndex} {order : SetOrder Pubkey} {band : CandidateBand}
    {account : Pubkey} :
    account ∈ ix.accountsInBand order band ↔ InBand ix.byBand band account := by
  rw [accountsInBand, InBand]
  cases ix.byBand.lookup band <;> simp

lemma nodup_accountsInBand (ix : CandidateIndex) (order : SetOrder Pubkey)
    (band : CandidateBand) : (ix.accountsInBand order band).Nodup := by
  rw [accountsInBand]
  cases ix.byBand.lookup band with
  | none => exact List.nodup_nil
  | some set => exact order.nodup_iterate set

lemma inBand_erase (byBand : KeyMap CandidateBand (KeySet Pubkey)) (b band : CandidateBand)
    (a account : Pubkey) :
    InBand (byBand.modify b fun set => set.erase a) band account ↔
      InBand byBand band account ∧ ¬ (band = b ∧ account = a) := by
  simp only [InBand, KeyMap.lookup_modify]
  by_cases hb : band = b
  · subst hb
    cases byBand.lookup band with
    | none => simp
    | some set => simp [and_comm]
  · simp [hb]

lemma inBand_insert (byBand : KeyMap CandidateBand (KeySet Pubkey)) (b band : CandidateBand)
    (a account : Pubkey) :
    InBand (byBand.upsertWith b KeySet.empty fun set => set.insert a) band account ↔
      (band = b ∧ account = a) ∨ InBand byBand band account := by
  simp only [InBand, KeyMap.lookup_upsertWith]
  by_cases hb : band = b
  · subst hb
    cases byBand.lookup band with
    | none => simp
    | some set => simp
  · simp [hb]

lemma banded_new : new.Banded := by
  intro band account
  simp [InBand, new, AList.lookup_empty]

/-- Both copies without an account, as `upsertCandidate` and `removeCandidate` see them between
their two writes. -/
lemma inBand_erase_of_banded {ix : CandidateIndex} (h : ix.Banded) {a : Pubkey}
    {prev : CandidateMeta} (hprev : ix.byAccount.lookup a = some prev) (band : CandidateBand)
    (account : Pubkey) :
    InBand (ix.byBand.modify prev.band fun set => set.erase a) band account ↔
      account ≠ a ∧ ∃ m, ix.byAccount.lookup account = some m ∧ m.band = band := by
  rw [inBand_erase, h band account]
  constructor
  · rintro ⟨⟨m, hm, rfl⟩, hother⟩
    refine ⟨?_, m, hm, rfl⟩
    rintro rfl
    obtain rfl := Option.some.inj (hprev.symm.trans hm)
    exact hother ⟨rfl, rfl⟩
  · rintro ⟨hne, hm⟩
    exact ⟨hm, fun hsame => hne hsame.2⟩

lemma banded_upsertCandidate {ix : CandidateIndex} (h : ix.Banded) (m : CandidateMeta) :
    (ix.upsertCandidate m).Banded := by
  -- the sets without the account, wherever it stood before
  obtain ⟨rest, hrest, hupsert⟩ : ∃ rest,
      (∀ band account, InBand rest band account ↔
        account ≠ m.account ∧ ∃ m', ix.byAccount.lookup account = some m' ∧ m'.band = band) ∧
      (ix.upsertCandidate m).byBand =
        rest.upsertWith m.band KeySet.empty fun set => set.insert m.account := by
    refine ⟨_, fun band account => ?_, rfl⟩
    cases hprev : ix.byAccount.lookup m.account with
    | some prev => exact inBand_erase_of_banded h hprev band account
    | none =>
        rw [h band account, iff_and_self]
        rintro ⟨m', hm', -⟩ rfl
        exact absurd (hprev.symm.trans hm') (by simp)
  intro band account
  have hentry : (ix.upsertCandidate m).byAccount.lookup account =
      if account = m.account then some m else ix.byAccount.lookup account :=
    KeyMap.lookup_insert_eq_ite ..
  rw [hupsert, inBand_insert, hrest, hentry]
  by_cases hsame : account = m.account
  · simp [hsame, eq_comm]
  · simp [hsame]

lemma banded_dropCandidate {ix : CandidateIndex} (h : ix.Banded) (a : Pubkey) :
    (ix.dropCandidate a).Banded := by
  intro band account
  rw [dropCandidate]
  cases hprev : ix.byAccount.lookup a with
  | none => exact h band account
  | some prev =>
      simp only [inBand_erase_of_banded h hprev, KeyMap.lookup_erase_eq_ite]
      by_cases hsame : account = a
      · simp [hsame]
      · simp [hsame]

lemma clearTriggers_frame (ix : CandidateIndex) (account : Pubkey) :
    (ix.clearTriggers account).byAccount = ix.byAccount ∧
      (ix.clearTriggers account).byBand = ix.byBand := by
  rw [clearTriggers]
  cases ix.accountTriggers.lookup account <;> exact ⟨rfl, rfl⟩

lemma banded_clearTriggers {ix : CandidateIndex} (h : ix.Banded) (account : Pubkey) :
    (ix.clearTriggers account).Banded := by
  obtain ⟨haccounts, hbands⟩ := ix.clearTriggers_frame account
  rwa [Banded, haccounts, hbands]

/-- Every call keeps the copies in step. -/
theorem banded_apply (ix : CandidateIndex) (op : Op) (h : ix.Banded) : (ix.apply op).Banded := by
  cases op with
  | upsertCandidate m => exact banded_upsertCandidate h m
  | removeCandidate a => exact banded_dropCandidate (banded_clearTriggers h a) a
  | setTriggers a triggers => exact banded_clearTriggers h a
  | clearTriggers a => exact banded_clearTriggers h a

/-! ## What the entries are -/

lemma get_apply (ix : CandidateIndex) (op : Op) (account : Pubkey) :
    (ix.apply op).get account = latest account (ix.get account) op := by
  cases op with
  | upsertCandidate m => exact KeyMap.lookup_insert_eq_ite ..
  | removeCandidate a =>
      have hclear := congrArg (fun m => m.lookup account) (ix.clearTriggers_frame a).1
      show ((ix.clearTriggers a).dropCandidate a).byAccount.lookup account = _
      rw [dropCandidate]
      -- Removing a candidate clears its triggers first, which leaves the table by account alone.
      cases hprev : (ix.clearTriggers a).byAccount.lookup a with
      | none =>
          rw [latest]
          split_ifs with hsame
          · rw [hsame, hprev]
          · exact hclear
      | some prev =>
          simp only [KeyMap.lookup_erase_eq_ite, latest]
          split_ifs
          · rfl
          · exact hclear
  | setTriggers a triggers =>
      exact congrArg (fun m => m.lookup account) (ix.clearTriggers_frame a).1
  | clearTriggers a => exact congrArg (fun m => m.lookup account) (ix.clearTriggers_frame a).1

lemma get_exec (ops : List Op) (ix : CandidateIndex) (account : Pubkey) :
    (Runs.exec apply ix ops).get account = ops.foldl (latest account) (ix.get account) := by
  induction ops generalizing ix with
  | nil => rfl
  | cons op ops ih => rw [Runs.exec_cons, ih, get_apply, List.foldl_cons]

/-! ## Counting -/

/-- The bands, in the order of urgency. -/
def bands : List CandidateBand := [.critical, .hot, .warm, .cold]

/-- Things with a band, counted band by band. -/
lemma sum_countP_bands {α : Type} (bandOf : α → CandidateBand) (xs : List α) :
    (bands.map fun band => xs.countP fun x => bandOf x = band).sum = xs.length := by
  induction xs with
  | nil => rfl
  | cons x xs ih =>
      simp only [bands, List.map_cons, List.map_nil, List.sum_cons, List.sum_nil,
        List.countP_cons, List.length_cons] at ih ⊢
      cases bandOf x <;> simp <;> omega

lemma length_accountsInBand {ix : CandidateIndex} (h : ix.Banded) (bandOf : Pubkey → CandidateBand)
    (hband : ∀ account m, ix.byAccount.lookup account = some m → bandOf account = m.band)
    (order : SetOrder Pubkey) (band : CandidateBand) :
    (ix.accountsInBand order band).length = ix.byAccount.keys.countP fun k => bandOf k = band := by
  rw [List.countP_eq_length_filter]
  apply List.Perm.length_eq
  rw [List.perm_ext_iff_of_nodup (ix.nodup_accountsInBand order band)
    (ix.byAccount.keys_nodup.filter _)]
  intro account
  rw [mem_accountsInBand, h band account, List.mem_filter, decide_eq_true_eq, ← AList.mem_keys,
    ← AList.lookup_isSome, Option.isSome_iff_exists]
  constructor
  · rintro ⟨m, hm, rfl⟩
    exact ⟨⟨m, hm⟩, hband account m hm⟩
  · rintro ⟨⟨m, hm⟩, hb⟩
    exact ⟨m, hm, (hband account m hm).symm.trans hb⟩

/-- The sizes of the sets add up to the number of candidates. -/
lemma sum_length_accountsInBand {ix : CandidateIndex} (h : ix.Banded)
    (order : CandidateBand → SetOrder Pubkey) :
    (bands.map fun band => (ix.accountsInBand (order band) band).length).sum =
      ix.candidateCount := by
  let bandOf : Pubkey → CandidateBand := fun k =>
    ((ix.byAccount.lookup k).map CandidateMeta.band).getD .cold
  have hband : ∀ account m, ix.byAccount.lookup account = some m → bandOf account = m.band := by
    intro account m hm
    simp [bandOf, hm]
  simp only [length_accountsInBand h bandOf hband]
  exact sum_countP_bands bandOf ix.byAccount.keys

/-- The sets are those of the known candidates: each in the set of the band it is known with and
in no other, nothing that is not known, nothing twice, and as many in all; in whatever order
they are listed. -/
structure BandsFollow (ix : CandidateIndex) (known : Pubkey → Option CandidateMeta) : Prop where
  get : ∀ account, ix.get account = known account
  mem_iff : ∀ account m, known account = some m →
    ∀ order band, account ∈ ix.accountsInBand order band ↔ band = m.band
  not_mem : ∀ account, known account = none → ∀ order band, account ∉ ix.accountsInBand order band
  nodup : ∀ order band, (ix.accountsInBand order band).Nodup
  sum_length : ∀ order : CandidateBand → SetOrder Pubkey,
    (bands.map fun band => (ix.accountsInBand (order band) band).length).sum = ix.candidateCount

/-- **After any calls the bands follow the latest metas.** -/
theorem bands_of_run (ops : List Op) : (Runs.exec apply new ops).BandsFollow (latestMeta ops) := by
  have hbanded : (Runs.exec apply new ops).Banded :=
    Runs.exec_invariant Banded banded_apply ops banded_new
  have hget : ∀ account, (Runs.exec apply new ops).get account = latestMeta ops account :=
    fun account => get_exec ops new account
  refine ⟨hget, fun account m hm order band => ?_, fun account hnone order band hmem => ?_,
    nodup_accountsInBand _, sum_length_accountsInBand hbanded⟩
  · have hentry : (Runs.exec apply new ops).byAccount.lookup account = some m :=
      (hget account).trans hm
    rw [mem_accountsInBand, hbanded band account, hentry]
    simp [eq_comm]
  · obtain ⟨m, hm, -⟩ := (hbanded band account).1 (mem_accountsInBand.1 hmem)
    exact absurd ((hget account).symm.trans hm) (by simp [hnone])

end CandidateIndex

end Grokbotliq
