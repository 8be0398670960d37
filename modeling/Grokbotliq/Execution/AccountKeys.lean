import Grokbotliq.Core.Instruction
import Grokbotliq.Framework.KeyMap

/-!
# The account key table of a transaction

Every key a transaction mentions is collected in a hash map with the flags requested for it,
and the map is then iterated into four sections: writable signers, readonly signers, writable
non-signers, readonly non-signers.  The order of the iteration is not known; what a section
contains does not depend on it.

The flag table is computed by `request`, one account meta after another; flags are only ever
added, so what is asked for a key does not depend on the order (`lookup_foldl_request`).  The fee
payer is entered first with both flags.

Three facts are used of the finished table: no key occurs twice (`nodup_keys`), the section a
position falls in gives the flags of the key there (`lookup_of_getElem?_keys`), and the signer
sections hold every key that has to sign.
-/

namespace Grokbotliq.Execution

structure KeyFlags where
  isSigner : Bool
  isWritable : Bool
  deriving DecidableEq

namespace KeyFlags

def none : KeyFlags := ⟨false, false⟩

def or (f g : KeyFlags) : KeyFlags := ⟨f.isSigner || g.isSigner, f.isWritable || g.isWritable⟩

lemma eq_iff {f g : KeyFlags} :
    f = g ↔ (g.isSigner = true ↔ f.isSigner = true) ∧
      (g.isWritable = true ↔ f.isWritable = true) := by
  obtain ⟨fs, fw⟩ := f
  obtain ⟨gs, gw⟩ := g
  simp only [KeyFlags.mk.injEq, Bool.coe_iff_coe, eq_comm]

lemma none_or (f : KeyFlags) : none.or f = f := by simp [or, none]

lemma or_none (f : KeyFlags) : f.or none = f := by simp [or, none]

lemma or_assoc (f g k : KeyFlags) : (f.or g).or k = f.or (g.or k) := by
  simp [or, Bool.or_assoc]

end KeyFlags

/-! ## The flag table -/

abbrev FlagTable := KeyMap Pubkey KeyFlags

namespace FlagTable

/-- `flags.entry(k).or_insert(none)`. -/
def mention (t : FlagTable) (k : Pubkey) : FlagTable := t.upsertWith k .none id

/-- The same, then the flags of `m` are or-ed in. -/
def request (t : FlagTable) (m : AccountMeta) : FlagTable :=
  t.upsertWith m.pubkey .none fun f => f.or ⟨m.isSigner, m.isWritable⟩

def requestIx (t : FlagTable) (ix : Instruction) : FlagTable :=
  (ix.accounts.foldl request (t.mention ix.programId)).mention ix.programId

/-- The table of `build_account_keys` before it is iterated. -/
def build (feePayer : Pubkey) (ixs : List Instruction) : FlagTable :=
  ixs.foldl requestIx ((∅ : FlagTable).insert feePayer ⟨true, true⟩)

end FlagTable

/-! ## What is requested

The table as a function of the metas alone: a key is in it when it is mentioned, and its flags are
all that is asked for it, or-ed. -/

/-- The metas an instruction contributes: its program without flags, then its accounts. -/
def requests (ix : Instruction) : List AccountMeta :=
  .newReadonly ix.programId false :: ix.accounts ++ [.newReadonly ix.programId false]

/-- The flags `metas` request for `k`, all of them or-ed. -/
def requestedIn (metas : List AccountMeta) (k : Pubkey) : KeyFlags where
  isSigner := metas.any fun m => m.pubkey = k && m.isSigner
  isWritable := metas.any fun m => m.pubkey = k && m.isWritable

/-- The keys of a transaction: the fee payer, the programs, the accounts. -/
def Mentioned (feePayer : Pubkey) (ixs : List Instruction) (k : Pubkey) : Prop :=
  k = feePayer ∨ ∃ ix ∈ ixs, k = ix.programId ∨ ∃ m ∈ ix.accounts, m.pubkey = k

/-- Whether the transaction asks for `k` to sign: the fee payer always does. -/
def WantsSigner (feePayer : Pubkey) (ixs : List Instruction) (k : Pubkey) : Prop :=
  k = feePayer ∨ ∃ ix ∈ ixs, ∃ m ∈ ix.accounts, m.pubkey = k ∧ m.isSigner = true

/-- Whether the transaction asks for `k` to be writable: the fee payer always is. -/
def WantsWritable (feePayer : Pubkey) (ixs : List Instruction) (k : Pubkey) : Prop :=
  k = feePayer ∨ ∃ ix ∈ ixs, ∃ m ∈ ix.accounts, m.pubkey = k ∧ m.isWritable = true

namespace FlagTable

lemma mention_eq_request (t : FlagTable) (k : Pubkey) :
    t.mention k = t.request (.newReadonly k false) := by
  have hid : (fun f : KeyFlags => f.or ⟨false, false⟩) = id := funext KeyFlags.or_none
  exact congrArg (KeyMap.upsertWith t k .none) hid.symm

lemma requestIx_eq (t : FlagTable) (ix : Instruction) :
    t.requestIx ix = (requests ix).foldl request t := by
  rw [requestIx, mention_eq_request, mention_eq_request, requests, List.foldl_append,
    List.foldl_cons, List.foldl_cons, List.foldl_nil]

lemma build_eq (feePayer : Pubkey) (ixs : List Instruction) :
    build feePayer ixs =
      (ixs.flatMap requests).foldl request ((∅ : FlagTable).insert feePayer ⟨true, true⟩) := by
  have hstep : requestIx = fun t ix => (requests ix).foldl request t :=
    funext fun t => funext fun ix => requestIx_eq t ix
  rw [build, hstep, List.foldl_flatMap]

/-- One request: the key is present afterwards, with the flags or-ed in. -/
lemma lookup_request (t : FlagTable) (m : AccountMeta) (k : Pubkey) :
    (t.request m).lookup k =
      if k = m.pubkey then some (((t.lookup k).getD .none).or ⟨m.isSigner, m.isWritable⟩)
      else t.lookup k := by
  rw [request, KeyMap.lookup_upsertWith]
  split_ifs with hk
  · rw [hk]
  · rfl

lemma requestedIn_of_not_mem {metas : List AccountMeta} {k : Pubkey}
    (h : ¬ ∃ m ∈ metas, m.pubkey = k) : requestedIn metas k = .none := by
  have hne : ∀ m ∈ metas, m.pubkey ≠ k := fun m hm heq => h ⟨m, hm, heq⟩
  have hfalse : ∀ flag : AccountMeta → Bool,
      (metas.any fun m => m.pubkey = k && flag m) = false := by
    intro flag
    rw [List.any_eq_false]
    intro m hm
    simp [hne m hm]
  exact congrArg₂ KeyFlags.mk (hfalse AccountMeta.isSigner) (hfalse AccountMeta.isWritable)

/-- Any number of requests. -/
lemma lookup_foldl_request (k : Pubkey) :
    ∀ (metas : List AccountMeta) (t : FlagTable),
      (metas.foldl request t).lookup k =
        if (∃ m ∈ metas, m.pubkey = k) then
          some (((t.lookup k).getD .none).or (requestedIn metas k))
        else t.lookup k
  | [], t => by simp
  | m :: metas, t => by
      rw [List.foldl_cons, lookup_foldl_request k metas, lookup_request]
      -- Flags are only added, so the order in which they are asked for does not show.
      by_cases hm : k = m.pubkey
      · subst hm
        have hhere : ∃ x ∈ m :: metas, x.pubkey = m.pubkey := ⟨m, List.mem_cons_self, rfl⟩
        have hrest : (KeyFlags.mk m.isSigner m.isWritable).or (requestedIn metas m.pubkey) =
            requestedIn (m :: metas) m.pubkey := by
          simp [requestedIn, KeyFlags.or]
        rw [if_pos rfl, if_pos hhere, Option.getD_some, KeyFlags.or_assoc, hrest]
        split_ifs with htail
        · rfl
        · rw [← hrest, requestedIn_of_not_mem htail, KeyFlags.or_none]
      · have hrest : requestedIn (m :: metas) k = requestedIn metas k := by
          simp [requestedIn, Ne.symm hm]
        rw [if_neg hm, hrest]
        simp [Ne.symm hm]

lemma exists_mem_requests {ixs : List Instruction} {k : Pubkey} :
    (∃ m ∈ ixs.flatMap requests, m.pubkey = k) ↔
      ∃ ix ∈ ixs, k = ix.programId ∨ ∃ m ∈ ix.accounts, m.pubkey = k := by
  simp only [List.mem_flatMap, requests]
  constructor
  · intro h
    obtain ⟨m, ⟨ix, hix, hm⟩, rfl⟩ := h
    refine ⟨ix, hix, ?_⟩
    simp only [List.cons_append, List.mem_cons, List.mem_append, List.not_mem_nil,
      or_false] at hm
    rcases hm with rfl | hm | rfl
    · exact Or.inl rfl
    · exact Or.inr ⟨m, hm, rfl⟩
    · exact Or.inl rfl
  · intro h
    obtain ⟨ix, hix, rfl | ⟨m, hm, rfl⟩⟩ := h
    · exact ⟨_, ⟨ix, hix, List.mem_cons_self⟩, rfl⟩
    · exact ⟨m, ⟨ix, hix, by simp [hm]⟩, rfl⟩

/-- A flag is requested for `k` by some account meta: the metas that stand for the programs
request none. -/
lemma any_requests_iff (flag : AccountMeta → Bool)
    (hflag : ∀ k, flag (.newReadonly k false) = false) (ixs : List Instruction) (k : Pubkey) :
    ((ixs.flatMap requests).any fun m => m.pubkey = k && flag m) = true ↔
      ∃ ix ∈ ixs, ∃ m ∈ ix.accounts, m.pubkey = k ∧ flag m = true := by
  simp [requests, hflag, and_comm, and_assoc]

/-- The fee payer's flags are set from the start and stay set. -/
lemma lookup_build_feePayer (feePayer : Pubkey) (ixs : List Instruction) :
    (build feePayer ixs).lookup feePayer = some ⟨true, true⟩ := by
  rw [build_eq, lookup_foldl_request, AList.lookup_insert, Option.getD_some]
  exact ite_self _

lemma lookup_build_of_ne {feePayer k : Pubkey} (hk : k ≠ feePayer) (ixs : List Instruction) :
    (build feePayer ixs).lookup k =
      if (∃ ix ∈ ixs, k = ix.programId ∨ ∃ m ∈ ix.accounts, m.pubkey = k) then
        some (requestedIn (ixs.flatMap requests) k)
      else none := by
  rw [build_eq, lookup_foldl_request, AList.lookup_insert_ne hk, AList.lookup_empty,
    Option.getD_none, KeyFlags.none_or]
  simp only [exists_mem_requests]

/-- **What the table holds**: the mentioned keys, each with the flags wanted for it. -/
theorem lookup_build_eq_some_iff {feePayer : Pubkey} {ixs : List Instruction} {k : Pubkey}
    {f : KeyFlags} :
    (build feePayer ixs).lookup k = some f ↔
      Mentioned feePayer ixs k ∧ (f.isSigner = true ↔ WantsSigner feePayer ixs k) ∧
        (f.isWritable = true ↔ WantsWritable feePayer ixs k) := by
  -- The fee payer is entered first, with both flags, and no instruction takes one off.
  by_cases hpayer : k = feePayer
  · subst hpayer
    have hsigner : WantsSigner k ixs k := Or.inl rfl
    have hwritable : WantsWritable k ixs k := Or.inl rfl
    have hmentioned : Mentioned k ixs k := Or.inl rfl
    rw [lookup_build_feePayer, Option.some.injEq, KeyFlags.eq_iff]
    simp only [hsigner, hwritable, hmentioned, iff_true, true_and]
  · have hsigner : WantsSigner feePayer ixs k ↔
        (requestedIn (ixs.flatMap requests) k).isSigner = true :=
      (or_iff_right hpayer).trans
        (any_requests_iff AccountMeta.isSigner (fun _ => rfl) ixs k).symm
    have hwritable : WantsWritable feePayer ixs k ↔
        (requestedIn (ixs.flatMap requests) k).isWritable = true :=
      (or_iff_right hpayer).trans
        (any_requests_iff AccountMeta.isWritable (fun _ => rfl) ixs k).symm
    rw [lookup_build_of_ne hpayer, hsigner, hwritable, ← KeyFlags.eq_iff, Mentioned,
      or_iff_right hpayer]
    split_ifs with hmem
    · simp [hmem]
    · simp [hmem]

lemma exists_lookup_build_iff {feePayer : Pubkey} {ixs : List Instruction} {k : Pubkey} :
    (∃ f, (build feePayer ixs).lookup k = some f) ↔ Mentioned feePayer ixs k := by
  classical
  constructor
  · intro h
    obtain ⟨f, hf⟩ := h
    exact (lookup_build_eq_some_iff.1 hf).1
  · intro h
    exact ⟨⟨decide (WantsSigner feePayer ixs k), decide (WantsWritable feePayer ixs k)⟩,
      lookup_build_eq_some_iff.2 ⟨h, decide_eq_true_iff, decide_eq_true_iff⟩⟩

end FlagTable

/-! ## The four sections -/

/-- The keys of one section, in the order of the iteration; the fee payer is left out. -/
def keySection (entries : List (Pubkey × KeyFlags)) (feePayer : Pubkey) (f : KeyFlags) :
    List Pubkey :=
  (entries.filter fun e => e.1 ≠ feePayer ∧ e.2 = f).map Prod.fst

/-- A key table with its message header. -/
structure AccountKeys where
  keys : List Pubkey
  numRequiredSignatures : UInt8
  numReadonlySigned : UInt8
  numReadonlyUnsigned : UInt8

section Sections

variable (order : IterationOrder Pubkey KeyFlags) (feePayer : Pubkey) (ixs : List Instruction)

/-- The fee payer first. -/
def writableSigners : List Pubkey :=
  feePayer :: keySection (order.iterate (FlagTable.build feePayer ixs)) feePayer ⟨true, true⟩

def readonlySigners : List Pubkey :=
  keySection (order.iterate (FlagTable.build feePayer ixs)) feePayer ⟨true, false⟩

def writableNonsigners : List Pubkey :=
  keySection (order.iterate (FlagTable.build feePayer ixs)) feePayer ⟨false, true⟩

def readonlyNonsigners : List Pubkey :=
  keySection (order.iterate (FlagTable.build feePayer ixs)) feePayer ⟨false, false⟩

/-- `build_account_keys`.  The counts are truncated to bytes. -/
def buildAccountKeys : AccountKeys where
  keys := writableSigners order feePayer ixs ++ readonlySigners order feePayer ixs ++
    writableNonsigners order feePayer ixs ++ readonlyNonsigners order feePayer ixs
  numRequiredSignatures := UInt8.ofNat
    ((writableSigners order feePayer ixs).length + (readonlySigners order feePayer ixs).length)
  numReadonlySigned := UInt8.ofNat (readonlySigners order feePayer ixs).length
  numReadonlyUnsigned := UInt8.ofNat (readonlyNonsigners order feePayer ixs).length

variable {order feePayer ixs}

lemma mem_keySection {k : Pubkey} {f : KeyFlags} :
    k ∈ keySection (order.iterate (FlagTable.build feePayer ixs)) feePayer f ↔
      k ≠ feePayer ∧ (FlagTable.build feePayer ixs).lookup k = some f := by
  simp only [keySection, List.mem_map, List.mem_filter, decide_eq_true_eq]
  constructor
  · intro h
    obtain ⟨⟨k', f'⟩, ⟨hmem, hne, rfl⟩, rfl⟩ := h
    exact ⟨hne, order.mem_iterate.1 hmem⟩
  · intro h
    exact ⟨(k, f), ⟨order.mem_iterate.2 h.2, h.1, rfl⟩, rfl⟩

/-- A section of keys that are not writable signers does not miss the fee payer. -/
lemma mem_keySection_of_ne {k : Pubkey} {f : KeyFlags} (hf : f ≠ ⟨true, true⟩) :
    k ∈ keySection (order.iterate (FlagTable.build feePayer ixs)) feePayer f ↔
      (FlagTable.build feePayer ixs).lookup k = some f := by
  rw [mem_keySection, and_iff_right_iff_imp]
  intro hlookup hpayer
  rw [hpayer, FlagTable.lookup_build_feePayer] at hlookup
  exact hf (Option.some.inj hlookup).symm

lemma mem_writableSigners {k : Pubkey} :
    k ∈ writableSigners order feePayer ixs ↔
      (FlagTable.build feePayer ixs).lookup k = some ⟨true, true⟩ := by
  rw [writableSigners, List.mem_cons, mem_keySection]
  constructor
  · intro h
    rcases h with rfl | h
    · exact FlagTable.lookup_build_feePayer _ _
    · exact h.2
  · intro h
    by_cases hpayer : k = feePayer
    · exact Or.inl hpayer
    · exact Or.inr ⟨hpayer, h⟩

lemma mem_readonlySigners {k : Pubkey} :
    k ∈ readonlySigners order feePayer ixs ↔
      (FlagTable.build feePayer ixs).lookup k = some ⟨true, false⟩ :=
  mem_keySection_of_ne (by decide)

lemma mem_writableNonsigners {k : Pubkey} :
    k ∈ writableNonsigners order feePayer ixs ↔
      (FlagTable.build feePayer ixs).lookup k = some ⟨false, true⟩ :=
  mem_keySection_of_ne (by decide)

lemma mem_readonlyNonsigners {k : Pubkey} :
    k ∈ readonlyNonsigners order feePayer ixs ↔
      (FlagTable.build feePayer ixs).lookup k = some ⟨false, false⟩ :=
  mem_keySection_of_ne (by decide)

lemma nodup_keySection (f : KeyFlags) :
    (keySection (order.iterate (FlagTable.build feePayer ixs)) feePayer f).Nodup :=
  (order.nodup_keys _).sublist (List.filter_sublist.map Prod.fst)

lemma nodup_writableSigners : (writableSigners order feePayer ixs).Nodup :=
  List.nodup_cons.2 ⟨fun h => (mem_keySection.1 h).1 rfl, nodup_keySection _⟩

/-- Sections of different flags have no key in common. -/
lemma disjoint_of_flags {xs ys : List Pubkey} {f g : KeyFlags}
    (hxs : ∀ k ∈ xs, (FlagTable.build feePayer ixs).lookup k = some f)
    (hys : ∀ k ∈ ys, (FlagTable.build feePayer ixs).lookup k = some g) (hne : f ≠ g) :
    xs.Disjoint ys := by
  intro k hx hy
  have hflags : some f = some g := (hxs k hx).symm.trans (hys k hy)
  exact hne (Option.some.inj hflags)

lemma nodup_signers :
    (writableSigners order feePayer ixs ++ readonlySigners order feePayer ixs).Nodup := by
  have hdisjoint : (writableSigners order feePayer ixs).Disjoint
      (readonlySigners order feePayer ixs) :=
    disjoint_of_flags (fun _ => mem_writableSigners.1) (fun _ => mem_readonlySigners.1)
      (by simp)
  exact List.nodup_append'.2 ⟨nodup_writableSigners, nodup_keySection _, hdisjoint⟩

/-- **No key occurs twice.** -/
theorem nodup_keys : (buildAccountKeys order feePayer ixs).keys.Nodup := by
  -- A key has one pair of flags, and each section holds the keys of one pair.
  have hwritable : (writableSigners order feePayer ixs ++
      readonlySigners order feePayer ixs).Disjoint (writableNonsigners order feePayer ixs) := by
    rw [List.disjoint_append_left]
    constructor
    · exact disjoint_of_flags (fun _ => mem_writableSigners.1)
        (fun _ => mem_writableNonsigners.1) (by simp)
    · exact disjoint_of_flags (fun _ => mem_readonlySigners.1)
        (fun _ => mem_writableNonsigners.1) (by simp)
  have hreadonly : (writableSigners order feePayer ixs ++ readonlySigners order feePayer ixs ++
      writableNonsigners order feePayer ixs).Disjoint
        (readonlyNonsigners order feePayer ixs) := by
    rw [List.disjoint_append_left, List.disjoint_append_left]
    refine ⟨⟨?_, ?_⟩, ?_⟩
    · exact disjoint_of_flags (fun _ => mem_writableSigners.1)
        (fun _ => mem_readonlyNonsigners.1) (by simp)
    · exact disjoint_of_flags (fun _ => mem_readonlySigners.1)
        (fun _ => mem_readonlyNonsigners.1) (by simp)
    · exact disjoint_of_flags (fun _ => mem_writableNonsigners.1)
        (fun _ => mem_readonlyNonsigners.1) (by simp)
  exact List.nodup_append'.2
    ⟨List.nodup_append'.2 ⟨nodup_signers, nodup_keySection _, hwritable⟩, nodup_keySection _,
      hreadonly⟩

/-- The table holds the mentioned keys. -/
lemma mem_keys {k : Pubkey} :
    k ∈ (buildAccountKeys order feePayer ixs).keys ↔ Mentioned feePayer ixs k := by
  rw [← FlagTable.exists_lookup_build_iff]
  simp only [buildAccountKeys, List.mem_append, mem_writableSigners, mem_readonlySigners,
    mem_writableNonsigners, mem_readonlyNonsigners]
  constructor
  · intro h
    rcases h with ((h | h) | h) | h
    · exact ⟨_, h⟩
    · exact ⟨_, h⟩
    · exact ⟨_, h⟩
    · exact ⟨_, h⟩
  · intro h
    obtain ⟨⟨s, w⟩, h⟩ := h
    cases s <;> cases w <;> simp [h]

/-- The section of a position gives the flags of the key that stands there. -/
theorem lookup_of_getElem?_keys {i : ℕ} {k : Pubkey}
    (hi : (buildAccountKeys order feePayer ixs).keys[i]? = some k) :
    ∃ f, (FlagTable.build feePayer ixs).lookup k = some f ∧
      (f.isSigner = true ↔ i < (writableSigners order feePayer ixs).length +
        (readonlySigners order feePayer ixs).length) ∧
      (f.isWritable = true ↔ i < (writableSigners order feePayer ixs).length ∨
        (writableSigners order feePayer ixs).length +
            (readonlySigners order feePayer ixs).length ≤ i ∧
          i < (writableSigners order feePayer ixs).length +
            (readonlySigners order feePayer ixs).length +
            (writableNonsigners order feePayer ixs).length) := by
  simp only [buildAccountKeys, List.getElem?_append, List.length_append] at hi
  split_ifs at hi with h₃ h₂ h₁
  · have hmem := mem_writableSigners.1 (List.mem_of_getElem? hi)
    exact ⟨_, hmem, by simp; omega, by simp; omega⟩
  · have hmem := mem_readonlySigners.1 (List.mem_of_getElem? hi)
    exact ⟨_, hmem, by simp; omega, by simp; omega⟩
  · have hmem := mem_writableNonsigners.1 (List.mem_of_getElem? hi)
    exact ⟨_, hmem, by simp; omega, by simp; omega⟩
  · have hmem := mem_readonlyNonsigners.1 (List.mem_of_getElem? hi)
    exact ⟨_, hmem, by simp; omega, by simp; omega⟩

/-- The distinct keys that have to sign. -/
def signerKeys (feePayer : Pubkey) (ixs : List Instruction) : Finset Pubkey :=
  insert feePayer
    (((ixs.flatMap Instruction.accounts).filter AccountMeta.isSigner).map
      AccountMeta.pubkey).toFinset

lemma mem_signerKeys {k : Pubkey} : k ∈ signerKeys feePayer ixs ↔ WantsSigner feePayer ixs k := by
  simp only [signerKeys, WantsSigner, Finset.mem_insert, List.mem_toFinset, List.mem_map,
    List.mem_filter, List.mem_flatMap]
  refine or_congr_right ⟨fun h => ?_, fun h => ?_⟩
  · obtain ⟨m, ⟨⟨ix, hix, hm⟩, hsigner⟩, hk⟩ := h
    exact ⟨ix, hix, m, hm, hk, hsigner⟩
  · obtain ⟨ix, hix, m, hm, hk, hsigner⟩ := h
    exact ⟨m, ⟨⟨ix, hix, hm⟩, hsigner⟩, hk⟩

/-- The two signer sections hold no more keys than have to sign. -/
lemma length_signers_le :
    (writableSigners order feePayer ixs).length + (readonlySigners order feePayer ixs).length ≤
      (signerKeys feePayer ixs).card := by
  have hsubset : ∀ k ∈ writableSigners order feePayer ixs ++ readonlySigners order feePayer ixs,
      k ∈ signerKeys feePayer ixs := by
    intro k hk
    rw [mem_signerKeys]
    rcases List.mem_append.1 hk with hw | hr
    · exact (FlagTable.lookup_build_eq_some_iff.1 (mem_writableSigners.1 hw)).2.1.1 rfl
    · exact (FlagTable.lookup_build_eq_some_iff.1 (mem_readonlySigners.1 hr)).2.1.1 rfl
  rw [← List.length_append, ← List.toFinset_card_of_nodup nodup_signers]
  exact Finset.card_le_card fun k hk => hsubset k (List.mem_toFinset.1 hk)

end Sections

end Grokbotliq.Execution
