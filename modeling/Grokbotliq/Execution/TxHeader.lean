import Grokbotliq.Execution.VersionedTx

/-!
# The header of an encoded transaction

Three bytes of the message say how many keys of the table sign and how many of each part are
readonly, and the transaction begins with one signature slot for every required signature.  The
encoder refuses a table of more than 256 keys, which bounds what the bytes of its instructions
have to name but not what the first byte of the header has to count: 256 signers are counted as
none (`head_exact_iff`).

The counts are read back from the bytes (`readHead`), and what they ought to be is counted over
the keys of the transaction.  A count over the key table is a sum over its four sections
(`countP_keys`), which leaves the truncation to a byte; of the three counts only that of the
signers can reach 256.
-/

namespace Grokbotliq.Execution

open Wire

/-- What a transaction holds in front of its blockhash. -/
structure TxHead where
  signatures : List (List UInt8)
  numRequiredSignatures : UInt8
  numReadonlySigned : UInt8
  numReadonlyUnsigned : UInt8
  keys : List Pubkey

/-- The fields in the order in which they stand; unlike `readTx` this compares none of them. -/
def readHead : Reader TxHead := do
  let numSignatures ← readBase128
  let signatures ← readMany (readBytes 64) numSignatures
  readLiteral 0x80
  let numRequiredSignatures ← readByte
  let numReadonlySigned ← readByte
  let numReadonlyUnsigned ← readByte
  let numKeys ← readBase128
  let keys ← readMany readPubkey numKeys
  return {
    signatures := signatures
    numRequiredSignatures := numRequiredSignatures
    numReadonlySigned := numReadonlySigned
    numReadonlyUnsigned := numReadonlyUnsigned
    keys := keys }

instance (feePayer : Pubkey) (ixs : List Instruction) :
    DecidablePred (WantsSigner feePayer ixs) := fun k =>
  inferInstanceAs (Decidable (k = feePayer ∨ ∃ ix ∈ ixs, ∃ m ∈ ix.accounts, _))

instance (feePayer : Pubkey) (ixs : List Instruction) :
    DecidablePred (WantsWritable feePayer ixs) := fun k =>
  inferInstanceAs (Decidable (k = feePayer ∨ ∃ ix ∈ ixs, ∃ m ∈ ix.accounts, _))

/-- The key table lists the keys of the transaction once each, and the header counts them: the
signers, with a signature slot for each, the readonly ones among them, and the readonly keys
that do not sign. -/
structure TxHead.Exact (head : TxHead) (feePayer : Pubkey) (ixs : List Instruction) : Prop where
  nodup : head.keys.Nodup
  mentioned : ∀ k, k ∈ head.keys ↔ Mentioned feePayer ixs k
  slots : head.signatures.length = head.keys.countP (WantsSigner feePayer ixs ·)
  signers : head.numRequiredSignatures.toNat = head.keys.countP (WantsSigner feePayer ixs ·)
  readonlySigners : head.numReadonlySigned.toNat =
    head.keys.countP fun k => WantsSigner feePayer ixs k ∧ ¬ WantsWritable feePayer ixs k
  readonlyNonsigners : head.numReadonlyUnsigned.toNat =
    head.keys.countP fun k => ¬ WantsSigner feePayer ixs k ∧ ¬ WantsWritable feePayer ixs k

section Counts

variable {order : IterationOrder Pubkey KeyFlags} {feePayer : Pubkey} {ixs : List Instruction}

/-! ## Counting the key table -/

/-- A count over the key table is a sum over its sections, in each of which the flags of all
keys are the same. -/
lemma countP_keys (P : Pubkey → Prop) [DecidablePred P] (p : KeyFlags → Bool)
    (h : ∀ k f, (FlagTable.build feePayer ixs).lookup k = some f → (P k ↔ p f = true)) :
    (buildAccountKeys order feePayer ixs).keys.countP (P ·) =
      (if p ⟨true, true⟩ then (writableSigners order feePayer ixs).length else 0) +
      (if p ⟨true, false⟩ then (readonlySigners order feePayer ixs).length else 0) +
      (if p ⟨false, true⟩ then (writableNonsigners order feePayer ixs).length else 0) +
      (if p ⟨false, false⟩ then (readonlyNonsigners order feePayer ixs).length else 0) := by
  -- All keys of a section have the same flags, so it counts whole or not at all.
  have hsection : ∀ (ks : List Pubkey) (f : KeyFlags),
      (∀ k ∈ ks, (FlagTable.build feePayer ixs).lookup k = some f) →
      ks.countP (P ·) = if p f then ks.length else 0 := by
    intro ks f hks
    split_ifs with hf
    · rw [List.countP_eq_length]
      intro k hk
      exact decide_eq_true ((h k f (hks k hk)).2 hf)
    · rw [List.countP_eq_zero]
      intro k hk hP
      exact hf ((h k f (hks k hk)).1 (of_decide_eq_true hP))
  simp only [buildAccountKeys, List.countP_append]
  rw [hsection _ _ fun _ => mem_writableSigners.1, hsection _ _ fun _ => mem_readonlySigners.1,
    hsection _ _ fun _ => mem_writableNonsigners.1,
    hsection _ _ fun _ => mem_readonlyNonsigners.1]

lemma countP_signers :
    (buildAccountKeys order feePayer ixs).keys.countP (WantsSigner feePayer ixs ·) =
      (writableSigners order feePayer ixs).length +
        (readonlySigners order feePayer ixs).length := by
  rw [countP_keys _ KeyFlags.isSigner fun k f hf =>
    (FlagTable.lookup_build_eq_some_iff.1 hf).2.1.symm]
  simp

lemma countP_readonlySigners :
    ((buildAccountKeys order feePayer ixs).keys.countP fun k =>
      WantsSigner feePayer ixs k ∧ ¬ WantsWritable feePayer ixs k) =
      (readonlySigners order feePayer ixs).length := by
  rw [countP_keys _ fun f => f.isSigner && !f.isWritable]
  · simp
  · intro k f hf
    obtain ⟨-, hsigner, hwritable⟩ := FlagTable.lookup_build_eq_some_iff.1 hf
    simp [← hsigner, ← hwritable]

lemma countP_readonlyNonsigners :
    ((buildAccountKeys order feePayer ixs).keys.countP fun k =>
      ¬ WantsSigner feePayer ixs k ∧ ¬ WantsWritable feePayer ixs k) =
      (readonlyNonsigners order feePayer ixs).length := by
  rw [countP_keys _ fun f => !f.isSigner && !f.isWritable]
  · simp
  · intro k f hf
    obtain ⟨-, hsigner, hwritable⟩ := FlagTable.lookup_build_eq_some_iff.1 hf
    simp [← hsigner, ← hwritable]

/-- The signer sections hold every key that has to sign. -/
lemma length_signers_eq :
    (writableSigners order feePayer ixs).length + (readonlySigners order feePayer ixs).length =
      (signerKeys feePayer ixs).card := by
  apply le_antisymm length_signers_le
  rw [← List.length_append]
  refine (Finset.card_le_card fun k hk => ?_).trans (List.toFinset_card_le _)
  have hwants := mem_signerKeys.1 hk
  have hmentioned : Mentioned feePayer ixs k := by
    rcases hwants with hpayer | ⟨ix, hix, m, hm, hmk, -⟩
    · exact Or.inl hpayer
    · exact Or.inr ⟨ix, hix, Or.inr ⟨m, hm, hmk⟩⟩
  obtain ⟨⟨s, w⟩, hlookup⟩ := FlagTable.exists_lookup_build_iff.2 hmentioned
  obtain rfl : s = true := (FlagTable.lookup_build_eq_some_iff.1 hlookup).2.1.2 hwants
  rw [List.mem_toFinset, List.mem_append, mem_writableSigners, mem_readonlySigners]
  cases w
  · exact Or.inr hlookup
  · exact Or.inl hlookup

end Counts

/-! ## The header that is written -/

section Head

variable {order : IterationOrder Pubkey KeyFlags} {feePayer : Pubkey} {ixs : List Instruction}
  {recentBlockhash : Blockhash} {bytes : List UInt8}

/-- The head of a transaction with this key table. -/
def AccountKeys.head (table : AccountKeys) : TxHead where
  signatures := List.replicate table.numRequiredSignatures.toNat (List.replicate 64 0)
  numRequiredSignatures := table.numRequiredSignatures
  numReadonlySigned := table.numReadonlySigned
  numReadonlyUnsigned := table.numReadonlyUnsigned
  keys := table.keys

lemma readHead_encode
    (h : encodeVersionedTxBytes order ixs feePayer recentBlockhash = .ok bytes) :
    ∃ rest, readHead.run bytes = some ((buildAccountKeys order feePayer ixs).head, rest) := by
  obtain ⟨compiled, -, -, rfl⟩ := encode_eq_ok h
  have hkeyTable := reads_many Pubkey.bytes id (buildAccountKeys order feePayer ixs).keys
    fun k _ => reads_pubkey k
  rw [List.map_id] at hkeyTable
  have hhead : Reads readHead _ (buildAccountKeys order feePayer ixs).head :=
    (reads_base128 _).bind <| (reads_signatures _).bind <| (reads_literal 0x80).bind <|
      (reads_byte _).bind <| (reads_byte _).bind <| (reads_byte _).bind <|
      (reads_base128 _).bind <| hkeyTable.bind <| Reads.pure _
  have hrun := hhead (recentBlockhash.bytes ++ (base128 ixs.length ++ (compiled ++ [0])))
  simp only [List.append_assoc, List.append_nil, List.nil_append] at hrun ⊢
  exact ⟨_, hrun⟩

/-- A count of at most 256 fits a byte unless it is 256. -/
lemma toNat_ofNat_eq_iff {n : ℕ} (hn : n ≤ 256) : (UInt8.ofNat n).toNat = n ↔ n ≠ 256 := by
  rw [UInt8.toNat_ofNat']
  omega

/-- Of a table the encoder accepts, the first byte of the header alone can be wrong. -/
lemma head_exact_buildAccountKeys_iff
    (hkeys : (buildAccountKeys order feePayer ixs).keys.length ≤ 256) :
    (buildAccountKeys order feePayer ixs).head.Exact feePayer ixs ↔
      (signerKeys feePayer ixs).card ≠ 256 := by
  have hpos := length_writableSigners_pos order feePayer ixs
  rw [length_keys] at hkeys
  -- Of the three counts only that of the signers can reach 256, and does so only with every key.
  have hsigners : (buildAccountKeys order feePayer ixs).numRequiredSignatures.toNat =
      (writableSigners order feePayer ixs).length +
        (readonlySigners order feePayer ixs).length ↔ (signerKeys feePayer ixs).card ≠ 256 := by
    rw [← @length_signers_eq order feePayer ixs]
    exact toNat_ofNat_eq_iff (by omega)
  constructor
  · intro hexact
    rw [← hsigners]
    exact hexact.signers.trans countP_signers
  · intro hcard
    have hrequired := hsigners.2 hcard
    exact {
      nodup := nodup_keys
      mentioned := fun k => mem_keys
      slots := (List.length_replicate.trans hrequired).trans countP_signers.symm
      signers := hrequired.trans countP_signers.symm
      readonlySigners :=
        ((toNat_ofNat_eq_iff (by omega)).2 (by omega)).trans countP_readonlySigners.symm
      readonlyNonsigners :=
        ((toNat_ofNat_eq_iff (by omega)).2 (by omega)).trans countP_readonlyNonsigners.symm }

/-- **When the header of an encoded transaction is exact**: unless 256 keys have to sign. -/
theorem head_exact_iff
    (h : encodeVersionedTxBytes order ixs feePayer recentBlockhash = .ok bytes) :
    (∃ head rest, readHead.run bytes = some (head, rest) ∧ head.Exact feePayer ixs) ↔
      (signerKeys feePayer ixs).card ≠ 256 := by
  obtain ⟨-, hkeys, -, -⟩ := encode_eq_ok h
  obtain ⟨rest, hrun⟩ := readHead_encode h
  rw [← head_exact_buildAccountKeys_iff hkeys, hrun]
  constructor
  · rintro ⟨head, rest', heq, hexact⟩
    obtain ⟨rfl, -⟩ := Prod.mk.inj (Option.some.inj heq)
    exact hexact
  · exact fun hexact => ⟨_, rest, rfl, hexact⟩

end Head

/-- The head of the sample transaction is exact: one key signs. -/
theorem head_exact_sampleIxs :
    ∃ bytes, encodeVersionedTxBytes .asStored sampleIxs (Pubkey.test 1 1) sampleBlockhash =
        .ok bytes ∧
      ∃ head rest, readHead.run bytes = some (head, rest) ∧
        head.Exact (Pubkey.test 1 1) sampleIxs := by
  have henc : ∃ bytes, encodeVersionedTxBytes .asStored sampleIxs (Pubkey.test 1 1)
      sampleBlockhash = .ok bytes :=
    exists_encode_eq_ok (by decide) (by decide +kernel)
  obtain ⟨bytes, hbytes⟩ := henc
  exact ⟨bytes, hbytes, (head_exact_iff hbytes).2 (by decide +kernel)⟩

/-! ## A transaction with 256 signers

As many signers as the key table has room for, which the encoder accepts. -/

/-- An instruction whose program pays and for which 255 other keys sign. -/
def allSign : List Instruction :=
  [⟨Pubkey.test 1 0,
    (List.range 256).map fun i => .newReadonly (Pubkey.test 1 (UInt64.ofNat i)) true, []⟩]

lemma signerKeys_allSign :
    signerKeys (Pubkey.test 1 0) allSign =
      (Finset.range 256).image fun i => Pubkey.test 1 (UInt64.ofNat i) := by
  ext k
  simp only [mem_signerKeys, WantsSigner, allSign, List.mem_singleton, exists_eq_left,
    List.mem_map, List.mem_range, Finset.mem_image, Finset.mem_range]
  constructor
  · rintro (rfl | ⟨m, ⟨i, hi, rfl⟩, rfl, -⟩)
    · exact ⟨0, by norm_num, rfl⟩
    · exact ⟨i, hi, rfl⟩
  · rintro ⟨i, hi, rfl⟩
    exact Or.inr ⟨_, ⟨i, hi, rfl⟩, rfl, rfl⟩

lemma card_signerKeys_allSign : (signerKeys (Pubkey.test 1 0) allSign).card = 256 := by
  rw [signerKeys_allSign, Finset.card_image_of_injOn, Finset.card_range]
  intro i hi j hj hij
  have hbyte := congrArg UInt64.toNat (Pubkey.test_injective 1 hij)
  rw [Finset.mem_coe, Finset.mem_range] at hi hj
  rw [UInt64.toNat_ofNat', UInt64.toNat_ofNat'] at hbyte
  omega

lemma mentioned_allSign {k : Pubkey} (hk : Mentioned (Pubkey.test 1 0) allSign k) :
    WantsSigner (Pubkey.test 1 0) allSign k := by
  simp only [Mentioned, allSign, List.mem_singleton, exists_eq_left, or_self_left] at hk
  rcases hk with hpayer | ⟨m, hm, hmk⟩
  · exact Or.inl hpayer
  · obtain ⟨i, -, hi⟩ := List.mem_map.1 hm
    exact Or.inr ⟨_, List.mem_singleton_self _, m, hm, hmk, by rw [← hi]; rfl⟩

/-- It is encoded, and its head is not exact: it has no signature slot. -/
theorem allSign_without_signature :
    ∃ bytes head rest,
      encodeVersionedTxBytes .asStored allSign (Pubkey.test 1 0) sampleBlockhash = .ok bytes ∧
      readHead.run bytes = some (head, rest) ∧ head.signatures = [] ∧
      head.numRequiredSignatures = 0 ∧ (signerKeys (Pubkey.test 1 0) allSign).card = 256 ∧
      ¬ head.Exact (Pubkey.test 1 0) allSign := by
  have hcard := card_signerKeys_allSign
  have hkeys : (buildAccountKeys .asStored (Pubkey.test 1 0) allSign).keys.length ≤ 256 := by
    rw [← hcard, ← List.toFinset_card_of_nodup nodup_keys]
    apply Finset.card_le_card
    intro k hk
    exact mem_signerKeys.2 (mentioned_allSign (mem_keys.1 (List.mem_toFinset.1 hk)))
  -- Two hundred and fifty-six in a byte is none.
  have hrequired : (buildAccountKeys .asStored (Pubkey.test 1 0) allSign).numRequiredSignatures =
      0 := by
    show UInt8.ofNat (_ + _) = 0
    rw [length_signers_eq, hcard]
    rfl
  have henc : ∃ bytes, encodeVersionedTxBytes .asStored allSign (Pubkey.test 1 0)
      sampleBlockhash = .ok bytes :=
    exists_encode_eq_ok (by simp [allSign]) hkeys
  obtain ⟨bytes, hbytes⟩ := henc
  obtain ⟨rest, hrun⟩ := readHead_encode hbytes
  refine ⟨bytes, _, rest, hbytes, hrun, ?_, hrequired, hcard, ?_⟩
  · rw [AccountKeys.head, hrequired]
    rfl
  · rw [head_exact_buildAccountKeys_iff hkeys, not_not]
    exact hcard

end Grokbotliq.Execution
