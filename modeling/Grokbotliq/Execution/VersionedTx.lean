import Grokbotliq.Execution.AccountKeys
import Grokbotliq.Framework.Outcome

/-!
# Versioned transactions on the wire

The encoder of a v0 transaction with dummy signatures, and the parser a validator reads it
with.  Whatever order the key map is iterated in, the parser consumes the encoded bytes exactly
and finds the instructions, the key table and every key's privileges.

The encoding is a concatenation, and the parser is a sequence of readers in the same order, each
of which reads back its own part (`Reads`, from `Framework/Wire.lean`).  The semantic part is
`ParsedTx.Carries`: which keys sign and which are writable is decided by positions alone, and must
come out as the transaction asked.
-/

namespace Grokbotliq.Execution

open Wire

inductive VtxError
  | emptyInstructions
  | tooManyKeys (n : ℕ)
  | missingKey
  deriving DecidableEq, Repr

/-- A recent blockhash. -/
structure Blockhash where
  bytes : List UInt8
  size : bytes.length = 32

/-! ## The encoder -/

/-- Base-128 groups of a length. -/
def shortvecEncode (n : ℕ) : List UInt8 := base128 n

/-- The position of a key, truncated to a byte. -/
def indexOf (keys : List Pubkey) (k : Pubkey) : Outcome VtxError UInt8 :=
  match keys.idxOf? k with
  | some i => .ok (UInt8.ofNat i)
  | none => .err .missingKey

/-- The positions of the accounts, one byte each. -/
def indicesOf (keys : List Pubkey) : List AccountMeta → Outcome VtxError (List UInt8)
  | [] => .ok []
  | m :: metas => do
    let i ← indexOf keys m.pubkey
    let rest ← indicesOf keys metas
    return i :: rest

def compileIx (keys : List Pubkey) (ix : Instruction) : Outcome VtxError (List UInt8) := do
  let progIdx ← indexOf keys ix.programId
  let accountIdxs ← indicesOf keys ix.accounts
  return progIdx :: shortvecEncode ix.accounts.length ++ accountIdxs ++
    shortvecEncode ix.data.length ++ ix.data

def compileIxs (keys : List Pubkey) : List Instruction → Outcome VtxError (List UInt8)
  | [] => .ok []
  | ix :: ixs => do
    let here ← compileIx keys ix
    let rest ← compileIxs keys ixs
    return here ++ rest

/-- `encode_versioned_tx_bytes`. -/
def encodeVersionedTxBytes (order : IterationOrder Pubkey KeyFlags) (ixs : List Instruction)
    (feePayer : Pubkey) (recentBlockhash : Blockhash) : Outcome VtxError (List UInt8) := do
  if ixs = [] then .err .emptyInstructions
  else
    let table := buildAccountKeys order feePayer ixs
    if 256 < table.keys.length then .err (.tooManyKeys table.keys.length)
    else
      let compiled ← compileIxs table.keys ixs
      let message :=
        [0x80, table.numRequiredSignatures, table.numReadonlySigned,
          table.numReadonlyUnsigned] ++
        shortvecEncode table.keys.length ++ table.keys.flatMap Pubkey.bytes ++
        recentBlockhash.bytes ++ (shortvecEncode ixs.length ++ compiled) ++ shortvecEncode 0
      return shortvecEncode table.numRequiredSignatures.toNat ++
        (List.replicate table.numRequiredSignatures.toNat (List.replicate 64 0)).flatten ++ message

/-! ## The parser -/

/-- An instruction with its keys resolved, without privileges. -/
structure ResolvedIx where
  programId : Pubkey
  accounts : List Pubkey
  data : List UInt8
  deriving DecidableEq

def resolve (ix : Instruction) : ResolvedIx :=
  ⟨ix.programId, ix.accounts.map AccountMeta.pubkey, ix.data⟩

structure ParsedTx where
  signatures : List (List UInt8)
  numRequiredSignatures : ℕ
  numReadonlySigned : ℕ
  numReadonlyUnsigned : ℕ
  keys : List Pubkey
  blockhash : List UInt8
  instructions : List ResolvedIx

namespace ParsedTx

variable (tx : ParsedTx)

/-- The key in position `i` signs. -/
def IsSigner (i : ℕ) : Prop := i < tx.numRequiredSignatures

/-- The key in position `i` is writable: a signer or a non-signer that is not among the
readonly ones at the end of its part. -/
def IsWritable (i : ℕ) : Prop :=
  i < tx.numRequiredSignatures - tx.numReadonlySigned ∨
    tx.numRequiredSignatures ≤ i ∧ i < tx.keys.length - tx.numReadonlyUnsigned

end ParsedTx

def readPubkey : Reader Pubkey := do
  let bs ← readBytes 32
  match Pubkey.fromBytes bs with
  | some k => return k
  | none => failure

/-- A byte that names a position of the key table. -/
def readKey (keys : List Pubkey) : Reader Pubkey := do
  let i ← readByte
  match keys[i.toNat]? with
  | some k => return k
  | none => failure

def readIx (keys : List Pubkey) : Reader ResolvedIx := do
  let programId ← readKey keys
  let numAccounts ← readBase128
  let accounts ← readMany (readKey keys) numAccounts
  let numBytes ← readBase128
  let data ← readBytes numBytes
  return ⟨programId, accounts, data⟩

/-- The v0 parser.  The header has to agree with the signatures and with the key table, and
there is at least one writable signer.  Its lengths are base-128 integers of any number of groups:
compact-u16's bound of three bytes and its refusal of aliases are not modelled, so what is read
here is read by a parser with these checks where every length is below `2 ^ 16` (`base128` writes
no alias). -/
def readTx : Reader ParsedTx := do
  let numSignatures ← readBase128
  let signatures ← readMany (readBytes 64) numSignatures
  readLiteral 0x80
  let numRequiredSignatures ← readByte
  let numReadonlySigned ← readByte
  let numReadonlyUnsigned ← readByte
  let numKeys ← readBase128
  check (numRequiredSignatures.toNat = numSignatures ∧
    numReadonlySigned < numRequiredSignatures ∧
    numRequiredSignatures.toNat + numReadonlyUnsigned.toNat ≤ numKeys)
  let keys ← readMany readPubkey numKeys
  let blockhash ← readBytes 32
  let numIxs ← readBase128
  let instructions ← readMany (readIx keys) numIxs
  readLiteral 0
  return {
    signatures := signatures
    numRequiredSignatures := numRequiredSignatures.toNat
    numReadonlySigned := numReadonlySigned.toNat
    numReadonlyUnsigned := numReadonlyUnsigned.toNat
    keys := keys
    blockhash := blockhash
    instructions := instructions }

/-! ## Reading back the pieces

The readers of the parts that depend on the key table. -/

lemma reads_pubkey (k : Pubkey) : Reads readPubkey k.bytes k := by
  have hbytes : Reads (readBytes 32) k.bytes k.bytes := by
    have hread := reads_bytes k.bytes
    rwa [k.size] at hread
  have hdone : Reads (match Pubkey.fromBytes k.bytes with
      | some k => Pure.pure k
      | none => failure : Reader Pubkey) [] k := by
    rw [k.fromBytes_bytes]
    exact Reads.pure k
  have hall := hbytes.bind (f := fun bs => match Pubkey.fromBytes bs with
      | some k => Pure.pure k
      | none => failure) hdone
  rwa [List.append_nil] at hall

lemma reads_signatures (n : ℕ) :
    Reads (readMany (readBytes 64) n) (List.replicate n (List.replicate 64 0)).flatten
      (List.replicate n (List.replicate 64 0)) := by
  have hread := reads_many (r := readBytes 64) id id
    (List.replicate n (List.replicate 64 (0 : UInt8))) fun bs hbs => by
      obtain rfl := List.eq_of_mem_replicate hbs
      exact reads_bytes (List.replicate 64 (0 : UInt8))
  simpa using hread

section Table

variable {keys : List Pubkey} (hkeys : keys.length ≤ 256)
include hkeys

/-- With at most 256 keys, a position survives the truncation to a byte. -/
lemma reads_key {k : Pubkey} {i : UInt8} (h : indexOf keys k = .ok i) :
    Reads (readKey keys) [i] k := by
  unfold indexOf at h
  split at h
  · rename_i pos hpos
    obtain ⟨hlt, hget, -⟩ := List.idxOf?_eq_some_iff.1 hpos
    obtain rfl : UInt8.ofNat pos = i := by simpa using h
    have hbyte : (UInt8.ofNat pos).toNat = pos := by
      rw [UInt8.toNat_ofNat', Nat.mod_eq_of_lt (by omega)]
    have hkey : keys[pos]? = some k := List.getElem?_eq_some_iff.2 ⟨hlt, hget⟩
    intro rest
    simp [readKey, readByte, StateT.run, Bind.bind, StateT.bind, hbyte, hkey, Pure.pure,
      StateT.pure]
  · exact absurd h (by simp)

lemma reads_indices :
    ∀ {metas : List AccountMeta} {bs : List UInt8}, indicesOf keys metas = .ok bs →
      Reads (readMany (readKey keys) metas.length) bs (metas.map AccountMeta.pubkey)
  | [], bs, h => by
      obtain rfl : [] = bs := by simpa [indicesOf] using h
      exact Reads.pure []
  | m :: metas, bs, h => by
      obtain ⟨i, hi, h⟩ := Outcome.bind_eq_ok.1 h
      obtain ⟨rest, hrest, hbs⟩ := Outcome.bind_eq_ok.1 h
      obtain rfl : i :: rest = bs := by simpa using hbs
      have htail := (reads_indices hrest).bind
        (f := fun ks => Pure.pure (m.pubkey :: ks)) (Reads.pure _)
      rw [List.append_nil] at htail
      exact (reads_key hkeys hi).bind htail

lemma reads_ix {ix : Instruction} {bs : List UInt8} (h : compileIx keys ix = .ok bs) :
    Reads (readIx keys) bs (resolve ix) := by
  obtain ⟨progIdx, hprog, h⟩ := Outcome.bind_eq_ok.1 h
  obtain ⟨accountIdxs, haccounts, hbs⟩ := Outcome.bind_eq_ok.1 h
  have hsplit : bs = [progIdx] ++ (base128 ix.accounts.length ++ (accountIdxs ++
      (base128 ix.data.length ++ (ix.data ++ [])))) := by
    have hbs' := Outcome.ok.inj hbs
    rw [← hbs']
    simp [shortvecEncode]
  rw [hsplit]
  exact (reads_key hkeys hprog).bind <| (reads_base128 _).bind <|
    (reads_indices hkeys haccounts).bind <| (reads_base128 _).bind <|
    (reads_bytes ix.data).bind <| Reads.pure (resolve ix)

lemma reads_ixs :
    ∀ {ixs : List Instruction} {bs : List UInt8}, compileIxs keys ixs = .ok bs →
      Reads (readMany (readIx keys) ixs.length) bs (ixs.map resolve)
  | [], bs, h => by
      obtain rfl : [] = bs := by simpa [compileIxs] using h
      exact Reads.pure []
  | ix :: ixs, bs, h => by
      obtain ⟨here, hhere, h⟩ := Outcome.bind_eq_ok.1 h
      obtain ⟨rest, hrest, hbs⟩ := Outcome.bind_eq_ok.1 h
      obtain rfl : here ++ rest = bs := by simpa using hbs
      have htail := (reads_ixs hrest).bind
        (f := fun rs => Pure.pure (resolve ix :: rs)) (Reads.pure _)
      rw [List.append_nil] at htail
      exact (reads_ix hkeys hhere).bind htail

end Table

/-! ## No key is missing

Every account of every instruction is mentioned, so the table has it and the compilation does not
fail. -/

lemma exists_indexOf {keys : List Pubkey} {k : Pubkey} (h : k ∈ keys) :
    ∃ i, indexOf keys k = .ok i := by
  obtain ⟨pos, hpos⟩ := Option.isSome_iff_exists.1 (List.isSome_idxOf?.2 h)
  exact ⟨UInt8.ofNat pos, by rw [indexOf, hpos]⟩

lemma exists_indicesOf {keys : List Pubkey} :
    ∀ {metas : List AccountMeta}, (∀ m ∈ metas, m.pubkey ∈ keys) →
      ∃ bs, indicesOf keys metas = .ok bs
  | [], _ => ⟨[], rfl⟩
  | m :: metas, h => by
      obtain ⟨i, hi⟩ := exists_indexOf (h m List.mem_cons_self)
      obtain ⟨rest, hrest⟩ := exists_indicesOf fun x hx => h x (List.mem_cons_of_mem m hx)
      exact ⟨i :: rest, by rw [indicesOf, hi, Outcome.ok_bind, hrest]; rfl⟩

lemma exists_compileIxs {keys : List Pubkey} :
    ∀ {ixs : List Instruction}, (∀ ix ∈ ixs, ix.programId ∈ keys ∧
      ∀ m ∈ ix.accounts, m.pubkey ∈ keys) → ∃ bs, compileIxs keys ixs = .ok bs
  | [], _ => ⟨[], rfl⟩
  | ix :: ixs, h => by
      obtain ⟨hprogram, haccounts⟩ := h ix List.mem_cons_self
      obtain ⟨progIdx, hprogIdx⟩ := exists_indexOf hprogram
      obtain ⟨accountIdxs, haccountIdxs⟩ := exists_indicesOf haccounts
      obtain ⟨rest, hrest⟩ := exists_compileIxs fun x hx => h x (List.mem_cons_of_mem ix hx)
      have hhere : ∃ here, compileIx keys ix = .ok here :=
        ⟨_, by rw [compileIx, hprogIdx, Outcome.ok_bind, haccountIdxs, Outcome.ok_bind]; rfl⟩
      obtain ⟨here, hhere⟩ := hhere
      exact ⟨here ++ rest, by rw [compileIxs, hhere, Outcome.ok_bind, hrest]; rfl⟩

/-! ## The header -/

section Header

variable (order : IterationOrder Pubkey KeyFlags) (feePayer : Pubkey) (ixs : List Instruction)

/-- What the parser makes of an encoded transaction. -/
def parsed (recentBlockhash : Blockhash) : ParsedTx :=
  let table := buildAccountKeys order feePayer ixs
  { signatures :=
      List.replicate table.numRequiredSignatures.toNat (List.replicate 64 0)
    numRequiredSignatures := table.numRequiredSignatures.toNat
    numReadonlySigned := table.numReadonlySigned.toNat
    numReadonlyUnsigned := table.numReadonlyUnsigned.toNat
    keys := table.keys
    blockhash := recentBlockhash.bytes
    instructions := ixs.map resolve }

lemma length_keys :
    (buildAccountKeys order feePayer ixs).keys.length =
      (writableSigners order feePayer ixs).length + (readonlySigners order feePayer ixs).length +
        (writableNonsigners order feePayer ixs).length +
        (readonlyNonsigners order feePayer ixs).length := by
  simp only [buildAccountKeys, List.length_append]

lemma length_writableSigners_pos : 0 < (writableSigners order feePayer ixs).length :=
  Nat.succ_pos _

variable {order feePayer ixs}

/-- With at most 255 signers and 256 keys, no count of the header is truncated. -/
lemma header_exact (hsigners : (signerKeys feePayer ixs).card ≤ 255)
    (hkeys : (buildAccountKeys order feePayer ixs).keys.length ≤ 256) :
    (buildAccountKeys order feePayer ixs).numRequiredSignatures.toNat =
        (writableSigners order feePayer ixs).length +
          (readonlySigners order feePayer ixs).length ∧
      (buildAccountKeys order feePayer ixs).numReadonlySigned.toNat =
        (readonlySigners order feePayer ixs).length ∧
      (buildAccountKeys order feePayer ixs).numReadonlyUnsigned.toNat =
        (readonlyNonsigners order feePayer ixs).length := by
  have hlen : (writableSigners order feePayer ixs).length +
      (readonlySigners order feePayer ixs).length ≤ (signerKeys feePayer ixs).card :=
    length_signers_le
  have hpos := length_writableSigners_pos order feePayer ixs
  rw [length_keys] at hkeys
  refine ⟨?_, ?_, ?_⟩
  · exact (UInt8.toNat_ofNat' ..).trans (Nat.mod_eq_of_lt (by omega))
  · exact (UInt8.toNat_ofNat' ..).trans (Nat.mod_eq_of_lt (by omega))
  · exact (UInt8.toNat_ofNat' ..).trans (Nat.mod_eq_of_lt (by omega))

end Header

/-! ## The whole transaction -/

section RoundTrip

variable {order : IterationOrder Pubkey KeyFlags} {feePayer : Pubkey} {ixs : List Instruction}
  {recentBlockhash : Blockhash} {bytes : List UInt8}

/-- What a successful encoding consists of. -/
lemma encode_eq_ok (h : encodeVersionedTxBytes order ixs feePayer recentBlockhash = .ok bytes) :
    ∃ compiled, (buildAccountKeys order feePayer ixs).keys.length ≤ 256 ∧
      compileIxs (buildAccountKeys order feePayer ixs).keys ixs = .ok compiled ∧
      bytes =
        base128 (buildAccountKeys order feePayer ixs).numRequiredSignatures.toNat ++
        ((List.replicate (buildAccountKeys order feePayer ixs).numRequiredSignatures.toNat
          (List.replicate 64 0)).flatten ++
        ([0x80] ++ ([(buildAccountKeys order feePayer ixs).numRequiredSignatures] ++
        ([(buildAccountKeys order feePayer ixs).numReadonlySigned] ++
        ([(buildAccountKeys order feePayer ixs).numReadonlyUnsigned] ++
        (base128 (buildAccountKeys order feePayer ixs).keys.length ++ ([] ++
        ((buildAccountKeys order feePayer ixs).keys.flatMap Pubkey.bytes ++
        (recentBlockhash.bytes ++ (base128 ixs.length ++ (compiled ++ ([0] ++ [])))))))))))) := by
  unfold encodeVersionedTxBytes at h
  -- The two refusals of the encoder come first: no instructions, and too many keys.
  split_ifs at h with hempty
  dsimp only at h
  split_ifs at h with hmany
  obtain ⟨compiled, hcompiled, hbytes⟩ := Outcome.bind_eq_ok.1 h
  refine ⟨compiled, Nat.le_of_not_lt hmany, hcompiled, ?_⟩
  rw [← Outcome.ok.inj hbytes]
  simp [shortvecEncode, base128_of_lt]

/-- Encoding fails only for an empty list or more than 256 keys. -/
theorem exists_encode_eq_ok (hixs : ixs ≠ [])
    (hkeys : (buildAccountKeys order feePayer ixs).keys.length ≤ 256) :
    ∃ bytes, encodeVersionedTxBytes order ixs feePayer recentBlockhash = .ok bytes := by
  have hmentioned : ∀ ix ∈ ixs, ix.programId ∈ (buildAccountKeys order feePayer ixs).keys ∧
      ∀ m ∈ ix.accounts, m.pubkey ∈ (buildAccountKeys order feePayer ixs).keys := by
    intro ix hix
    refine ⟨mem_keys.2 (Or.inr ⟨ix, hix, Or.inl rfl⟩), fun m hm => ?_⟩
    exact mem_keys.2 (Or.inr ⟨ix, hix, Or.inr ⟨m, hm, rfl⟩⟩)
  obtain ⟨compiled, hcompiled⟩ := exists_compileIxs hmentioned
  rw [encodeVersionedTxBytes, if_neg hixs]
  dsimp only
  rw [if_neg (Nat.not_lt.2 hkeys), hcompiled]
  exact ⟨_, rfl⟩

/-- The parser consumes the bytes exactly. -/
lemma readTx_encode (h : encodeVersionedTxBytes order ixs feePayer recentBlockhash = .ok bytes)
    (hsigners : (signerKeys feePayer ixs).card ≤ 255) :
    readTx.run bytes = some (parsed order feePayer ixs recentBlockhash, []) := by
  obtain ⟨compiled, hkeys, hcompiled, rfl⟩ := encode_eq_ok h
  obtain ⟨hsigned, hroSigned, hroUnsigned⟩ := header_exact hsigners hkeys
  have hheader : (buildAccountKeys order feePayer ixs).numRequiredSignatures.toNat =
        (buildAccountKeys order feePayer ixs).numRequiredSignatures.toNat ∧
      (buildAccountKeys order feePayer ixs).numReadonlySigned <
        (buildAccountKeys order feePayer ixs).numRequiredSignatures ∧
      (buildAccountKeys order feePayer ixs).numRequiredSignatures.toNat +
        (buildAccountKeys order feePayer ixs).numReadonlyUnsigned.toNat ≤
          (buildAccountKeys order feePayer ixs).keys.length := by
    have hpos := length_writableSigners_pos order feePayer ixs
    refine ⟨rfl, ?_, ?_⟩
    · rw [UInt8.lt_iff_toNat_lt, hsigned, hroSigned]
      omega
    · rw [hsigned, hroUnsigned, length_keys]
      omega
  have hkeyTable := reads_many Pubkey.bytes id (buildAccountKeys order feePayer ixs).keys
    fun k _ => reads_pubkey k
  rw [List.map_id] at hkeyTable
  have hblockhash : Reads (readBytes 32) recentBlockhash.bytes recentBlockhash.bytes := by
    have hread := reads_bytes recentBlockhash.bytes
    rwa [recentBlockhash.size] at hread
  -- The encoding in the order of its parts, each with the reader that reads it.
  refine Reads.run_eq ?_
  exact (reads_base128 _).bind <| (reads_signatures _).bind <| (reads_literal _).bind <|
    (reads_byte _).bind <| (reads_byte _).bind <| (reads_byte _).bind <| (reads_base128 _).bind <|
    (reads_check hheader).bind <| hkeyTable.bind <| hblockhash.bind <| (reads_base128 _).bind <|
    (reads_ixs hkeys hcompiled).bind <| (reads_literal _).bind <| Reads.pure _

/-- The transaction has the instructions, a table without duplicates that starts with the fee
payer, and at each position of the table the privileges wanted for the key that stands there. -/
structure ParsedTx.Carries (tx : ParsedTx) (feePayer : Pubkey) (ixs : List Instruction)
    (recentBlockhash : Blockhash) : Prop where
  instructions : tx.instructions = ixs.map resolve
  blockhash : tx.blockhash = recentBlockhash.bytes
  nodup : tx.keys.Nodup
  feePayerFirst : tx.keys.head? = some feePayer
  mentioned : ∀ k, k ∈ tx.keys ↔ Mentioned feePayer ixs k
  signer : ∀ i k, tx.keys[i]? = some k → (tx.IsSigner i ↔ WantsSigner feePayer ixs k)
  writable : ∀ i k, tx.keys[i]? = some k → (tx.IsWritable i ↔ WantsWritable feePayer ixs k)

lemma carries_parsed (hkeys : (buildAccountKeys order feePayer ixs).keys.length ≤ 256)
    (hsigners : (signerKeys feePayer ixs).card ≤ 255) :
    (parsed order feePayer ixs recentBlockhash).Carries feePayer ixs recentBlockhash := by
  obtain ⟨hsigned, hroSigned, hroUnsigned⟩ := header_exact hsigners hkeys
  refine ⟨rfl, rfl, nodup_keys, rfl, fun k => mem_keys, fun i k hi => ?_, fun i k hi => ?_⟩
  · obtain ⟨f, hlookup, hpos, -⟩ := lookup_of_getElem?_keys hi
    rw [← (FlagTable.lookup_build_eq_some_iff.1 hlookup).2.1, hpos]
    show i < (buildAccountKeys order feePayer ixs).numRequiredSignatures.toNat ↔ _
    rw [hsigned]
  · obtain ⟨f, hlookup, -, hpos⟩ := lookup_of_getElem?_keys hi
    rw [← (FlagTable.lookup_build_eq_some_iff.1 hlookup).2.2, hpos]
    show i < (buildAccountKeys order feePayer ixs).numRequiredSignatures.toNat -
        (buildAccountKeys order feePayer ixs).numReadonlySigned.toNat ∨
      (buildAccountKeys order feePayer ixs).numRequiredSignatures.toNat ≤ i ∧
        i < (buildAccountKeys order feePayer ixs).keys.length -
          (buildAccountKeys order feePayer ixs).numReadonlyUnsigned.toNat ↔ _
    rw [hsigned, hroSigned, hroUnsigned, length_keys]
    omega

/-- **An encoded transaction is read back exactly, under every iteration order.** -/
theorem parse_encode
    (h : encodeVersionedTxBytes order ixs feePayer recentBlockhash = .ok bytes)
    (hsigners : (signerKeys feePayer ixs).card ≤ 255) :
    ∃ tx, readTx.run bytes = some (tx, []) ∧ tx.Carries feePayer ixs recentBlockhash := by
  obtain ⟨-, hkeys, -, -⟩ := encode_eq_ok h
  exact ⟨_, readTx_encode h hsigners, carries_parsed hkeys hsigners⟩

end RoundTrip

/-- A compute-budget instruction and the creation of a token account. -/
def sampleIxs : List Instruction :=
  [computeUnitLimit 200000,
    createAssociatedTokenAccountIdempotent .prefixHash (Pubkey.test 1 1) (Pubkey.test 1 2)
      (Pubkey.test 1 3) Programs.token]

def sampleBlockhash : Blockhash := ⟨List.replicate 32 7, List.length_replicate⟩

/-- A transaction with the sample instructions is encoded and read back. -/
theorem parse_encode_sampleIxs :
    ∃ bytes tx, encodeVersionedTxBytes .asStored sampleIxs (Pubkey.test 1 1) sampleBlockhash =
        .ok bytes ∧
      readTx.run bytes = some (tx, []) ∧
      tx.Carries (Pubkey.test 1 1) sampleIxs sampleBlockhash := by
  have henc : ∃ bytes, encodeVersionedTxBytes .asStored sampleIxs (Pubkey.test 1 1)
      sampleBlockhash = .ok bytes :=
    exists_encode_eq_ok (by decide) (by decide +kernel)
  obtain ⟨bytes, hbytes⟩ := henc
  obtain ⟨tx, htx, hcarries⟩ := parse_encode hbytes (by decide +kernel)
  exact ⟨bytes, tx, hbytes, htx, hcarries⟩

end Grokbotliq.Execution
