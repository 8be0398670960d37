import Grokbotliq.Execution.VersionedTx
import Grokbotliq.Framework.Shortvec

/-!
# The minimal transaction of the bootstrap

A legacy transaction with a single compute-budget instruction, written by hand for
`simulateTransaction`.  Its lengths go through a second copy of the encoder that the versioned
transactions use; the copies give the same bytes (`shortvec_exact`), and what is written reads back
(`readLegacyTx_minimalCuLimitTx`).

Reading back goes field by field as in `Execution/VersionedTx.lean`, with the same readers; a
legacy transaction lacks the version byte and the lookup tables.
-/

namespace Grokbotliq.Bootstrap

open Wire Execution

/-- Compact-u16 (Solana shortvec) encode. -/
def shortvecEncode (n : ℕ) : List UInt8 := shiftGroups n []

lemma shortvecEncode_eq (n : ℕ) : shortvecEncode n = base128 n := shiftGroups_eq n []

/-- The copy for versioned transactions is the same loop. -/
lemma versioned_shortvecEncode_eq (n : ℕ) : Execution.shortvecEncode n = shiftGroups n [] :=
  (shiftGroups_eq n []).symm

/-- **The two copies agree**, and what they write reads back in front of anything, in canonical
form: no other byte string without a trailing group of zeros decodes to the number. -/
theorem shortvec_exact (n : ℕ) (suffix : List UInt8) :
    decodeBase128 (Execution.shortvecEncode n ++ suffix) = some (n, suffix) ∧
      NoTrailingZero (Execution.shortvecEncode n) ∧
      (∀ bs, decodeBase128 (bs ++ suffix) = some (n, suffix) → NoTrailingZero bs →
        bs = Execution.shortvecEncode n) ∧
      (n < 2 ^ 16 → (Execution.shortvecEncode n).length ≤ 3) ∧
      shortvecEncode n = Execution.shortvecEncode n := by
  refine ⟨reads_base128 n suffix, noTrailingZero_base128 n, fun bs h hcanonical => ?_,
    fun hn => ?_, (versioned_shortvecEncode_eq n).symm⟩
  · exact eq_base128_of_decode h hcanonical
  · exact length_base128_le (hn.trans (by norm_num))

/-! ## The transaction -/

/-- `minimal_cu_limit_tx_base64_with_payer`, before its base64. -/
def minimalCuLimitTx (units : UInt32) (feePayer : Pubkey) : List UInt8 :=
  let data := 2 :: leBytes 4 units.toNat
  let ix := [1] ++ shortvecEncode 0 ++ shortvecEncode data.length ++ data
  let msg := [1, 0, 1] ++ shortvecEncode 2 ++ feePayer.bytes ++ Programs.computeBudget.bytes ++
    List.replicate 32 0 ++ shortvecEncode 1 ++ ix
  shortvecEncode 1 ++ List.replicate 64 0 ++ msg

/-- The legacy parser: the fields of `readTx` without a version and without lookups. -/
def readLegacyTx : Reader ParsedTx := do
  let numSignatures ← readBase128
  let signatures ← readMany (readBytes 64) numSignatures
  let numRequiredSignatures ← readByte
  let numReadonlySigned ← readByte
  let numReadonlyUnsigned ← readByte
  let numKeys ← readBase128
  check (numRequiredSignatures.toNat = numSignatures ∧
    numReadonlySigned < numRequiredSignatures ∧
    numRequiredSignatures.toNat + numReadonlyUnsigned.toNat ≤ numKeys)
  let keys ← readMany readPubkey numKeys
  let blockhash ← readBytes 32
  let numIxs ← readBase128
  let instructions ← readMany (readIx keys) numIxs
  return {
    signatures := signatures
    numRequiredSignatures := numRequiredSignatures.toNat
    numReadonlySigned := numReadonlySigned.toNat
    numReadonlyUnsigned := numReadonlyUnsigned.toNat
    keys := keys
    blockhash := blockhash
    instructions := instructions }

section ReadBack

variable (units : UInt32) (feePayer : Pubkey)

/-- The bytes of the one instruction: its program, no accounts, and five bytes of data. -/
def limitIxBytes : List UInt8 :=
  [1] ++ (base128 0 ++ ([] ++ (base128 5 ++ ((2 :: leBytes 4 units.toNat) ++ []))))

/-- It is read behind a key table in which its program stands second. -/
lemma reads_computeUnitLimit :
    Reads (readIx [feePayer, Programs.computeBudget]) (limitIxBytes units)
      (resolve (computeUnitLimit units)) := by
  have hkey : Reads (readKey [feePayer, Programs.computeBudget]) [1] Programs.computeBudget :=
    fun _ => rfl
  have hdata : Reads (readBytes 5) (2 :: leBytes 4 units.toNat) (2 :: leBytes 4 units.toNat) := by
    have hread := reads_bytes (2 :: leBytes 4 units.toNat)
    rwa [List.length_cons, length_leBytes] at hread
  exact hkey.bind <| (reads_base128 0).bind <| (Reads.pure []).bind <| (reads_base128 5).bind <|
    hdata.bind <| Reads.pure (resolve (computeUnitLimit units))

/-- The fields of the transaction, one after another. -/
lemma minimalCuLimitTx_eq :
    minimalCuLimitTx units feePayer =
      base128 1 ++ ((List.replicate 1 (List.replicate 64 0)).flatten ++ ([1] ++ ([0] ++ ([1] ++
        (base128 2 ++ ([] ++ ([feePayer, Programs.computeBudget].flatMap Pubkey.bytes ++
        (List.replicate 32 0 ++ (base128 1 ++ ([()].flatMap (fun _ => limitIxBytes units) ++
        [])))))))))) := by
  simp [minimalCuLimitTx, shortvecEncode_eq, limitIxBytes]

/-- **The minimal transaction reads back**: the payer signs, and the compute budget is called once
with the limit. -/
theorem readLegacyTx_minimalCuLimitTx :
    readLegacyTx.run (minimalCuLimitTx units feePayer) = some
      ({ signatures := [List.replicate 64 0]
         numRequiredSignatures := 1
         numReadonlySigned := 0
         numReadonlyUnsigned := 1
         keys := [feePayer, Programs.computeBudget]
         blockhash := List.replicate 32 0
         instructions := [resolve (computeUnitLimit units)] }, []) := by
  have hkeys := reads_many Pubkey.bytes id [feePayer, Programs.computeBudget]
    fun k _ => reads_pubkey k
  have hixs := reads_many (fun _ => limitIxBytes units)
    (fun _ => resolve (computeUnitLimit units)) [()]
    fun _ _ => reads_computeUnitLimit units feePayer
  have hheader : Reads (check ((1 : UInt8).toNat = 1 ∧ (0 : UInt8) < 1 ∧
      (1 : UInt8).toNat + (1 : UInt8).toNat ≤ 2)) [] () := reads_check (by decide)
  have hblockhash : Reads (readBytes 32) (List.replicate 32 0) (List.replicate 32 0) :=
    reads_bytes (List.replicate 32 0)
  rw [minimalCuLimitTx_eq]
  refine Reads.run_eq ?_
  exact (reads_base128 1).bind <| (reads_signatures 1).bind <| (reads_byte 1).bind <|
    (reads_byte 0).bind <| (reads_byte 1).bind <| (reads_base128 2).bind <| hheader.bind <|
    hkeys.bind <| hblockhash.bind <| (reads_base128 1).bind <| hixs.bind <| Reads.pure _

end ReadBack

end Grokbotliq.Bootstrap
