import Grokbotliq.Routing.JupiterQuote

/-!
# The shadow envelope

A shadow run wraps a plan's instructions in a JSON envelope, keys in base58 and data in base64.
The envelope names them the way a quote names its own, so the quote parser reads it too, and
gets back every instruction that has any data (`fromJsonValue_shadowTxEnvelope`).

The quote parser leaves out an instruction without data, and so does what is read back.  Nothing
else is lost, as long as the codecs spell keys and data in a way they read.
-/

namespace Grokbotliq

namespace JupiterQuote

def accountMetaJson (c : Base58) (m : AccountMeta) : Json :=
  .object
    [("pubkey", .string (m.pubkey.toBase58 c)), ("isSigner", .bool m.isSigner),
      ("isWritable", .bool m.isWritable)]

def instructionJson (c : Base58) (encodeBase64 : List UInt8 → String) (ix : Instruction) : Json :=
  .object
    [("programId", .string (ix.programId.toBase58 c)),
      ("accounts", .array (ix.accounts.map (accountMetaJson c))),
      ("data", .string (encodeBase64 ix.data))]

/-- `shadow_tx_envelope`. -/
def shadowTxEnvelope (c : Base58) (encodeBase64 : List UInt8 → String) (ixs : List Instruction)
    (recentBlockhash : String) : Json :=
  .object
    [("mode", .string "shadow"), ("broadcast", .bool false),
      ("recentBlockhash", .string recentBlockhash),
      ("instructions", .array (ixs.map (instructionJson c encodeBase64)))]

/-- The codecs read back what the envelope writes of an instruction. -/
structure SpellsIx (c : Codecs) (encodeBase64 : List UInt8 → String) (ix : Instruction) :
    Prop where
  program : Pubkey.fromBase58 c.toBase58 (ix.programId.toBase58 c.toBase58) = some ix.programId
  accounts : ∀ m ∈ ix.accounts,
    Pubkey.fromBase58 c.toBase58 (m.pubkey.toBase58 c.toBase58) = some m.pubkey
  data : c.decodeBase64 (encodeBase64 ix.data) = .ok ix.data

variable {encodeBase64 : List UInt8 → String} {ix : Instruction}

lemma accountIs_accountMetaJson {m : AccountMeta}
    (h : Pubkey.fromBase58 c.toBase58 (m.pubkey.toBase58 c.toBase58) = some m.pubkey) :
    AccountIs c (accountMetaJson c.toBase58 m) m :=
  ⟨⟨m.pubkey.toBase58 c.toBase58, rfl, h⟩, Or.inl rfl, Or.inl rfl⟩

/-- The accounts are read as they were written. -/
lemma filterMap_parseAccount {ms : List AccountMeta}
    (h : ∀ m ∈ ms, Pubkey.fromBase58 c.toBase58 (m.pubkey.toBase58 c.toBase58) = some m.pubkey) :
    (ms.map (accountMetaJson c.toBase58)).filterMap (parseAccount c) = ms := by
  induction ms with
  | nil => rfl
  | cons m ms ih =>
      have hm := (accountIs_accountMetaJson (h m List.mem_cons_self)).parseAccount_eq
      rw [List.map_cons, List.filterMap_cons_some hm,
        ih fun m' hm' => h m' (List.mem_cons_of_mem _ hm')]

/-- An instruction is read back if it has any data. -/
lemma parseOneIx_instructionJson (h : SpellsIx c encodeBase64 ix) :
    parseOneIx c (instructionJson c.toBase58 encodeBase64 ix) =
      if ix.data = [] then none else some ⟨"jupiter_swap", ix⟩ := by
  have hlisted : listedAccounts (instructionJson c.toBase58 encodeBase64 ix) =
      ix.accounts.map (accountMetaJson c.toBase58) := rfl
  by_cases hempty : ix.data = []
  · rw [if_pos hempty, Option.eq_none_iff_forall_not_mem]
    intro l hl
    obtain ⟨_, _, t, bytes, _, _, ht, hbytes, hne, _⟩ := parseOneIx_eq_some_iff.1 hl
    obtain rfl : encodeBase64 ix.data = t := Json.string.inj (Option.some.inj ht)
    rw [h.data] at hbytes
    exact hne ((Except.ok.inj hbytes).symm.trans hempty)
  · rw [if_neg hempty]
    refine parseOneIx_eq_some_iff.2 ⟨ix.programId.toBase58 c.toBase58, ix.programId,
      encodeBase64 ix.data, ix.data, rfl, h.program, rfl, h.data, hempty, ?_⟩
    rw [hlisted, filterMap_parseAccount h.accounts]

/-- **The envelope is read back.**  From the envelope of instructions the codecs spell, the quote
parser returns, in order and account by account, the instructions that have any data, and marks
the blob incomplete exactly if there is none. -/
theorem fromJsonValue_shadowTxEnvelope (c : Codecs) (encodeBase64 : List UInt8 → String)
    (ixs : List Instruction) (recentBlockhash : String)
    (h : ∀ ix ∈ ixs, SpellsIx c encodeBase64 ix) :
    fromJsonValue c (shadowTxEnvelope c.toBase58 encodeBase64 ixs recentBlockhash) =
      ⟨(ixs.filter fun ix => ix.data ≠ []).map fun ix => ⟨"jupiter_swap", ix⟩,
        (ixs.filter fun ix => ix.data ≠ []).isEmpty⟩ := by
  have hread : (ixs.map (instructionJson c.toBase58 encodeBase64)).filterMap (parseOneIx c) =
      (ixs.filter fun ix => ix.data ≠ []).map fun ix => ⟨"jupiter_swap", ix⟩ := by
    induction ixs with
    | nil => rfl
    | cons ix ixs ih =>
        have hix := parseOneIx_instructionJson (h ix List.mem_cons_self)
        have hrest := ih fun ix' hix' => h ix' (List.mem_cons_of_mem _ hix')
        rw [List.map_cons]
        by_cases hempty : ix.data = []
        · rw [if_pos hempty] at hix
          rw [List.filterMap_cons_none hix, hrest, List.filter_cons_of_neg (by simpa using hempty)]
        · rw [if_neg hempty] at hix
          rw [List.filterMap_cons_some hix, hrest, List.filter_cons_of_pos (by simpa using hempty),
            List.map_cons]
  -- the envelope itself is no instruction
  have hself : parseOneIx c (shadowTxEnvelope c.toBase58 encodeBase64 ixs recentBlockhash) =
      none := rfl
  have hlisted : ((shadowTxEnvelope c.toBase58 encodeBase64 ixs recentBlockhash).get
      "instructions").bind Json.asArray =
        some (ixs.map (instructionJson c.toBase58 encodeBase64)) := rfl
  have hswap : (shadowTxEnvelope c.toBase58 encodeBase64 ixs recentBlockhash).get
      "swapInstruction" = none := rfl
  unfold fromJsonValue
  rw [hswap, hlisted, hself, Option.getD_some, hread]
  cases ixs.filter fun ix => ix.data ≠ [] with
  | nil => rfl
  | cons ix rest => rfl

/-- Two calls of the program with the zero key, the second without data. -/
def sampleIxs : List Instruction :=
  [⟨.default, [.new .default true], [1]⟩, ⟨.default, [], []⟩]

/-- Base64 of the two texts used here. -/
def sampleEncode (bytes : List UInt8) : String := if bytes = [1] then "AQ==" else ""

def sampleDecode : Codecs where
  toBase58 := Base58.bitcoin
  decodeBase64 s :=
    if s = "AQ==" then .ok [1] else if s = "" then .ok [] else .error "Invalid padding"

theorem fromJsonValue_sampleEnvelope :
    fromJsonValue sampleDecode
        (shadowTxEnvelope sampleDecode.toBase58 sampleEncode sampleIxs "11111111") =
      ⟨[⟨"jupiter_swap", ⟨.default, [.new .default true], [1]⟩⟩], false⟩ := by
  have hspells : ∀ ix ∈ sampleIxs, SpellsIx sampleDecode sampleEncode ix := by
    intro ix hix
    rcases List.mem_pair.1 hix with rfl | rfl
    · refine ⟨rfl, fun m hm => ?_, rfl⟩
      obtain rfl := List.mem_singleton.1 hm
      rfl
    · exact ⟨rfl, fun m hm => absurd hm List.not_mem_nil, rfl⟩
  exact fromJsonValue_shadowTxEnvelope sampleDecode sampleEncode sampleIxs "11111111" hspells

end JupiterQuote

end Grokbotliq
