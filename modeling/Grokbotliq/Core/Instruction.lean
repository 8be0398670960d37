import Grokbotliq.Core.Types

/-!
# Wire-ready instructions

Instructions with their account metas, the program ids, and the few instructions that belong
to no lending protocol: the compute budget and the idempotent creation of an associated token
account.  Program-derived addresses hash their seeds; the hash and the curve test are the
parameter `PdaHash`, and nothing here depends on which functions they are.
-/

namespace Grokbotliq

open Wire

structure AccountMeta where
  pubkey : Pubkey
  isSigner : Bool
  isWritable : Bool
  deriving DecidableEq

namespace AccountMeta

def new (pubkey : Pubkey) (isSigner : Bool) : AccountMeta := ⟨pubkey, isSigner, true⟩

def newReadonly (pubkey : Pubkey) (isSigner : Bool) : AccountMeta := ⟨pubkey, isSigner, false⟩

@[simp] lemma new_pubkey (k : Pubkey) (s : Bool) : (new k s).pubkey = k := rfl

@[simp] lemma newReadonly_pubkey (k : Pubkey) (s : Bool) : (newReadonly k s).pubkey = k := rfl

@[simp] lemma new_isSigner (k : Pubkey) (s : Bool) : (new k s).isSigner = s := rfl

@[simp] lemma newReadonly_isSigner (k : Pubkey) (s : Bool) : (newReadonly k s).isSigner = s := rfl

end AccountMeta

/-- VersionedTransaction-ready instruction. -/
structure Instruction where
  programId : Pubkey
  accounts : List AccountMeta
  data : List UInt8
  deriving DecidableEq

/-- Named instruction for logging; the wire instruction is kept separate. -/
structure LabeledIx where
  label : String
  ix : Instruction
  deriving DecidableEq

namespace Instruction

/-- A call of `program` whose data begins with `tag`. -/
def IsCall (ix : Instruction) (program : Pubkey) (tag : List UInt8) : Prop :=
  ix.programId = program ∧ tag <+: ix.data

instance (ix : Instruction) (program : Pubkey) (tag : List UInt8) :
    Decidable (ix.IsCall program tag) :=
  inferInstanceAs (Decidable (_ ∧ _))

/-- Tags of one length tell the calls of all programs apart. -/
lemma IsCall.tag_eq {ix : Instruction} {program program' : Pubkey} {tag tag' : List UInt8}
    (h : ix.IsCall program tag) (h' : ix.IsCall program' tag') (hlen : tag.length = tag'.length) :
    tag = tag' :=
  (List.prefix_of_prefix_length_le h.2 h'.2 (Nat.le_of_eq hlen)).eq_of_length hlen

/-- The account in position `i`. -/
def accountAt (ix : Instruction) (i : ℕ) : Option Pubkey := ix.accounts[i]?.map AccountMeta.pubkey

end Instruction

/-! ## Program ids -/

namespace Programs

def system : Pubkey := ⟨List.replicate 32 0, rfl⟩

def token : Pubkey :=
  ⟨[6, 221, 246, 225, 215, 101, 161, 147, 217, 203, 225, 70, 206, 235, 121, 172, 28, 180,
    133, 237, 95, 91, 55, 145, 58, 140, 245, 133, 126, 255, 0, 169], rfl⟩

/-- `TokenzQdBNbLqP5VEhdkAS6EPFLC1PHnBqCXEpPxuEb`. -/
def token2022 : Pubkey :=
  ⟨[6, 221, 246, 225, 238, 117, 143, 222, 24, 66, 93, 188, 228, 108, 205, 218, 182, 26, 252,
    77, 131, 185, 13, 39, 254, 189, 249, 40, 216, 161, 139, 252], rfl⟩

def computeBudget : Pubkey :=
  ⟨[3, 6, 70, 111, 229, 33, 23, 50, 255, 236, 173, 186, 114, 195, 155, 231, 188, 140, 229,
    187, 197, 247, 18, 107, 44, 67, 155, 58, 64, 0, 0, 0], rfl⟩

def sysvarInstructions : Pubkey :=
  ⟨[6, 167, 213, 23, 24, 123, 209, 102, 53, 218, 212, 4, 85, 253, 194, 192, 193, 36, 198,
    143, 33, 86, 117, 165, 219, 186, 203, 95, 8, 0, 0, 0], rfl⟩

def klend : Pubkey :=
  ⟨[4, 178, 172, 177, 18, 88, 204, 227, 104, 44, 65, 139, 168, 114, 255, 61, 249, 17, 2,
    113, 47, 21, 175, 18, 182, 190, 105, 179, 67, 91, 0, 8], rfl⟩

def save : Pubkey :=
  ⟨[6, 155, 139, 152, 90, 171, 83, 42, 69, 9, 13, 232, 85, 127, 205, 220, 190, 108, 183,
    239, 199, 58, 10, 101, 176, 111, 146, 3, 93, 183, 62, 236], rfl⟩

/-- `ATokenGPvbdGVxr1b2hvZbsiqW5xWH25efTNsLJA8knL`, decoded. -/
def associatedToken : Pubkey :=
  ⟨[140, 151, 37, 143, 78, 36, 137, 241, 187, 61, 16, 41, 20, 142, 13, 131, 11, 90, 19, 153,
    218, 255, 16, 132, 4, 142, 123, 216, 219, 233, 248, 89], rfl⟩

/-- `FarmsPZpWu9i7Kky8tPN37rs2TpmMrAZrC7S7vJa91Hr`, decoded. -/
def kfarms : Pubkey :=
  ⟨[216, 176, 16, 23, 99, 211, 229, 31, 18, 110, 97, 86, 222, 133, 222, 140, 97, 48, 89, 184,
    68, 104, 208, 218, 63, 232, 162, 162, 37, 28, 199, 1], rfl⟩

def marginfi : Pubkey :=
  ⟨[5, 48, 122, 214, 69, 75, 188, 94, 30, 78, 146, 5, 146, 83, 161, 139, 184, 200, 134,
    140, 88, 166, 49, 46, 200, 106, 57, 230, 34, 78, 55, 59], rfl⟩

end Programs

/-! ## Program-derived addresses -/

/-- The two outside functions an address derivation calls: SHA-256 and whether 32 bytes
decompress to a point of the curve. -/
structure PdaHash where
  sha256 : List UInt8 → Pubkey
  onCurve : Pubkey → Bool

namespace PdaHash

/-- A stand-in that keeps the first 32 bytes of what is hashed, all of it off the curve. -/
def prefixHash : PdaHash where
  sha256 := fun bytes => ⟨leBytes 32 (ofLeBytes bytes), length_leBytes _ _⟩
  onCurve := fun _ => false

/-- The address for one bump. -/
def candidate (h : PdaHash) (seeds : List (List UInt8)) (programId : Pubkey) (bump : ℕ) :
    Pubkey :=
  h.sha256 (seeds.flatten ++ [UInt8.ofNat bump] ++ programId.bytes ++
    "ProgramDerivedAddress".toUTF8.toList)

/-- `find_program_address`: the first bump, from 255 down, whose hash is off the curve. -/
def findProgramAddress (h : PdaHash) (seeds : List (List UInt8)) (programId : Pubkey) :
    Pubkey × UInt8 :=
  match (List.range 256).reverse.find? fun bump => !h.onCurve (h.candidate seeds programId bump)
    with
  | some bump => (h.candidate seeds programId bump, UInt8.ofNat bump)
  | none => (Pubkey.default, 0)

def getAssociatedTokenAddress (h : PdaHash) (owner mint tokenProgram : Pubkey) : Pubkey :=
  (h.findProgramAddress [owner.bytes, tokenProgram.bytes, mint.bytes]
    Programs.associatedToken).1

/-- Klend referrer token state: `["referrer_acc", referrer, reserve]`. -/
def klendReferrerTokenState (h : PdaHash) (referrer reserve : Pubkey) : Pubkey :=
  (h.findProgramAddress ["referrer_acc".toUTF8.toList, referrer.bytes, reserve.bytes]
    Programs.klend).1

end PdaHash

/-! ## Instructions of no protocol -/

/-- SPL Associated Token Account `CreateIdempotent`. -/
def createAssociatedTokenAccountIdempotent (h : PdaHash)
    (payer owner mint tokenProgram : Pubkey) : Instruction where
  programId := Programs.associatedToken
  accounts := [
    .new payer true,
    .new (h.getAssociatedTokenAddress owner mint tokenProgram) false,
    .newReadonly owner false,
    .newReadonly mint false,
    .newReadonly Programs.system false,
    .newReadonly tokenProgram false]
  data := [1]

/-- ComputeBudget `SetComputeUnitLimit`. -/
def computeUnitLimit (units : UInt32) : Instruction :=
  ⟨Programs.computeBudget, [], 2 :: leBytes 4 units.toNat⟩

/-- ComputeBudget `SetComputeUnitPrice`. -/
def computeUnitPrice (microLamports : UInt64) : Instruction :=
  ⟨Programs.computeBudget, [], 3 :: leBytes 8 microLamports.toNat⟩

/-- The two compute-budget instructions every full plan starts with. -/
def computeBudgetIxs (cuLimit : UInt32) (cuPrice : UInt64) : List LabeledIx :=
  [⟨"ComputeBudget:SetComputeUnitLimit", computeUnitLimit cuLimit⟩,
    ⟨"ComputeBudget:SetComputeUnitPrice", computeUnitPrice cuPrice⟩]

/-- A plan is a list of labelled instructions; the label carries no meaning on the wire. -/
abbrev Plan := List LabeledIx

end Grokbotliq
