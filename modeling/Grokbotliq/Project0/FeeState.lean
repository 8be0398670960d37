import Grokbotliq.Framework.MachineInt
import Grokbotliq.Project0.Health

/-!
# The fee state of Project 0

The account that holds the liquidation fee, with or without its discriminator in front, and the
conversion of that fee from an `I80F48` to basis points.

The conversion saturates its product but not the addition that rounds it, so it is exact up to
the largest fee whose scaled value leaves room for the rounding and overflows above
(`convertsExactly_iff`).  The parser asks for a discriminator only where the buffer is long
enough for one: an account that is cut off by at most eight bytes is read as one without, eight
bytes off (`framesRight_iff`).

That the condition on the framing is needed is shown by overwriting what stands in the place of
the fee: whatever else a cut account holds, it comes out differently with zero bits there than
with one bits (`parseFeeState_reads_cut`), so it is not rejected for its length.
-/

namespace Grokbotliq.Project0

open MachineInt Wire

/-! ## Fees -/

/-- Sixteen bytes, an `i128` with 48 fractional bits, least significant first. -/
structure I80F48 where
  bytes : List UInt8
  size : bytes.length = 16

namespace I80F48

def fracBits : ℕ := 48

/-- `i128::from_le_bytes`. -/
def raw (v : I80F48) : ℤ := asI128 (ofLeBytes v.bytes)

/-- `i80f48_le_to_bps`.  In a build that does not check for overflow the sum wraps. -/
def toBps (checks : Bool) (v : I80F48) : Outcome P0Error UInt16 := do
  if v.raw < 0 then .err (.feeState "negative fee")
  else
    let sum ← addI128 checks (satMulI128 v.raw 10000) (2 ^ (fracBits - 1))
    let bps := sum >>> fracBits
    if 65535 < bps then .err (.feeState "fee bps overflow")
    else return truncU16 bps

/-- The fee in basis points, rounded half up. -/
def exactBps (v : I80F48) : ℤ := (v.raw * 10000 + 2 ^ 47) / 2 ^ 48

/-- A negative fee is an error, one that fits 16 bits is returned, and a larger one is an
error. -/
structure ConvertsExactly (checks : Bool) (v : I80F48) : Prop where
  negative : v.raw < 0 → ∃ e, v.toBps checks = .err e
  fits : 0 ≤ v.raw → v.exactBps ≤ 65535 →
    ∃ b, v.toBps checks = .ok b ∧ (b.toNat : ℤ) = v.exactBps
  large : 0 ≤ v.raw → 65535 < v.exactBps → ∃ e, v.toBps checks = .err e

/-- The scaled fee leaves room for the half that rounds it. -/
def Rounds (v : I80F48) : Prop := v.raw * 10000 + 2 ^ 47 < 2 ^ 127

instance (v : I80F48) : Decidable v.Rounds := inferInstanceAs (Decidable (_ < _))

variable (v : I80F48)

lemma raw_lt : v.raw < 2 ^ 127 := by
  have hlt := ofLeBytes_lt v.bytes
  rw [v.size] at hlt
  rw [raw, asI128]
  split_ifs <;> omega

lemma toBps_of_neg {checks : Bool} (h : v.raw < 0) :
    v.toBps checks = .err (.feeState "negative fee") := if_pos h

/-- With room for the rounding both builds compute the fee. -/
lemma toBps_of_rounds {checks : Bool} (hpos : 0 ≤ v.raw) (h : v.Rounds) :
    v.toBps checks =
      if 65535 < v.exactBps then .err (.feeState "fee bps overflow")
      else .ok (truncU16 v.exactBps) := by
  rw [Rounds] at h
  have hsat : satMulI128 v.raw 10000 = v.raw * 10000 := by
    rw [satMulI128]
    omega
  have hfits : FitsI128 (v.raw * 10000 + 2 ^ (fracBits - 1)) := by
    rw [fracBits]
    constructor <;> omega
  rw [toBps, if_neg (not_lt.2 hpos), hsat, addI128_of_fits checks hfits, Outcome.ok_bind]
  simp only [Int.shiftRight_eq_div_pow]
  rfl

/-- Without it the sum overflows, and where it wraps the fee is lost. -/
lemma toBps_of_not_rounds {checks : Bool} (h : ¬ v.Rounds) :
    v.toBps checks = if checks then .panic else .ok 0 := by
  rw [Rounds, not_lt] at h
  have hpos : ¬ v.raw < 0 := by omega
  have hsat : 2 ^ 127 ≤ satMulI128 v.raw 10000 + 2 ^ (fracBits - 1) ∧
      satMulI128 v.raw 10000 + 2 ^ (fracBits - 1) < 2 ^ 127 + 2 ^ 47 := by
    rw [satMulI128, fracBits]
    omega
  obtain ⟨hlow, hhigh⟩ := hsat
  rw [toBps, if_neg hpos, addI128]
  cases checks
  · have hwrap : (satMulI128 v.raw 10000 + 2 ^ (fracBits - 1)).bmod (2 ^ 128) =
        satMulI128 v.raw 10000 + 2 ^ (fracBits - 1) - 2 ^ 128 := by
      rw [← Int.sub_bmod_right]
      exact Int.bmod_eq_of_le (by omega) (by omega)
    -- the wrapped sum is a multiple of `2 ^ 16` after the shift
    have hshift : (satMulI128 v.raw 10000 + 2 ^ (fracBits - 1) - 2 ^ 128) >>> fracBits =
        -2 ^ 79 := by
      rw [Int.shiftRight_eq_div_pow, fracBits]
      rw [fracBits] at hlow hhigh
      omega
    simp only [Bool.false_eq_true, if_false, Outcome.ok_bind, hwrap, hshift]
    rfl
  · have hpanic : (checked FitsI128 (satMulI128 v.raw 10000 + 2 ^ (fracBits - 1)) :
        Outcome P0Error ℤ) = .panic := if_neg fun hfits => absurd hfits.2 (not_lt.2 hlow)
    simp only [if_true, hpanic, Outcome.panic_bind]

/-- **When the conversion is exact**, in both builds: as long as the rounding has room. -/
theorem convertsExactly_iff (checks : Bool) (v : I80F48) : v.ConvertsExactly checks ↔ v.Rounds := by
  constructor
  · intro hexact
    by_contra hround
    have hvalue : v.toBps checks = if checks then .panic else .ok 0 :=
      v.toBps_of_not_rounds hround
    rw [Rounds, not_lt] at hround
    have hlarge : 65535 < v.exactBps := by
      rw [exactBps]
      omega
    obtain ⟨e, he⟩ := hexact.large (by omega) hlarge
    rw [hvalue] at he
    cases checks <;> exact absurd he (by simp)
  · intro hround
    refine ⟨fun hneg => ⟨_, v.toBps_of_neg hneg⟩, fun hpos hfits => ?_, fun hpos hlarge => ?_⟩
    · rw [v.toBps_of_rounds hpos hround, if_neg (not_lt.2 hfits)]
      refine ⟨_, rfl, ?_⟩
      have hnonneg : 0 ≤ v.exactBps := by
        rw [exactBps]
        omega
      rw [truncU16, UInt16.toNat_ofNat']
      omega
    · rw [v.toBps_of_rounds hpos hround, if_pos hlarge]
      exact ⟨_, rfl⟩

def zero : I80F48 := ⟨List.replicate 16 0, rfl⟩

lemma toBps_zero {checks : Bool} : zero.toBps checks = .ok 0 := by
  cases checks <;> decide +kernel

/-- The largest negative number. -/
def minusUlp : I80F48 := ⟨List.replicate 16 255, rfl⟩

/-- The largest fee the bytes can hold. -/
def largest : I80F48 := ⟨List.replicate 15 255 ++ [127], rfl⟩

/-- It overflows, or comes out as no fee at all. -/
theorem largest_is_no_fee :
    largest.raw = 2 ^ 127 - 1 ∧ 65535 < largest.exactBps ∧ largest.toBps true = .panic ∧
      largest.toBps false = .ok 0 ∧ ∀ checks, ¬ largest.ConvertsExactly checks := by
  have hround : ¬ largest.Rounds := by decide
  have hlarge : 65535 < largest.exactBps := by decide
  refine ⟨by decide, hlarge, largest.toBps_of_not_rounds hround,
    largest.toBps_of_not_rounds hround, fun checks hexact => ?_⟩
  obtain ⟨e, he⟩ := hexact.large (by decide) hlarge
  rw [largest.toBps_of_not_rounds hround] at he
  cases checks <;> exact absurd he (by simp)

end I80F48

/-! ## The account -/

namespace AccountDisc

def feeState : List UInt8 := [63, 224, 16, 85, 193, 36, 235, 220]

end AccountDisc

structure FeeStateView where
  liquidationMaxFeeBps : UInt16
  liquidationFlatSolFeeLamports : UInt64
  globalFeeWallet : Pubkey
  paused : Bool
  deriving DecidableEq

/-! Offsets within the body. -/

namespace Off

def globalFeeWallet : ℕ := 64

def liquidationMaxFee : ℕ := 112

def panicState : ℕ := 160

def liquidationFlatSolFee : ℕ := 200

def v1Len : ℕ := 256

end Off

/-- `data.get(start..start + width)`, or the error. -/
def getBytes (data : List UInt8) (start width : ℕ) (message : String) :
    Outcome P0Error (List UInt8) :=
  if start + width ≤ data.length then .ok ((data.drop start).take width)
  else .err (.feeState message)

/-- `data.get(i)`, or the error. -/
def getByte (data : List UInt8) (i : ℕ) (message : String) : Outcome P0Error UInt8 :=
  match data[i]? with
  | some b => .ok b
  | none => .err (.feeState message)

def readPubkey (data : List UInt8) (start : ℕ) : Outcome P0Error Pubkey := do
  let bytes ← getBytes data start 32 "truncated pubkey"
  if h : bytes.length = 32 then .ok ⟨bytes, h⟩ else .panic

/-- The fee in the sixteen bytes from `start` on. -/
def readFee (data : List UInt8) (start : ℕ) : Outcome P0Error I80F48 := do
  let bytes ← getBytes data start 16 "missing liquidation_max_fee"
  if h : bytes.length = 16 then .ok ⟨bytes, h⟩ else .panic

/-- The fields of a body. -/
def parseFeeStateBody (checks : Bool) (body : List UInt8) : Outcome P0Error FeeStateView := do
  let fee ← readFee body Off.liquidationMaxFee
  let liquidationMaxFeeBps ← fee.toBps checks
  let flat ← getBytes body Off.liquidationFlatSolFee 4 "missing flat fee"
  let globalFeeWallet ← readPubkey body Off.globalFeeWallet
  let pauseFlags ← getByte body Off.panicState "missing panic_state"
  return {
    liquidationMaxFeeBps := liquidationMaxFeeBps
    liquidationFlatSolFeeLamports := UInt64.ofNat (ofLeBytes flat)
    globalFeeWallet := globalFeeWallet
    paused := pauseFlags &&& 1 != 0 }

/-- `parse_fee_state`: the body of the account, found by length first and discriminator second,
and its fields. -/
def parseFeeState (checks : Bool) (data : List UInt8) : Outcome P0Error FeeStateView :=
  if 8 + Off.v1Len ≤ data.length ∧ data.take 8 = AccountDisc.feeState then
    parseFeeStateBody checks (data.drop 8)
  else if Off.v1Len ≤ data.length then parseFeeStateBody checks data
  else if 8 ≤ data.length ∧ data.take 8 = AccountDisc.feeState then
    .err (.feeState "body too short after disc")
  else .err (.feeState "too short")

/-! ## The two framings -/

/-- An account and its bare body are read alike, and an account whose body is too short is
rejected without a look at what it holds. -/
structure FramesRight (checks : Bool) (data : List UInt8) : Prop where
  bare : Off.v1Len ≤ data.length → ¬ AccountDisc.feeState <+: data →
    parseFeeState checks (AccountDisc.feeState ++ data) = parseFeeState checks data
  rejected : AccountDisc.feeState <+: data → data.length < 8 + Off.v1Len →
    ∃ e, parseFeeState checks data = .err e
  unread : AccountDisc.feeState <+: data → data.length < 8 + Off.v1Len →
    ∀ other, AccountDisc.feeState <+: other → other.length = data.length →
      parseFeeState checks other = parseFeeState checks data

/-- The account is cut off, by so little that what is left has the length of a body. -/
def CutToBody (data : List UInt8) : Prop :=
  AccountDisc.feeState <+: data ∧ Off.v1Len ≤ data.length ∧ data.length < 8 + Off.v1Len

instance (data : List UInt8) : Decidable (CutToBody data) :=
  inferInstanceAs (Decidable (_ ∧ _ ∧ _))

variable {checks : Bool}

lemma take_eight_eq_iff {data : List UInt8} :
    data.take 8 = AccountDisc.feeState ↔ AccountDisc.feeState <+: data := by
  constructor
  · intro htake
    rw [← htake]
    exact List.take_prefix 8 data
  · rintro ⟨body, rfl⟩
    rfl

lemma parseFeeState_disc {body : List UInt8} (h : Off.v1Len ≤ body.length) :
    parseFeeState checks (AccountDisc.feeState ++ body) = parseFeeStateBody checks body := by
  have hlen : 8 + Off.v1Len ≤ (AccountDisc.feeState ++ body).length := by
    rw [List.length_append]
    exact Nat.add_le_add_left h 8
  rw [parseFeeState, if_pos ⟨hlen, rfl⟩]
  rfl

/-- A long buffer without a discriminator is a body, and so is a cut account. -/
lemma parseFeeState_of_body {data : List UInt8} (hlen : Off.v1Len ≤ data.length)
    (h : AccountDisc.feeState <+: data → data.length < 8 + Off.v1Len) :
    parseFeeState checks data = parseFeeStateBody checks data := by
  have hnot : ¬ (8 + Off.v1Len ≤ data.length ∧ data.take 8 = AccountDisc.feeState) := by
    rintro ⟨hlong, htake⟩
    exact absurd (h (take_eight_eq_iff.1 htake)) (Nat.not_lt.2 hlong)
  rw [parseFeeState, if_neg hnot, if_pos hlen]

lemma parseFeeState_of_short {data : List UInt8} (hdisc : AccountDisc.feeState <+: data)
    (hlen : data.length < Off.v1Len) :
    parseFeeState checks data = .err (.feeState "body too short after disc") := by
  have height : 8 ≤ data.length := hdisc.length_le
  rw [parseFeeState, if_neg fun h => absurd h.1 (by omega), if_neg (Nat.not_le.2 hlen),
    if_pos ⟨height, take_eight_eq_iff.2 hdisc⟩]

lemma getBytes_of_le {data : List UInt8} {start width : ℕ} {message : String}
    (h : start + width ≤ data.length) :
    getBytes data start width message = .ok ((data.drop start).take width) := if_pos h

/-- A fee in a body that is long enough. -/
lemma readFee_eq {body : List UInt8} (h : Off.v1Len ≤ body.length) (fee : I80F48)
    (hfee : (body.drop Off.liquidationMaxFee).take 16 = fee.bytes) :
    readFee body Off.liquidationMaxFee = .ok fee := by
  have hin : Off.liquidationMaxFee + 16 ≤ body.length := by
    rw [Off.v1Len] at h
    rw [Off.liquidationMaxFee]
    omega
  rw [readFee, getBytes_of_le hin, Outcome.ok_bind, hfee, dif_pos fee.size]

/-- A body that is long enough is read exactly when its fee is. -/
lemma exists_parseFeeStateBody_eq {body : List UInt8} (h : Off.v1Len ≤ body.length)
    (fee : I80F48) (hfee : (body.drop Off.liquidationMaxFee).take 16 = fee.bytes) :
    ∃ view : UInt16 → FeeStateView,
      parseFeeStateBody checks body = fee.toBps checks >>= fun bps => .ok (view bps) := by
  rw [Off.v1Len] at h
  have hflat : Off.liquidationFlatSolFee + 4 ≤ body.length := by
    rw [Off.liquidationFlatSolFee]
    omega
  have hwallet : Off.globalFeeWallet + 32 ≤ body.length := by
    rw [Off.globalFeeWallet]
    omega
  have hkey : ((body.drop Off.globalFeeWallet).take 32).length = 32 := by
    rw [List.length_take, List.length_drop]
    omega
  have hpanic : Off.panicState < body.length := by
    rw [Off.panicState]
    omega
  rw [parseFeeStateBody, readFee_eq h fee hfee, Outcome.ok_bind, getBytes_of_le hflat, readPubkey,
    getBytes_of_le hwallet, Outcome.ok_bind, dif_pos hkey, getByte,
    List.getElem?_eq_getElem hpanic]
  exact ⟨_, rfl⟩

/-- The buffer with sixteen equal bytes in the place of the fee. -/
def overwriteFee (data : List UInt8) (b : UInt8) : List UInt8 :=
  data.take Off.liquidationMaxFee ++ (List.replicate 16 b ++ data.drop (Off.liquidationMaxFee + 16))

section Overwrite

variable {data : List UInt8} (hcut : CutToBody data) (b : UInt8)
include hcut

lemma length_overwriteFee : (overwriteFee data b).length = data.length := by
  have hlen := hcut.2.1
  rw [Off.v1Len] at hlen
  simp only [overwriteFee, List.length_append, List.length_take, List.length_drop,
    List.length_replicate, Off.liquidationMaxFee]
  omega

lemma cutToBody_overwriteFee : CutToBody (overwriteFee data b) := by
  have hkeep : AccountDisc.feeState <+: data.take Off.liquidationMaxFee :=
    List.prefix_take_iff.2 ⟨hcut.1, by decide⟩
  refine ⟨hkeep.trans (List.prefix_append _ _), ?_⟩
  rw [length_overwriteFee hcut b]
  exact hcut.2

/-- A cut account is read as a body, with the bytes that stand in the place of the fee. -/
lemma exists_parseFeeState_overwriteFee (fee : I80F48) (hfee : fee.bytes = List.replicate 16 b) :
    ∃ view : UInt16 → FeeStateView,
      parseFeeState checks (overwriteFee data b) =
        fee.toBps checks >>= fun bps => .ok (view bps) := by
  have hcut' := cutToBody_overwriteFee hcut b
  have hlen := hcut.2.1
  have hfront : (data.take Off.liquidationMaxFee).length = Off.liquidationMaxFee := by
    rw [List.length_take, Nat.min_eq_left]
    exact le_trans (by decide) hlen
  have hbytes : ((overwriteFee data b).drop Off.liquidationMaxFee).take 16 = fee.bytes := by
    rw [overwriteFee, List.drop_left' hfront, List.take_left' List.length_replicate, hfee]
  rw [parseFeeState_of_body hcut'.2.1 fun _ => hcut'.2.2]
  exact exists_parseFeeStateBody_eq hcut'.2.1 fee hbytes

end Overwrite

/-- What a cut account holds decides whether it is rejected: without a fee it is not, with a
negative one it is. -/
lemma parseFeeState_reads_cut {data : List UInt8} (hcut : CutToBody data) :
    parseFeeState checks (overwriteFee data 0) ≠ parseFeeState checks (overwriteFee data 255) := by
  obtain ⟨view, hview⟩ := exists_parseFeeState_overwriteFee hcut 0 I80F48.zero rfl
  obtain ⟨view', hview'⟩ := exists_parseFeeState_overwriteFee hcut 255 I80F48.minusUlp rfl
  rw [hview, hview', I80F48.toBps_zero, I80F48.minusUlp.toBps_of_neg (by decide)]
  simp

/-- **When the two framings are told apart**: unless an account is cut off to the length of a
body. -/
theorem framesRight_iff (checks : Bool) (data : List UInt8) :
    FramesRight checks data ↔ ¬ CutToBody data := by
  constructor
  · intro hright hcut
    have hsame : ∀ b, parseFeeState checks (overwriteFee data b) = parseFeeState checks data :=
      fun b => hright.unread hcut.1 hcut.2.2 _ (cutToBody_overwriteFee hcut b).1
        (length_overwriteFee hcut b)
    exact parseFeeState_reads_cut hcut ((hsame 0).trans (hsame 255).symm)
  · intro hcut
    have hshort : AccountDisc.feeState <+: data → data.length < 8 + Off.v1Len →
        data.length < Off.v1Len := fun hdisc hlen =>
      Nat.lt_of_not_le fun hbody => hcut ⟨hdisc, hbody, hlen⟩
    refine ⟨fun hlen hdisc => ?_, fun hdisc hlen => ?_, fun hdisc hlen other hother hsame => ?_⟩
    · rw [parseFeeState_disc hlen, parseFeeState_of_body hlen fun h => absurd h hdisc]
    · exact ⟨_, parseFeeState_of_short hdisc (hshort hdisc hlen)⟩
    · have hlen' := hshort hdisc hlen
      rw [parseFeeState_of_short hdisc hlen', parseFeeState_of_short hother (hsame ▸ hlen')]

/-- An account of zeros that lacks its last eight bytes. -/
def cutAccount : List UInt8 := AccountDisc.feeState ++ List.replicate 248 0

/-- It is not rejected but read, eight bytes off. -/
theorem cutAccount_is_read :
    (∀ checks, parseFeeState checks cutAccount = .ok ⟨0, 0, Pubkey.default, false⟩) ∧
      CutToBody cutAccount ∧ ∀ checks, ¬ FramesRight checks cutAccount := by
  have hcut : CutToBody cutAccount := by decide +kernel
  have hread : ∀ checks, parseFeeState checks cutAccount =
      .ok ⟨0, 0, Pubkey.default, false⟩ := by decide +kernel
  refine ⟨hread, hcut, fun checks hright => ?_⟩
  obtain ⟨e, he⟩ := hright.rejected hcut.1 hcut.2.2
  rw [hread checks] at he
  exact absurd he (by simp)

end Grokbotliq.Project0
