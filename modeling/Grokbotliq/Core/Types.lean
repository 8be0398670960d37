import Grokbotliq.Framework.KeyMap
import Grokbotliq.Framework.Wire

/-!
# The shared types of `liq-core`

Pubkeys carry their length, prices their bound: a value of either type is one the code can
hold.  Slots, write versions and clock readings are only compared and subtracted with
saturation at zero, so they are natural numbers; amounts that are serialised or wrap are the
machine integers themselves.
-/

namespace Grokbotliq

open Wire

/-- 32-byte Solana pubkey. -/
structure Pubkey where
  bytes : List UInt8
  size : bytes.length = 32
  deriving DecidableEq

namespace Pubkey

/-- `Pubkey::from_bytes`: exactly 32 bytes, or nothing. -/
def fromBytes (bs : List UInt8) : Option Pubkey :=
  if h : bs.length = 32 then some ⟨bs, h⟩ else none

lemma fromBytes_of_length {bs : List UInt8} (h : bs.length = 32) :
    fromBytes bs = some ⟨bs, h⟩ := dif_pos h

lemma fromBytes_bytes (k : Pubkey) : fromBytes k.bytes = some k := fromBytes_of_length k.size

/-- `Pubkey::test`: 24 bytes of `tag`, then the little-endian index. -/
def test (tag : UInt8) (index : UInt64) : Pubkey where
  bytes := List.replicate 24 tag ++ leBytes 8 index.toNat
  size := by rw [List.length_append, List.length_replicate, length_leBytes]

lemma test_injective (tag : UInt8) : Function.Injective (test tag) := by
  intro i j hij
  have hbytes : leBytes 8 i.toNat = leBytes 8 j.toNat :=
    List.append_cancel_left (congrArg bytes hij)
  have hnat := congrArg ofLeBytes hbytes
  rw [ofLeBytes_leBytes_of_lt i.toNat_lt, ofLeBytes_leBytes_of_lt j.toNat_lt] at hnat
  exact UInt64.toNat_inj.1 hnat

/-- `Pubkey::default`: all zero. -/
def default : Pubkey := ⟨List.replicate 32 0, List.length_replicate⟩

lemma bytes_eq_zero_iff (k : Pubkey) : k.bytes = List.replicate 32 0 ↔ k = default := by
  constructor
  · intro hbytes
    cases k
    cases hbytes
    rfl
  · rintro rfl
    rfl

/-- The first byte, `pk.0[0]`. -/
def firstByte (k : Pubkey) : UInt8 := k.bytes.headD 0

/-- The last eight bytes as a little-endian integer, `u64::from_le_bytes(pk.0[24..32])`. -/
def tailIndex (k : Pubkey) : UInt64 := UInt64.ofNat (ofLeBytes (k.bytes.drop 24))

end Pubkey

/-- The lending protocols. -/
inductive Protocol
  | kamino
  | project0
  | save
  deriving DecidableEq, Repr

/-- Urgency bands of the candidate index. -/
inductive CandidateBand
  | critical
  | hot
  | warm
  | cold
  deriving DecidableEq, Repr

def CandidateBand.asStr : CandidateBand → String
  | critical => "CRITICAL"
  | hot => "HOT"
  | warm => "WARM"
  | cold => "COLD"

/-- Where an account or price update came from. -/
inductive UpdateSource
  | geyser
  | rpc
  | replay
  | mock
  | computed
  deriving DecidableEq, Repr

/-- Fixed-point USD price with 9 decimal places (`1e9` is one dollar), a `u128`. -/
structure PriceFx where
  raw : ℕ
  raw_lt : raw < 2 ^ 128
  deriving DecidableEq

/-- `PriceFx(raw)` for a literal. -/
def PriceFx.ofNat (raw : ℕ) : PriceFx := ⟨raw % 2 ^ 128, Nat.mod_lt _ (Nat.two_pow_pos 128)⟩

lemma PriceFx.raw_injective : Function.Injective PriceFx.raw := by
  rintro ⟨p, _⟩ ⟨q, _⟩ rfl
  rfl

instance : LinearOrder PriceFx := LinearOrder.lift' PriceFx.raw PriceFx.raw_injective

/-- Health factor with 6 decimal places (`1e6` is 1.0). -/
structure HealthFx where
  raw : ℤ
  deriving DecidableEq

/-- The counters of `liq-telemetry` that the modelled code bumps; they wrap. -/
structure Metrics where
  oracleUpdates : UInt64
  triggerHits : UInt64
  candidatesWoken : UInt64
  liquidationsAttempted : UInt64
  liquidationsFailed : UInt64
  dryRunSkips : UInt64
  circuitBreakerTrips : UInt64
  deriving DecidableEq

namespace Metrics

def zero : Metrics := ⟨0, 0, 0, 0, 0, 0, 0⟩

/-- One applied oracle update with that many hits. -/
def countUpdate (m : Metrics) (hits : ℕ) : Metrics :=
  { m with
    oracleUpdates := m.oracleUpdates + 1
    triggerHits := m.triggerHits + UInt64.ofNat hits
    candidatesWoken := m.candidatesWoken + UInt64.ofNat hits }

end Metrics

end Grokbotliq
