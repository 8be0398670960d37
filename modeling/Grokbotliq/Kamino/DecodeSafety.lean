import Grokbotliq.Kamino.LiveHealth
import Grokbotliq.Kamino.Planning

/-!
# The decoders never panic

Each decoder compares the length of the account with the end of the last field it reads, so that
every read lies inside.  What they accept is unchecked beyond that: a planning row may give a token
any number of decimals, and the health of the obligation raises ten to it.

Safety of the live decoders follows from one comparison each, and the slots are an induction on
how many are left (`exists_collectSlots_eq_ok`).  The planning row is different: it decodes
without a panic as well, and what it lets through decides whether a later computation panics.
-/

namespace Grokbotliq.Kamino

open MachineInt Wire

variable {data : List UInt8} {off : ℕ}

/-! ## Reads inside the account -/

lemma slice_of_le {stop : ℕ} (hle : off ≤ stop) (h : stop ≤ data.length) :
    slice data off stop = .ok ((data.drop off).take (stop - off)) := if_pos ⟨hle, h⟩

lemma readLe_of_le {w : ℕ} (h : off + w ≤ data.length) :
    readLe data off w = .ok (ofLeBytes ((data.drop off).take w)) := by
  rw [readLe, slice_of_le (Nat.le_add_right _ _) h, Outcome.ok_bind, Nat.add_sub_cancel_left]
  rfl

/-- The key at an offset. -/
def pubkeyAt (data : List UInt8) (off : ℕ) : Pubkey :=
  (Pubkey.fromBytes ((data.drop off).take 32)).getD .default

lemma readPubkey_of_le (h : off + 32 ≤ data.length) :
    readPubkey data off = .ok (pubkeyAt data off) := by
  have hsize : ((data.drop off).take (off + 32 - off)).length = 32 := by
    rw [List.length_take, List.length_drop]
    omega
  rw [readPubkey, slice_of_le (Nat.le_add_right _ _) h, Outcome.ok_bind,
    Pubkey.fromBytes_of_length hsize, pubkeyAt]
  rw [Nat.add_sub_cancel_left] at hsize
  rw [Pubkey.fromBytes_of_length hsize]
  simp only [Nat.add_sub_cancel_left]
  rfl

lemma readByte_of_lt (h : off < data.length) : readByte data off = .ok data[off] := by
  rw [readByte, List.getElem?_eq_getElem h]

/-! ## The live decoders -/

variable (address : Pubkey)

lemma decodeObligationLiveHeader_ne_panic : decodeObligationLiveHeader address data ≠ .panic := by
  rw [decodeObligationLiveHeader]
  split_ifs with hshort hreferrer
  · simp
  · simp (disch := omega) only [readPubkey_of_le, readLe_of_le, readByte_of_lt, Outcome.ok_bind]
    simp
  · simp (disch := omega) only [readPubkey_of_le, readLe_of_le, readByte_of_lt, Outcome.ok_bind]
    simp

lemma exists_collectSlots_eq_ok {α : Type} {slot : ℕ → Outcome DecodeError (Option α)}
    {bound : ℕ} (h : ∀ i < bound, ∃ x, slot i = .ok x) :
    ∀ (count i : ℕ), i + count ≤ bound → ∃ xs, collectSlots slot i count = .ok xs
  | 0, i, _ => ⟨[], rfl⟩
  | count + 1, i, hin => by
      obtain ⟨here, hhere⟩ := h i (by omega)
      obtain ⟨rest, hrest⟩ := exists_collectSlots_eq_ok h count (i + 1) (by omega)
      exact ⟨here.toList ++ rest, by rw [collectSlots, hhere, Outcome.ok_bind, hrest]; rfl⟩

/-- Every slot of an account that is long enough for the borrows. -/
lemma exists_depositSlot_eq_ok (hlong : 2208 ≤ data.length) {i : ℕ} (hi : i < liveMaxDeposits) :
    ∃ x, depositSlot data i = .ok x := by
  have hoff : liveDepositsOffset + i * obligationCollateralSize + 136 ≤ data.length := by
    rw [liveMaxDeposits] at hi
    rw [liveDepositsOffset, obligationCollateralSize]
    omega
  rw [depositSlot]
  simp (disch := omega) only [readPubkey_of_le, readLe_of_le, Outcome.ok_bind]
  split_ifs <;> exact ⟨_, rfl⟩

lemma exists_borrowSlot_eq_ok (hlong : 2208 ≤ data.length) {i : ℕ} (hi : i < liveMaxBorrows) :
    ∃ x, borrowSlot data i = .ok x := by
  have hoff : liveBorrowsOffset + i * obligationLiquiditySize + 200 ≤ data.length := by
    rw [liveMaxBorrows] at hi
    rw [liveBorrowsOffset, obligationLiquiditySize]
    omega
  rw [borrowSlot]
  simp (disch := omega) only [readPubkey_of_le, readLe_of_le, Outcome.ok_bind]
  split_ifs <;> exact ⟨_, rfl⟩

lemma decodeObligationLivePositions_ne_panic :
    decodeObligationLivePositions address data ≠ .panic := by
  intro hpanic
  rcases Outcome.bind_eq_panic.1 hpanic with hheader | ⟨header, -, hbody⟩
  · exact decodeObligationLiveHeader_ne_panic address hheader
  split_ifs at hbody with hshort
  have hlong : 2208 ≤ data.length := by
    rw [liveBorrowsOffset, liveMaxBorrows, obligationLiquiditySize] at hshort
    omega
  obtain ⟨deposits, hdeposits⟩ := exists_collectSlots_eq_ok
    (fun i hi => exists_depositSlot_eq_ok hlong hi) liveMaxDeposits 0 (Nat.zero_add _).le
  obtain ⟨borrows, hborrows⟩ := exists_collectSlots_eq_ok
    (fun i hi => exists_borrowSlot_eq_ok hlong hi) liveMaxBorrows 0 (Nat.zero_add _).le
  rw [hdeposits, Outcome.ok_bind, hborrows, Outcome.ok_bind] at hbody
  cases hbody

lemma decodeReserveLiveVaults_ne_panic : decodeReserveLiveVaults address data ≠ .panic := by
  rw [decodeReserveLiveVaults]
  by_cases hshort : data.length < liveReserveCollateralOffset + 72
  · rw [if_pos hshort]
    simp
  · rw [if_neg hshort]
    rw [liveReserveCollateralOffset] at hshort
    simp (disch := omega) only [liveReserveLiquidityOffset, liveReserveCollateralOffset,
      readPubkey_of_le, readByte_of_lt, Outcome.ok_bind]
    split_ifs with hscope
    · simp
    · simp (disch := omega) only [readPubkey_of_le, Outcome.ok_bind]
      simp

lemma decodeReserveLiveRisk_ne_panic : decodeReserveLiveRisk address data ≠ .panic := by
  rw [decodeReserveLiveRisk]
  by_cases hshort : data.length < min liveReserveDatasize 5256 ∨
      data.length < reserveBorrowFactorPctOffset + 8
  · rw [if_pos hshort]
    simp
  · rw [if_neg hshort]
    have hlong : 5256 ≤ data.length := by
      rw [liveReserveDatasize, not_or] at hshort
      omega
    intro hpanic
    rcases Outcome.bind_eq_panic.1 hpanic with hvaults | ⟨vaults, -, hbody⟩
    · exact decodeReserveLiveVaults_ne_panic address hvaults
    · simp (disch := omega) only [reserveMarketPriceSfOffset, reserveAvailableOffset,
        reserveBorrowedSfOffset, reserveProtocolFeesSfOffset, reserveReferrerFeesSfOffset,
        reservePendingReferrerFeesSfOffset, reserveCollateralMintSupplyOffset,
        reserveLtvPctOffset, reserveLiqThresholdPctOffset, reserveBorrowFactorPctOffset,
        liveReserveConfigOffset, liveReserveLiquidityOffset, liveReserveCollateralOffset,
        readLe_of_le, readByte_of_lt, Outcome.ok_bind] at hbody
      cases hbody

lemma decodeLendingMarketElevationGroups_ne_panic :
    decodeLendingMarketElevationGroups data ≠ .panic := by
  rw [decodeLendingMarketElevationGroups]
  split_ifs with hshort
  · simp
  · have hstep : ∀ map, ∀ i ∈ List.range maxElevationGroups,
        ∃ map', elevationGroupStep data map i = .ok map' := by
      intro map i hi
      have hi : i < 32 := List.mem_range.1 hi
      have hoff : liveMarketElevationGroupsOffset + i * elevationGroupSize + 72 ≤ data.length := by
        rw [liveMarketElevationGroupsOffset, maxElevationGroups, elevationGroupSize] at hshort
        rw [liveMarketElevationGroupsOffset, elevationGroupSize]
        omega
      rw [elevationGroupStep]
      simp (disch := omega) only [readLe_of_le, readByte_of_lt, Outcome.ok_bind]
      split_ifs <;> exact ⟨_, rfl⟩
    obtain ⟨map, hmap⟩ := Outcome.exists_foldlM_eq_ok hstep ∅
    rw [hmap]
    simp

/-! ## The planning row

Whatever its counts say, at most one deposit and one borrow are returned. -/

lemma decodeObligationPlanning_ne_panic : decodeObligationPlanning address data ≠ .panic := by
  rw [decodeObligationPlanning]
  split_ifs with hshort
  · simp
  · simp (disch := omega) only [slice_of_le, readPubkey_of_le, readLe_of_le, readByte_of_lt,
      Outcome.ok_bind]
    split_ifs <;> simp

/-- What is accepted has one deposit and one borrow at most. -/
lemma length_of_decodeObligationPlanning {o : KaminoObligation}
    (h : decodeObligationPlanning address data = .ok o) :
    o.deposits.length ≤ 1 ∧ o.borrows.length ≤ 1 := by
  rw [decodeObligationPlanning] at h
  split_ifs at h with hshort
  simp (disch := omega) only [slice_of_le, readPubkey_of_le, readLe_of_le, readByte_of_lt,
    Outcome.ok_bind, Outcome.pure_eq] at h
  split_ifs at h <;>
    · cases h
      exact ⟨by simp, by simp⟩

/-- No decoder panics on these bytes. -/
structure DecodersReturn (address : Pubkey) (data : List UInt8) : Prop where
  planning : decodeObligationPlanning address data ≠ .panic
  header : decodeObligationLiveHeader address data ≠ .panic
  positions : decodeObligationLivePositions address data ≠ .panic
  vaults : decodeReserveLiveVaults address data ≠ .panic
  risk : decodeReserveLiveRisk address data ≠ .panic
  elevationGroups : decodeLendingMarketElevationGroups data ≠ .panic

/-- **Bytes of any length decode without a panic**, and what the planning decoder accepts has a
health without one exactly when no power of ten that its legs reach overflows. -/
theorem decoders_return_and_health_iff (address : Pubkey) (data : List UInt8) :
    DecodersReturn address data ∧
      ∀ o, decodeObligationPlanning address data = .ok o → ∀ prices : PriceMap,
        (obligationHealth o prices ≠ .panic ↔
          PowersFit prices.get o.depositLegs o.borrowLegs) := by
  constructor
  · exact {
      planning := decodeObligationPlanning_ne_panic address
      header := decodeObligationLiveHeader_ne_panic address
      positions := decodeObligationLivePositions_ne_panic address
      vaults := decodeReserveLiveVaults_ne_panic address
      risk := decodeReserveLiveRisk_ne_panic address
      elevationGroups := decodeLendingMarketElevationGroups_ne_panic }
  · intro o hok prices
    obtain ⟨hdeposits, hborrows⟩ := length_of_decodeObligationPlanning address hok
    apply legsHealth_ne_panic_iff
    · rwa [KaminoObligation.depositLegs, List.length_map]
    · rwa [KaminoObligation.borrowLegs, List.length_map]

/-- A row whose deposit has 39 decimals. -/
def manyDecimals : KaminoObligation :=
  { oneBacksOne with deposits := [⟨.default, .test 1 0, 1000000, 39, 8000⟩] }

/-- The row is accepted, and its health overflows at any price of the deposit. -/
theorem manyDecimals_panics :
    decodeObligationPlanning manyDecimals.address (encodeObligationPlanning manyDecimals) =
        .ok manyDecimals ∧
      obligationHealth manyDecimals (pricePair 1000000000 1000000000) = .panic := by
  constructor
  · exact decode_encodeObligationPlanning manyDecimals
  · decide +kernel

end Grokbotliq.Kamino
