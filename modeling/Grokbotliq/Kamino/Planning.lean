import Grokbotliq.Kamino.DecodeIdl
import Grokbotliq.Kamino.Health

/-!
# The planning format of an obligation

The fixtures hold an obligation as a packed row of 191 bytes.  The row counts the deposits and the
borrows but has room for the first of each, and the decoder takes the counts only as there being
any: what comes back from an encoded obligation is the obligation with at most one deposit and at
most one borrow.

The row is a layout like those of the IDL, and the encoder writes that layout
(`encodeObligationPlanning_eq`), so reading it back goes by `Layout.At` too.  What a count of more
than one loses is stated as what is kept, `firstLegs`.
-/

namespace Grokbotliq.Kamino

open Wire Layout Idl

/-- `b"KOBLplan"`. -/
def obligationMagic : List UInt8 := [75, 79, 66, 76, 112, 108, 97, 110]

def decodeObligationPlanning (address : Pubkey) (data : List UInt8) :
    Outcome DecodeError KaminoObligation := do
  if data.length < 191 then .err .tooShort
  else
    let magic ← slice data 0 8
    if magic ≠ obligationMagic then .err .badMagic
    else
      let version ← readByte data 8
      if version ≠ 1 then .err .badVersion
      else
        let nDeposits ← readByte data 9
        let nBorrows ← readByte data 10
        let depositedAmount ← readLe data 11 8
        let liqThresholdBps ← readLe data 19 2
        let depositDecimals ← readByte data 21
        let depositMint ← readPubkey data 22
        let depositReserve ← readPubkey data 54
        let borrowedAmount ← readLe data 86 8
        let borrowDecimals ← readByte data 94
        let borrowMint ← readPubkey data 95
        let borrowReserve ← readPubkey data 127
        let market ← readPubkey data 159
        return {
          address := address
          market := market
          deposits :=
            if 0 < nDeposits then
              [⟨depositReserve, depositMint, .ofNat depositedAmount, depositDecimals,
                .ofNat liqThresholdBps⟩]
            else []
          borrows :=
            if 0 < nBorrows then
              [⟨borrowReserve, borrowMint, .ofNat borrowedAmount, borrowDecimals⟩]
            else [] }

namespace KaminoObligation

/-- The deposit that is written; all zero without one. -/
def firstDeposit (o : KaminoObligation) : KaminoDeposit :=
  o.deposits.head?.getD ⟨.default, .default, 0, 0, 0⟩

/-- The borrow that is written; all zero without one. -/
def firstBorrow (o : KaminoObligation) : KaminoBorrow :=
  o.borrows.head?.getD ⟨.default, .default, 0, 0⟩

/-- `len().min(255) as u8`. -/
def countByte (n : ℕ) : UInt8 := .ofNat (min n 255)

end KaminoObligation

open KaminoObligation

def encodeObligationPlanning (o : KaminoObligation) : List UInt8 :=
  obligationMagic ++ [1] ++ [countByte o.deposits.length] ++ [countByte o.borrows.length] ++
    leBytes 8 o.firstDeposit.depositedAmount.toNat ++
    leBytes 2 o.firstDeposit.liqThresholdBps.toNat ++ [o.firstDeposit.decimals] ++
    o.firstDeposit.mint.bytes ++ o.firstDeposit.reserve.bytes ++
    leBytes 8 o.firstBorrow.borrowedAmount.toNat ++ [o.firstBorrow.decimals] ++
    o.firstBorrow.mint.bytes ++ o.firstBorrow.reserve.bytes ++ o.market.bytes

/-! ## The row as a layout -/

/-- The fields of the row, in order. -/
def planningFields : List (String × Layout KaminoObligation) := [
  ("magic", .blob 8 (fun _ => obligationMagic) fun _ => rfl),
  ("version", u8.of fun _ => 1),
  ("n_deposits", u8.of fun o => countByte o.deposits.length),
  ("n_borrows", u8.of fun o => countByte o.borrows.length),
  ("deposited_amount", u64.of fun o => o.firstDeposit.depositedAmount),
  ("liq_threshold_bps", u16.of fun o => o.firstDeposit.liqThresholdBps),
  ("deposit_decimals", u8.of fun o => o.firstDeposit.decimals),
  ("deposit_mint", publicKey.of fun o => o.firstDeposit.mint),
  ("deposit_reserve", publicKey.of fun o => o.firstDeposit.reserve),
  ("borrowed_amount", u64.of fun o => o.firstBorrow.borrowedAmount),
  ("borrow_decimals", u8.of fun o => o.firstBorrow.decimals),
  ("borrow_mint", publicKey.of fun o => o.firstBorrow.mint),
  ("borrow_reserve", publicKey.of fun o => o.firstBorrow.reserve),
  ("market", publicKey.of fun o => o.market)]

lemma leBytes_one (b : UInt8) : leBytes 1 b.toNat = [b] := by
  rw [leBytes, leBytes, Nat.mod_eq_of_lt b.toNat_lt, UInt8.ofNat_toNat]

lemma encodeObligationPlanning_eq (o : KaminoObligation) :
    encodeObligationPlanning o = (record planningFields).encode o := by
  have hu8 : ∀ b : UInt8, u8.encode b = [b] := leBytes_one
  have hfields : (record planningFields).encode o =
      obligationMagic ++ (u8.encode 1 ++ (u8.encode (countByte o.deposits.length) ++
        (u8.encode (countByte o.borrows.length) ++
        (leBytes 8 o.firstDeposit.depositedAmount.toNat ++
        (leBytes 2 o.firstDeposit.liqThresholdBps.toNat ++ (u8.encode o.firstDeposit.decimals ++
        (o.firstDeposit.mint.bytes ++ (o.firstDeposit.reserve.bytes ++
        (leBytes 8 o.firstBorrow.borrowedAmount.toNat ++ (u8.encode o.firstBorrow.decimals ++
        (o.firstBorrow.mint.bytes ++ (o.firstBorrow.reserve.bytes ++
        (o.market.bytes ++ []))))))))))))) := rfl
  rw [hfields, encodeObligationPlanning]
  simp only [hu8, List.append_assoc, List.append_nil]

lemma at_encodeObligationPlanning (o : KaminoObligation) :
    At (encodeObligationPlanning o) 0 (record planningFields) o := by
  rw [encodeObligationPlanning_eq]
  exact at_append [] (record planningFields) o

/-! ## Reading the row back -/

lemma countByte_pos_iff (n : ℕ) : 0 < countByte n ↔ n ≠ 0 := by
  rw [UInt8.lt_iff_toNat_lt, countByte, UInt8.toNat_ofNat']
  have hsmall : min n 255 % 2 ^ 8 = min n 255 := Nat.mod_eq_of_lt (by omega)
  rw [hsmall]
  show 0 < min n 255 ↔ _
  omega

/-- What is left of the legs of an obligation. -/
def firstLegs (o : KaminoObligation) : KaminoObligation :=
  { o with deposits := o.deposits.take 1, borrows := o.borrows.take 1 }

/-- A count that only says whether there is a first element. -/
lemma ite_countByte {α : Type} (xs : List α) (dflt : α) :
    (if 0 < countByte xs.length then [xs.head?.getD dflt] else []) = xs.take 1 := by
  cases xs with
  | nil =>
      rw [if_neg (by rw [countByte_pos_iff]; simp)]
      rfl
  | cons x xs =>
      rw [if_pos (by rw [countByte_pos_iff]; simp)]
      rfl

lemma decode_encodeObligationPlanning (o : KaminoObligation) :
    decodeObligationPlanning o.address (encodeObligationPlanning o) = .ok (firstLegs o) := by
  have h := at_encodeObligationPlanning o
  have hlen : (encodeObligationPlanning o).length = 191 := by
    rw [encodeObligationPlanning_eq, Layout.length_encode]
    rfl
  generalize encodeObligationPlanning o = data at h hlen ⊢
  have hmagic : slice data 0 8 = .ok obligationMagic := slice_of_at (h.field "magic" rfl)
  have hversion : readByte data 8 = .ok 1 := readU8_of_at (h.field "version" rfl)
  have hnDeposits : readByte data 9 = .ok (countByte o.deposits.length) :=
    readU8_of_at (h.field "n_deposits" rfl)
  have hnBorrows : readByte data 10 = .ok (countByte o.borrows.length) :=
    readU8_of_at (h.field "n_borrows" rfl)
  have hdeposited : readLe data 11 8 = .ok o.firstDeposit.depositedAmount.toNat :=
    readU64_of_at (h.field "deposited_amount" rfl)
  have hthreshold : readLe data 19 2 = .ok o.firstDeposit.liqThresholdBps.toNat :=
    readLe_of_at 2 (fun o => o.firstDeposit.liqThresholdBps.toNat)
      (h.field "liq_threshold_bps" rfl) o.firstDeposit.liqThresholdBps.toNat_lt
  have hdepositDecimals : readByte data 21 = .ok o.firstDeposit.decimals :=
    readU8_of_at (h.field "deposit_decimals" rfl)
  have hdepositMint : readPubkey data 22 = .ok o.firstDeposit.mint :=
    readPubkey_of_at (h.field "deposit_mint" rfl)
  have hdepositReserve : readPubkey data 54 = .ok o.firstDeposit.reserve :=
    readPubkey_of_at (h.field "deposit_reserve" rfl)
  have hborrowed : readLe data 86 8 = .ok o.firstBorrow.borrowedAmount.toNat :=
    readU64_of_at (h.field "borrowed_amount" rfl)
  have hborrowDecimals : readByte data 94 = .ok o.firstBorrow.decimals :=
    readU8_of_at (h.field "borrow_decimals" rfl)
  have hborrowMint : readPubkey data 95 = .ok o.firstBorrow.mint :=
    readPubkey_of_at (h.field "borrow_mint" rfl)
  have hborrowReserve : readPubkey data 127 = .ok o.firstBorrow.reserve :=
    readPubkey_of_at (h.field "borrow_reserve" rfl)
  have hmarket : readPubkey data 159 = .ok o.market := readPubkey_of_at (h.field "market" rfl)
  -- The row has room for one deposit and one borrow; a list comes back as its first.
  have hdeposits := ite_countByte o.deposits ⟨.default, .default, 0, 0, 0⟩
  have hborrows := ite_countByte o.borrows ⟨.default, .default, 0, 0⟩
  have hlong : ¬ data.length < 191 := by omega
  simp only [decodeObligationPlanning, if_neg hlong, hmagic, hversion, hnDeposits, hnBorrows,
    hdeposited, hthreshold, hdepositDecimals, hdepositMint, hdepositReserve, hborrowed,
    hborrowDecimals, hborrowMint, hborrowReserve, hmarket, Outcome.ok_bind, Outcome.pure_eq,
    ne_eq, not_true_eq_false, if_false, UInt64.ofNat_toNat, UInt16.ofNat_toNat]
  rw [firstLegs, ← hdeposits, ← hborrows]
  rfl

/-- **What the format keeps.**  Decoding an encoded obligation gives back its address, its market
and its first deposit and borrow: the obligation itself exactly when it has no more than one of
each, and then with the same health at all prices. -/
theorem planning_roundtrip (o : KaminoObligation) :
    decodeObligationPlanning o.address (encodeObligationPlanning o) = .ok (firstLegs o) ∧
      (firstLegs o = o ↔ o.deposits.length ≤ 1 ∧ o.borrows.length ≤ 1) ∧
      (o.deposits.length ≤ 1 → o.borrows.length ≤ 1 →
        ∀ prices, obligationHealth (firstLegs o) prices = obligationHealth o prices) := by
  have hsame : firstLegs o = o ↔ o.deposits.length ≤ 1 ∧ o.borrows.length ≤ 1 := by
    cases o
    simp only [firstLegs, KaminoObligation.mk.injEq, List.take_eq_self_iff, true_and]
  refine ⟨decode_encodeObligationPlanning o, hsame, ?_⟩
  intro hdeposits hborrows prices
  rw [hsame.2 ⟨hdeposits, hborrows⟩]

/-- Two deposits against one borrow. -/
def twoDeposits : KaminoObligation :=
  { oneBacksOne with deposits := oneBacksOne.deposits ++ oneBacksOne.deposits }

/-- One of the two deposits is lost, without an error, and what was covered is liquidatable. -/
theorem planning_loses_deposit :
    ∃ o, decodeObligationPlanning twoDeposits.address (encodeObligationPlanning twoDeposits) =
        .ok o ∧ o.deposits.length < twoDeposits.deposits.length ∧
      isLiquidatable twoDeposits (pricePair 1000000000 1000000000) = .ok false ∧
      isLiquidatable o (pricePair 1000000000 1000000000) = .ok true := by
  refine ⟨_, decode_encodeObligationPlanning twoDeposits, by decide, ?_, ?_⟩
  · decide +kernel
  · decide +kernel

end Grokbotliq.Kamino
