import Grokbotliq.Framework.Positions
import Grokbotliq.Kamino.TxBuilder

/-!
# The pieces of a klend plan

Which instructions occur in each piece of the two plans, how many there can be, and the order
of the assembled flash plan.  An instruction is recognised on the wire, by its program and the
discriminator its data begins with.

The discriminators are told apart by computing them (`disc_injective`), so that an instruction is
of one kind.  A prelude is made of preparations only, and the rest of a plan can be located by
what is not one.
-/

namespace Grokbotliq

namespace Kamino

open Wire

/-! ## Kinds of instructions -/

/-- The klend instructions the planner emits. -/
inductive KlendIx
  | refreshReserve
  | refreshObligation
  | liquidateV2
  | flashBorrow
  | flashRepay
  deriving DecidableEq, Repr

namespace KlendIx

def disc : KlendIx → List UInt8
  | refreshReserve => Disc.refreshReserve
  | refreshObligation => Disc.refreshObligation
  | liquidateV2 => Disc.liquidateV2
  | flashBorrow => Disc.flashBorrow
  | flashRepay => Disc.flashRepay

lemma length_disc (kind : KlendIx) : kind.disc.length = 8 := by cases kind <;> rfl

lemma disc_injective : Function.Injective disc := by
  intro kind kind' h
  cases kind <;> cases kind' <;> first | rfl | exact absurd h (by decide)

/-- The instruction is a klend instruction of this kind. -/
def Is (kind : KlendIx) (l : LabeledIx) : Prop := l.ix.IsCall Programs.klend kind.disc

/-- An instruction is of one kind only. -/
lemma Is.unique {kind kind' : KlendIx} {l : LabeledIx} (h : kind.Is l) (h' : kind'.Is l) :
    kind = kind' :=
  disc_injective (Instruction.IsCall.tag_eq h h'
    ((length_disc kind).trans (length_disc kind').symm))

lemma Is.not_of_ne {kind kind' : KlendIx} {l : LabeledIx} (h : kind.Is l) (hne : kind ≠ kind') :
    ¬ kind'.Is l := fun h' => hne (h.unique h')

end KlendIx

def IsRefreshReserve (l : LabeledIx) : Prop := KlendIx.refreshReserve.Is l

def IsRefreshObligation (l : LabeledIx) : Prop := KlendIx.refreshObligation.Is l

def IsLiquidateV2 (l : LabeledIx) : Prop := KlendIx.liquidateV2.Is l

def IsFlashBorrow (l : LabeledIx) : Prop := KlendIx.flashBorrow.Is l

def IsFlashRepay (l : LabeledIx) : Prop := KlendIx.flashRepay.Is l

def IsCreateIdempotent (l : LabeledIx) : Prop := l.ix.IsCall Programs.associatedToken [1]

/-- The amount a borrow, a liquidation or a repay carries: eight bytes after the
discriminator. -/
def amountOf (l : LabeledIx) : ℕ := ofLeBytes ((l.ix.data.drop 8).take 8)

/-- The one-byte `borrow_instruction_index` of a repay. -/
def borrowIndexOf (l : LabeledIx) : Option ℕ := l.ix.data[16]?.map UInt8.toNat

/-- Neither a borrow, nor a liquidation, nor a repay. -/
def IsPreparation (l : LabeledIx) : Prop :=
  ¬ IsFlashBorrow l ∧ ¬ IsLiquidateV2 l ∧ ¬ IsFlashRepay l

lemma isPreparation_of_program {l : LabeledIx} (h : l.ix.programId ≠ Programs.klend) :
    IsPreparation l :=
  ⟨fun hl => h hl.1, fun hl => h hl.1, fun hl => h hl.1⟩

lemma isPreparation_of_refreshReserve {l : LabeledIx} (h : IsRefreshReserve l) :
    IsPreparation l :=
  ⟨fun hl => (nomatch h.unique hl), fun hl => (nomatch h.unique hl),
    fun hl => (nomatch h.unique hl)⟩

lemma isPreparation_of_refreshObligation {l : LabeledIx} (h : IsRefreshObligation l) :
    IsPreparation l :=
  ⟨fun hl => (nomatch h.unique hl), fun hl => (nomatch h.unique hl),
    fun hl => (nomatch h.unique hl)⟩

lemma not_isCreateIdempotent_of_klend {l : LabeledIx} (h : l.ix.programId = Programs.klend) :
    ¬ IsCreateIdempotent l := by
  intro hl
  have hprograms : Programs.klend ≠ Programs.associatedToken := by decide
  exact hprograms (h.symm.trans hl.1)

/-! ## The single instructions -/

namespace KaminoTxBuildParams

variable (p : KaminoTxBuildParams)

lemma isRefreshReserve_refreshReserveIx (reserve : Pubkey) :
    IsRefreshReserve (p.refreshReserveIx reserve) := by
  unfold refreshReserveIx
  split <;> exact ⟨rfl, List.prefix_refl _⟩

/-- Whatever the overlay says, the account refreshed is the one asked for. -/
lemma accountAt_refreshReserveIx (reserve : Pubkey) :
    (p.refreshReserveIx reserve).ix.accountAt 0 = some reserve := by
  unfold refreshReserveIx
  split
  · rename_i rr hfind
    have hreserve : rr.reserve = reserve := by simpa using List.find?_some hfind
    exact congrArg some hreserve
  · rfl

lemma isRefreshObligation_refreshObligationIx (seen : List Pubkey) :
    IsRefreshObligation (p.refreshObligationIx seen) :=
  ⟨rfl, List.prefix_refl _⟩

lemma isLiquidateV2_liquidateIx : IsLiquidateV2 p.liquidateIx := by
  refine ⟨rfl, ?_⟩
  show Disc.liquidateV2 <+: encodeLiquidateV2Data _ _ _
  simp only [encodeLiquidateV2Data, List.append_assoc]
  exact List.prefix_append _ _

lemma amountOf_liquidateIx : amountOf p.liquidateIx = p.liquidityAmount.toNat := by
  have hdata : (p.liquidateIx.ix.data.drop 8).take 8 = leBytes 8 p.liquidityAmount.toNat := by
    simp [liquidateIx, encodeLiquidateV2Data, Disc.liquidateV2]
  rw [amountOf, hdata, ofLeBytes_leBytes_of_lt p.liquidityAmount.toNat_lt]

end KaminoTxBuildParams

/-- The borrow in the flash plan. -/
def flashBorrowIx (a : FlashBorrowAccounts) (amount : UInt64) : LabeledIx :=
  ⟨"flash_borrow_reserve_liquidity", a.buildIx amount⟩

/-- The repay in the flash plan. -/
def flashRepayIx (a : FlashRepayAccounts) (amount : UInt64) (index : UInt8) : LabeledIx :=
  ⟨"flash_repay_reserve_liquidity", a.buildIx amount index⟩

lemma isFlashBorrow_flashBorrowIx (a : FlashBorrowAccounts) (amount : UInt64) :
    IsFlashBorrow (flashBorrowIx a amount) :=
  ⟨rfl, List.prefix_append _ _⟩

lemma amountOf_flashBorrowIx (a : FlashBorrowAccounts) (amount : UInt64) :
    amountOf (flashBorrowIx a amount) = amount.toNat := by
  have hdata : ((flashBorrowIx a amount).ix.data.drop 8).take 8 = leBytes 8 amount.toNat := by
    simp [flashBorrowIx, FlashBorrowAccounts.buildIx, encodeFlashBorrow, Disc.flashBorrow]
  rw [amountOf, hdata, ofLeBytes_leBytes_of_lt amount.toNat_lt]

lemma isFlashRepay_flashRepayIx (a : FlashRepayAccounts) (amount : UInt64) (index : UInt8) :
    IsFlashRepay (flashRepayIx a amount index) := by
  refine ⟨rfl, ?_⟩
  show Disc.flashRepay <+: encodeFlashRepay _ _
  simp only [encodeFlashRepay, List.append_assoc]
  exact List.prefix_append _ _

lemma amountOf_flashRepayIx (a : FlashRepayAccounts) (amount : UInt64) (index : UInt8) :
    amountOf (flashRepayIx a amount index) = amount.toNat := by
  have hdata : ((flashRepayIx a amount index).ix.data.drop 8).take 8 =
      leBytes 8 amount.toNat := by
    simp [flashRepayIx, FlashRepayAccounts.buildIx, encodeFlashRepay, Disc.flashRepay]
  rw [amountOf, hdata, ofLeBytes_leBytes_of_lt amount.toNat_lt]

lemma borrowIndexOf_flashRepayIx (a : FlashRepayAccounts) (amount : UInt64) (index : UInt8) :
    borrowIndexOf (flashRepayIx a amount index) = some index.toNat := by
  simp [borrowIndexOf, flashRepayIx, FlashRepayAccounts.buildIx, encodeFlashRepay,
    Disc.flashRepay]

/-! ## The pieces -/

lemma isPreparation_of_mem_computeBudgetIxs {limit : UInt32} {price : UInt64} {l : LabeledIx}
    (hl : l ∈ computeBudgetIxs limit price) : IsPreparation l := by
  have hprogram : l.ix.programId = Programs.computeBudget := by
    rcases List.mem_pair.1 hl with rfl | rfl <;> rfl
  have hprograms : Programs.computeBudget ≠ Programs.klend := by decide
  exact isPreparation_of_program (hprogram ▸ hprograms)

lemma isCreateIdempotent_of_mem_ensureAtaIxsFrom {h : PdaHash} {l : LabeledIx} :
    ∀ {specs : List EnsureAta} {seen : List Pubkey},
      l ∈ ensureAtaIxsFrom h seen specs → IsCreateIdempotent l
  | [], _, hl => absurd hl List.not_mem_nil
  | spec :: specs, seen, hl => by
      rw [ensureAtaIxsFrom] at hl
      split_ifs at hl with hseen
      · exact isCreateIdempotent_of_mem_ensureAtaIxsFrom hl
      · rcases List.mem_cons.1 hl with rfl | htail
        · exact ⟨rfl, List.prefix_refl _⟩
        · exact isCreateIdempotent_of_mem_ensureAtaIxsFrom htail

lemma length_ensureAtaIxsFrom_le (h : PdaHash) :
    ∀ (specs : List EnsureAta) (seen : List Pubkey),
      (ensureAtaIxsFrom h seen specs).length ≤ specs.length
  | [], _ => Nat.le_refl _
  | spec :: specs, seen => by
      rw [ensureAtaIxsFrom, List.length_cons]
      split_ifs with hseen
      · exact Nat.le_succ_of_le (length_ensureAtaIxsFrom_le h specs seen)
      · exact Nat.succ_le_succ (length_ensureAtaIxsFrom_le h specs _)

lemma length_firstOccurrences_le :
    ∀ (ks seen : List Pubkey), (firstOccurrences seen ks).length ≤ seen.length + ks.length
  | [], seen => Nat.le_refl _
  | k :: ks, seen => by
      rw [firstOccurrences, List.length_cons]
      split_ifs with hseen
      · exact Nat.le_trans (length_firstOccurrences_le ks seen) (by omega)
      · refine Nat.le_trans (length_firstOccurrences_le ks _) ?_
        rw [List.length_append, List.length_singleton]
        omega

/-- Nothing is lost by keeping first occurrences only. -/
lemma mem_firstOccurrences {k : Pubkey} :
    ∀ {ks seen : List Pubkey}, k ∈ firstOccurrences seen ks ↔ k ∈ seen ∨ k ∈ ks
  | [], seen => by simp [firstOccurrences]
  | x :: ks, seen => by
      rw [firstOccurrences]
      split_ifs with hseen
      · rw [mem_firstOccurrences, List.mem_cons]
        constructor
        · rintro (hk | hk)
          · exact Or.inl hk
          · exact Or.inr (Or.inr hk)
        · rintro (hk | rfl | hk)
          · exact Or.inl hk
          · exact Or.inl hseen
          · exact Or.inr hk
      · rw [mem_firstOccurrences, List.mem_append, List.mem_singleton, List.mem_cons, or_assoc]

namespace KaminoTxBuildParams

variable (h : PdaHash) (p : KaminoTxBuildParams)

lemma isPreparation_of_mem_preludeIxs {l : LabeledIx} (hl : l ∈ p.preludeIxs h) :
    IsPreparation l := by
  rcases List.mem_append.1 hl with hl | hata
  · rcases List.mem_append.1 hl with hbudget | hrefresh
    · exact isPreparation_of_mem_computeBudgetIxs hbudget
    · rcases List.mem_append.1 hrefresh with hreserve | hobligation
      · obtain ⟨reserve, -, rfl⟩ := List.mem_map.1 hreserve
        exact isPreparation_of_refreshReserve (p.isRefreshReserve_refreshReserveIx reserve)
      · obtain rfl := List.mem_singleton.1 hobligation
        exact isPreparation_of_refreshObligation (p.isRefreshObligation_refreshObligationIx _)
  · have hcreate : IsCreateIdempotent l := isCreateIdempotent_of_mem_ensureAtaIxsFrom hata
    have hprograms : Programs.associatedToken ≠ Programs.klend := by decide
    exact isPreparation_of_program (hcreate.1 ▸ hprograms)

/-- The prelude of a plan with at most thirteen reserves to refresh and three token accounts
is short enough for a one-byte index. -/
lemma length_preludeIxs_lt (hreserves : p.uniqueRefreshReserveKeys.length ≤ 13)
    (hatas : p.ensureAtas.length ≤ 3) : (p.preludeIxs h).length < 256 := by
  have hata := length_ensureAtaIxsFrom_le h p.ensureAtas []
  simp only [preludeIxs, computeBudgetIxs, refreshIxs, ensureAtaIxs, List.length_append,
    List.length_map, List.length_cons, List.length_nil]
  omega

lemma length_uniqueRefreshReserveKeys_le {n : ℕ} (hoverlay : p.refreshReserves.length ≤ n)
    (hreserves : (p.depositReserves ++ p.borrowReserves).length ≤ n) :
    p.uniqueRefreshReserveKeys.length ≤ n := by
  unfold uniqueRefreshReserveKeys
  split_ifs with hempty
  · have hlen := length_firstOccurrences_le
      (p.refreshReserves.map RefreshReserveAccounts.reserve) []
    rw [List.length_map, List.length_nil] at hlen
    omega
  · have hlen := length_firstOccurrences_le (p.depositReserves ++ p.borrowReserves) []
    rw [List.length_nil] at hlen
    omega

/-- After the borrow, its reserve and the withdraw reserve are refreshed. -/
lemma postFlashRefreshIxs_eq (flashReserve : Pubkey) :
    ∃ refreshed, p.postFlashRefreshIxs flashReserve =
        refreshed.map p.refreshReserveIx ++ [p.refreshObligationIx refreshed] ∧
      flashReserve ∈ refreshed ∧ p.liquidate.withdrawReserve ∈ refreshed := by
  refine ⟨_, rfl, ?_, ?_⟩
  · split_ifs <;> simp
  · split_ifs with hother
    · simp
    · simpa using hother

end KaminoTxBuildParams

end Kamino

end Grokbotliq
