import Grokbotliq.Kamino.Accounts

/-!
# Kamino plans

The two Kamino instruction lists, assembled from pieces of variable length: the refreshes, the
token accounts to create, the flash borrow and repay around the liquidation, and the swaps.

The loops that skip what they have seen keep the source's recursion.  Which lists they come to is
shown where it is needed: `Kamino/Refresh.lean` for the reserves and `Execution/PlanAtas.lean` for
the token accounts.
-/

namespace Grokbotliq.Kamino

/-- Per-reserve accounts for `refresh_reserve`. -/
structure RefreshReserveAccounts where
  reserve : Pubkey
  lendingMarket : Pubkey
  pythOracle : Pubkey
  switchboardPrice : Pubkey
  switchboardTwap : Pubkey
  scopePrices : Pubkey
  deriving DecidableEq

/-- Spec for `CreateIdempotent` before flash/liquidate. -/
structure EnsureAta where
  payer : Pubkey
  owner : Pubkey
  mint : Pubkey
  tokenProgram : Pubkey
  deriving DecidableEq

namespace EnsureAta

def toLabeledIx (h : PdaHash) (s : EnsureAta) : LabeledIx where
  label := "CreateIdempotentAssociatedTokenAccount"
  ix := createAssociatedTokenAccountIdempotent h s.payer s.owner s.mint s.tokenProgram

def ataAddress (h : PdaHash) (s : EnsureAta) : Pubkey :=
  h.getAssociatedTokenAddress s.owner s.mint s.tokenProgram

end EnsureAta

structure KaminoTxBuildParams where
  obligation : Pubkey
  depositReserves : List Pubkey
  borrowReserves : List Pubkey
  liquidate : LiquidateV2Accounts
  liquidityAmount : UInt64
  minAcceptableReceived : UInt64
  maxAllowedLtvOverridePercent : UInt64
  cuLimit : UInt32
  cuPrice : UInt64
  flash : Option (FlashBorrowAccounts × FlashRepayAccounts)
  refreshReserves : List RefreshReserveAccounts
  referrerTokenStates : List Pubkey
  ensureAtas : List EnsureAta

/-- The loop of `ensure_ata_ixs`: specs whose address has been seen are skipped. -/
def ensureAtaIxsFrom (h : PdaHash) : List Pubkey → List EnsureAta → List LabeledIx
  | _, [] => []
  | seen, spec :: specs =>
    let ata := spec.ataAddress h
    if ata ∈ seen then ensureAtaIxsFrom h seen specs
    else spec.toLabeledIx h :: ensureAtaIxsFrom h (seen ++ [ata]) specs

/-- The keys in order of first occurrence: the `seen` loops of the source. -/
def firstOccurrences : List Pubkey → List Pubkey → List Pubkey
  | seen, [] => seen
  | seen, k :: ks =>
    if k ∈ seen then firstOccurrences seen ks else firstOccurrences (seen ++ [k]) ks

/-- Klend expects its program id for unused oracle slots. -/
def fixOraclePubkey (k : Pubkey) : Pubkey :=
  if k.bytes = List.replicate 32 0 then Programs.klend else k

namespace KaminoTxBuildParams

def ensureAtaIxs (h : PdaHash) (p : KaminoTxBuildParams) : List LabeledIx :=
  ensureAtaIxsFrom h [] p.ensureAtas

/-- A single `refresh_reserve`, with the overlay's market and oracles where it has them. -/
def refreshReserveIx (p : KaminoTxBuildParams) (reserve : Pubkey) : LabeledIx :=
  match p.refreshReserves.find? fun r => r.reserve = reserve with
  | some rr =>
    { label := "refresh_reserve"
      ix := ⟨Programs.klend,
        [ .new rr.reserve false,
          .newReadonly rr.lendingMarket false,
          .newReadonly (fixOraclePubkey rr.pythOracle) false,
          .newReadonly (fixOraclePubkey rr.switchboardPrice) false,
          .newReadonly (fixOraclePubkey rr.switchboardTwap) false,
          .newReadonly (fixOraclePubkey rr.scopePrices) false ],
        encodeRefreshReserve⟩ }
  | none =>
    { label := "refresh_reserve"
      ix := ⟨Programs.klend,
        [ .new reserve false,
          .newReadonly p.liquidate.lendingMarket false,
          .newReadonly Programs.klend false,
          .newReadonly Programs.klend false,
          .newReadonly Programs.klend false,
          .newReadonly Programs.klend false ],
        encodeRefreshReserve⟩ }

/-- The reserves `refresh_obligation` lists: every deposit, then every borrow, without
removing duplicates; the refreshed ones where the obligation has neither. -/
def obligationReserves (p : KaminoTxBuildParams) (seenReserves : List Pubkey) : List Pubkey :=
  if p.depositReserves ++ p.borrowReserves = [] then seenReserves
  else p.depositReserves ++ p.borrowReserves

def refreshObligationIx (p : KaminoTxBuildParams) (seenReserves : List Pubkey) : LabeledIx where
  label := "refresh_obligation"
  ix := ⟨Programs.klend,
    [.newReadonly p.liquidate.lendingMarket false, .new p.obligation false] ++
      (p.obligationReserves seenReserves).map (fun r => .new r false) ++
      p.referrerTokenStates.map (fun r => .new r false),
    encodeRefreshObligation⟩

def uniqueRefreshReserveKeys (p : KaminoTxBuildParams) : List Pubkey :=
  if p.refreshReserves ≠ [] then
    firstOccurrences [] (p.refreshReserves.map RefreshReserveAccounts.reserve)
  else firstOccurrences [] (p.depositReserves ++ p.borrowReserves)

def refreshIxs (p : KaminoTxBuildParams) : List LabeledIx :=
  let seen := p.uniqueRefreshReserveKeys
  seen.map p.refreshReserveIx ++ [p.refreshObligationIx seen]

/-- Refreshes between `flash_borrow` and `liquidate_v2`: the borrow marks its reserve stale. -/
def postFlashRefreshIxs (p : KaminoTxBuildParams) (flashReserve : Pubkey) : List LabeledIx :=
  let withdraw := p.liquidate.withdrawReserve
  let refreshed :=
    if withdraw ≠ flashReserve ∧ withdraw ∉ [flashReserve] then [flashReserve, withdraw]
    else [flashReserve]
  refreshed.map p.refreshReserveIx ++ [p.refreshObligationIx refreshed]

def liquidateIx (p : KaminoTxBuildParams) : LabeledIx where
  label := "liquidate_obligation_and_redeem_reserve_collateral_v2"
  ix := ⟨Programs.klend, p.liquidate.metas.map AccountMetaDesc.toMeta,
    encodeLiquidateV2Data p.liquidityAmount p.minAcceptableReceived
      p.maxAllowedLtvOverridePercent⟩

/-- What both plans begin with: compute budget, refreshes, token accounts. -/
def preludeIxs (h : PdaHash) (p : KaminoTxBuildParams) : List LabeledIx :=
  computeBudgetIxs p.cuLimit p.cuPrice ++ p.refreshIxs ++ p.ensureAtaIxs h

end KaminoTxBuildParams

/-- Inventory path: CU → refresh → ATAs → liquidate_v2 → optional swaps. -/
def buildInventoryTx (h : PdaHash) (p : KaminoTxBuildParams) (swaps : List LabeledIx) : Plan :=
  p.preludeIxs h ++ [p.liquidateIx] ++ swaps

/-- Flash path: CU → refresh → ATAs → flash_borrow → refreshes → liquidate_v2 → swaps →
flash_repay, the repay carrying the borrow's position. -/
def buildFlashTx (h : PdaHash) (p : KaminoTxBuildParams) (swaps : List LabeledIx) :
    Option Plan :=
  match p.flash with
  | none => none
  | some (borrowAcc, repayAcc) =>
    let prelude := p.preludeIxs h
    let borrowIdx := UInt8.ofNat prelude.length
    some (prelude ++
      [⟨"flash_borrow_reserve_liquidity", borrowAcc.buildIx p.liquidityAmount⟩] ++
      p.postFlashRefreshIxs borrowAcc.reserve ++ [p.liquidateIx] ++ swaps ++
      [⟨"flash_repay_reserve_liquidity", repayAcc.buildIx p.liquidityAmount borrowIdx⟩])

end Grokbotliq.Kamino
