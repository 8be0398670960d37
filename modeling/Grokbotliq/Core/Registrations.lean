import Grokbotliq.Core.CandidateIndex

/-!
# What a price move wakes

What a caller of the index thinks of is not its tables but the calls made so far: an account's
trigger stands registered when it is in the list of the latest `set_triggers` for that account,
and no later call has replaced, cleared or removed it.  `registered_exec_iff` says that the
per-account table holds just these, and with the representation invariant and the scan's
specification this makes `onPriceUpdate_exact`: a price move returns the standing triggers it
crosses, each once.
-/

namespace Grokbotliq.CandidateIndex

/-- After these calls `t` is in the list `account` last registered, and that list has not been
replaced, cleared or removed since. -/
def StandsRegistered (ops : List Op) (account : Pubkey) (t : PriceTrigger) : Prop :=
  ∃ pre ts post, ops = pre ++ .setTriggers account ts :: post ∧ t ∈ ts ∧
    ∀ op ∈ post, ¬ op.Replaces account

lemma not_standsRegistered_nil (account : Pubkey) (t : PriceTrigger) :
    ¬ StandsRegistered [] account t := by
  rintro ⟨pre, ts, post, h, -⟩
  exact absurd h (by simp)

/-- One more call: it registers the trigger itself, or leaves what stood before it. -/
lemma standsRegistered_concat (ops : List Op) (op : Op) (account : Pubkey) (t : PriceTrigger) :
    StandsRegistered (ops ++ [op]) account t ↔
      (∃ ts, op = .setTriggers account ts ∧ t ∈ ts) ∨
        (¬ op.Replaces account ∧ StandsRegistered ops account t) := by
  constructor
  · rintro ⟨pre, ts, post, heq, ht, hpost⟩
    -- The registration is the last call itself, or stands before it and is not replaced by it.
    rcases List.eq_nil_or_concat post with rfl | ⟨post', last, rfl⟩
    · obtain ⟨-, hop⟩ := List.append_inj' heq rfl
      exact Or.inl ⟨ts, (List.cons.inj hop).1, ht⟩
    · have hsplit : ops ++ [op] = (pre ++ .setTriggers account ts :: post') ++ [last] := by
        rw [heq, List.concat_eq_append, List.append_assoc, List.cons_append]
      obtain ⟨hops, hlast⟩ := List.append_inj' hsplit rfl
      obtain rfl : op = last := (List.cons.inj hlast).1
      have hnot : ∀ o ∈ post' ++ [op], ¬ o.Replaces account := by
        rw [← List.concat_eq_append]
        exact hpost
      refine Or.inr ⟨hnot op (by simp), pre, ts, post', hops, ht, fun o ho => ?_⟩
      exact hnot o (List.mem_append_left _ ho)
  · rintro (⟨ts, rfl, ht⟩ | ⟨hop, pre, ts, post, rfl, ht, hpost⟩)
    · exact ⟨ops, ts, [], rfl, ht, fun o ho => absurd ho List.not_mem_nil⟩
    · refine ⟨pre, ts, post ++ [op], by simp, ht, fun o ho => ?_⟩
      rcases List.mem_append.1 ho with ho | ho
      · exact hpost o ho
      · rwa [List.mem_singleton.1 ho]

/-- The per-account table after one call. -/
lemma lookup_apply (ix : CandidateIndex) (op : Op) (account : Pubkey) (t : PriceTrigger) :
    (∃ ts, (ix.apply op).accountTriggers.lookup account = some ts ∧ t ∈ ts) ↔
      (∃ ts, op = .setTriggers account ts ∧ t ∈ ts) ∨
        (¬ op.Replaces account ∧ ∃ ts, ix.accountTriggers.lookup account = some ts ∧ t ∈ ts) := by
  -- A call that replaces the triggers of the account leaves what it gives them, and no old one.
  by_cases hop : op.Replaces account
  · cases op with
    | upsertCandidate m => exact hop.elim
    | removeCandidate a =>
        obtain rfl : a = account := hop
        simp [apply, removeCandidate, clearTriggers_lookup, Op.Replaces]
    | setTriggers a ts =>
        obtain rfl : a = account := hop
        simp [apply, setTriggers, insertTriggers, Op.Replaces]
    | clearTriggers a =>
        obtain rfl : a = account := hop
        simp [apply, clearTriggers_lookup, Op.Replaces]
  · have hset : ¬ ∃ ts, op = .setTriggers account ts ∧ t ∈ ts := by
      rintro ⟨ts, rfl, -⟩
      exact hop rfl
    rw [apply_accountTriggers ix op hop]
    simp [hop, hset]

/-- The per-account table holds what the calls leave registered. -/
theorem registered_exec_iff (ops : List Op) (account : Pubkey) (t : PriceTrigger) :
    (∃ ts, (Runs.exec apply new ops).accountTriggers.lookup account = some ts ∧ t ∈ ts) ↔
      StandsRegistered ops account t := by
  induction ops using List.reverseRecOn with
  | nil => simp [new, AList.lookup_empty, not_standsRegistered_nil]
  | append_singleton ops op ih =>
      have hstep : Runs.exec apply new (ops ++ [op]) = (Runs.exec apply new ops).apply op := by
        rw [Runs.exec_append, Runs.exec_cons, Runs.exec_nil]
      rw [hstep, lookup_apply, standsRegistered_concat, ih]

/-- **A price move wakes the standing triggers it crosses, each once.**  After any calls, the
scan of a move from `prev` to `new` returns without duplicates, for each account, the triggers
of its latest list on this asset that are newly crossed, whatever the order it meets them in. -/
theorem onPriceUpdate_exact (ops : List Op) (order : ScanOrder) (asset : Pubkey)
    (prev new : PriceFx) :
    ((Runs.exec apply CandidateIndex.new ops).onPriceUpdate order asset prev new).Nodup ∧
      ∀ h, h ∈ (Runs.exec apply CandidateIndex.new ops).onPriceUpdate order asset prev new ↔
        h.asset = asset ∧ h.newPrice = new ∧ Crosses h.side h.triggerPrice prev new ∧
          ∃ t, StandsRegistered ops h.account t ∧
            t.asset = asset ∧ t.side = h.side ∧ t.triggerPrice = h.triggerPrice := by
  refine ⟨nodup_onPriceUpdate _ order asset prev new, fun h => ?_⟩
  rw [mem_onPriceUpdate, consistent_exec ops asset h.side h.triggerPrice h.account]
  have hstands : Registered (Runs.exec apply CandidateIndex.new ops).accountTriggers asset h.side
      h.triggerPrice h.account ↔ ∃ t, StandsRegistered ops h.account t ∧
        t.asset = asset ∧ t.side = h.side ∧ t.triggerPrice = h.triggerPrice := by
    constructor
    · rintro ⟨ts, hts, t, ht, hasset, hside, hprice⟩
      exact ⟨t, (registered_exec_iff ops h.account t).1 ⟨ts, hts, ht⟩, hasset.symm, hside.symm,
        hprice.symm⟩
    · rintro ⟨t, hstand, hasset, hside, hprice⟩
      obtain ⟨ts, hts, ht⟩ := (registered_exec_iff ops h.account t).2 hstand
      exact ⟨ts, hts, t, ht, hasset.symm, hside.symm, hprice.symm⟩
  rw [hstands]

end Grokbotliq.CandidateIndex
