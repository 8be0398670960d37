import Grokbotliq.Core.OraclePath

/-!
# Which triggers wake their account

The index is written (`set_triggers` and the other calls) while prices arrive, in any order.
`woken_iff_sometime_safe` says when a registered trigger wakes its account: with the price now
at or past the trigger, it has been returned as a hit since its registration exactly if the
book showed, at the registration or at some moment since, a price on the safe side of it.

The path reports *crossings*.  The first price of an asset only seeds the book, and a trigger
registered when its price is already past is not reported until the price has come back: such
a trigger is past without ever having been crossed (`first_price_wakes_nobody`).

The proof watches one trigger of one account.  While the run leaves the account's triggers alone,
an event returns the trigger exactly if it takes the book from the safe side to the other
(`mem_eventHits_iff`), and a book that ends past the trigger after a safe moment must have gone
across on the way (`woken_iff_of_watching`, by induction on the run).
-/

namespace Grokbotliq

/-! ## Sides of a trigger -/

namespace CandidateIndex

/-- The price is at the trigger or beyond it, on the unhealthy side. -/
def AtOrPast (s : TriggerSide) (trigger price : PriceFx) : Prop :=
  match s with
  | .collateralDown => price ≤ trigger
  | .debtUp => trigger ≤ price

instance (s : TriggerSide) (trigger price : PriceFx) : Decidable (AtOrPast s trigger price) :=
  match s with
  | .collateralDown => inferInstanceAs (Decidable (_ ≤ _))
  | .debtUp => inferInstanceAs (Decidable (_ ≤ _))

/-- A trigger is crossed by a move from the safe side to the other. -/
lemma crosses_iff {s : TriggerSide} {trigger prev new : PriceFx} :
    Crosses s trigger prev new ↔ ¬ AtOrPast s trigger prev ∧ AtOrPast s trigger new := by
  cases s with
  | collateralDown => simp [Crosses, AtOrPast, and_comm]
  | debtUp => simp [Crosses, AtOrPast]

end CandidateIndex

/-! ## Runs of the path and the index -/

/-- One event: a call that writes the index, or an oracle update. -/
inductive PathEvent
  | index (op : CandidateIndex.Op)
  | oracle (u : OracleUpdate)

namespace OracleTriggerPath

open CandidateIndex

def step (p : OracleTriggerPath) : PathEvent → OracleTriggerPath
  | .index op => { p with index := p.index.apply op }
  | .oracle u => p.update u

/-- What an event returns. -/
def eventHits (p : OracleTriggerPath) : PathEvent → List TriggerHit
  | .index _ => []
  | .oracle u => p.hits u

/-- All hits of a run. -/
def runHits (p : OracleTriggerPath) : List PathEvent → List TriggerHit
  | [] => []
  | e :: es => p.eventHits e ++ (p.step e).runHits es

/-- Some update of the run returned `account` and the trigger as a hit. -/
def Woken (p : OracleTriggerPath) (account : Pubkey) (t : PriceTrigger)
    (es : List PathEvent) : Prop :=
  ∃ h ∈ p.runHits es, h.account = account ∧ h.asset = t.asset ∧ h.side = t.side ∧
    h.triggerPrice = t.triggerPrice

instance (p : OracleTriggerPath) (account : Pubkey) (t : PriceTrigger) (es : List PathEvent) :
    Decidable (p.Woken account t es) :=
  inferInstanceAs (Decidable (∃ h ∈ p.runHits es, _))

/-- The book shows a price on the safe side of the trigger. -/
def ShowsSafe (t : PriceTrigger) (p : OracleTriggerPath) : Prop :=
  ∃ price, p.prices.lookup t.asset = some price ∧ ¬ AtOrPast t.side t.triggerPrice price

/-- The book shows a price at or past the trigger. -/
def ShowsPast (t : PriceTrigger) (p : OracleTriggerPath) : Prop :=
  ∃ price, p.prices.lookup t.asset = some price ∧ AtOrPast t.side t.triggerPrice price

/-- The event does not touch the triggers of `account`. -/
def Spares (account : Pubkey) : PathEvent → Prop
  | .index op => ¬ op.Replaces account
  | .oracle _ => True

/-- `t` is registered for `account` in an index whose two copies agree. -/
structure Watching (account : Pubkey) (t : PriceTrigger) (p : OracleTriggerPath) : Prop where
  consistent : p.index.Consistent
  registered : Registered p.index.accountTriggers t.asset t.side t.triggerPrice account

lemma consistent_step (p : OracleTriggerPath) (e : PathEvent) (h : p.index.Consistent) :
    (p.step e).index.Consistent := by
  cases e with
  | index op => exact consistent_apply p.index op h
  | oracle u =>
      rw [step, update_index]
      exact h

lemma watching_step {p : OracleTriggerPath} {account : Pubkey} {t : PriceTrigger}
    {e : PathEvent} (h : Watching account t p) (he : Spares account e) :
    Watching account t (p.step e) := by
  refine ⟨consistent_step p e h.consistent, ?_⟩
  cases e with
  | index op =>
      obtain ⟨ts, hts, hlisted⟩ := h.registered
      exact ⟨ts, (apply_accountTriggers p.index op he).trans hts, hlisted⟩
  | oracle u =>
      rw [step, update_index]
      exact h.registered

/-- `set_triggers` registers each trigger of its list. -/
lemma watching_setTriggers (p : OracleTriggerPath) (hp : p.index.Consistent) (account : Pubkey)
    {ts : List PriceTrigger} {t : PriceTrigger} (ht : t ∈ ts) :
    Watching account t (p.step (.index (.setTriggers account ts))) := by
  refine ⟨consistent_apply p.index _ hp, ts, ?_, t, ht, rfl, rfl, rfl⟩
  exact (KeyMap.lookup_insert_eq_ite ..).trans (if_pos rfl)

/-! ## Crossings -/

/-- A watched trigger is returned by an event exactly if the event takes the book across it. -/
lemma mem_eventHits_iff {p : OracleTriggerPath} {account : Pubkey} {t : PriceTrigger}
    (hp : Watching account t p) (e : PathEvent) :
    (∃ h ∈ p.eventHits e, h.account = account ∧ h.asset = t.asset ∧ h.side = t.side ∧
        h.triggerPrice = t.triggerPrice) ↔
      ShowsSafe t p ∧ ShowsPast t (p.step e) := by
  cases e with
  | index op =>
      -- A call of the index moves no price: it wakes nobody and the book goes on showing the same.
      constructor
      · rintro ⟨h, hmem, -⟩
        exact absurd hmem List.not_mem_nil
      · rintro ⟨⟨price, hprice, hsafe⟩, price', hprice', hpast⟩
        obtain rfl : price = price' := Option.some.inj (hprice.symm.trans hprice')
        exact absurd hpast hsafe
  | oracle u =>
      simp only [eventHits, hits_eq, mem_onPriceUpdate, crosses_iff, step, ShowsPast,
        update_prices]
      constructor
      · rintro ⟨h, ⟨hasset, hnew, ⟨hprev, hpast⟩, -⟩, -, ha, hs, htrig⟩
        rw [hs, htrig] at hprev hpast
        have hu : t.asset = u.asset := ha.symm.trans hasset
        refine ⟨?_, u.newPrice, by rw [if_pos hu], hpast⟩
        cases hbook : p.prices.lookup u.asset with
        | none =>
            -- the first price of the asset: the move is from the price to itself
            rw [hbook, Option.getD_none] at hprev
            exact absurd hpast hprev
        | some prev =>
            rw [hbook, Option.getD_some] at hprev
            exact ⟨prev, by rw [hu, hbook], hprev⟩
      -- Only an update of the trigger's own asset can take it from safe to past.
      · rintro ⟨⟨prev, hprev, hsafe⟩, price, hprice, hpast⟩
        by_cases hu : t.asset = u.asset
        · rw [if_pos hu, Option.some.injEq] at hprice
          subst hprice
          rw [hu] at hprev
          have hindexed := (hp.consistent t.asset t.side t.triggerPrice account).2 hp.registered
          refine ⟨⟨account, u.asset, t.side, t.triggerPrice, u.newPrice⟩, ⟨rfl, rfl, ?_, ?_⟩,
            rfl, hu.symm, rfl, rfl⟩
          · rw [hprev, Option.getD_some]
            exact ⟨hsafe, hpast⟩
          · exact hu ▸ hindexed
        · rw [if_neg hu] at hprice
          obtain rfl : prev = price := Option.some.inj (hprev.symm.trans hprice)
          exact absurd hpast hsafe

lemma showsPast_step_of_not_safe {p : OracleTriggerPath} {t : PriceTrigger} (e : PathEvent)
    (h : ShowsSafe t p) (hnot : ¬ ShowsSafe t (p.step e)) : ShowsPast t (p.step e) := by
  obtain ⟨price, hprice, hsafe⟩ := h
  have hstays : ∃ price', (p.step e).prices.lookup t.asset = some price' := by
    cases e with
    | index op => exact ⟨price, hprice⟩
    | oracle u =>
        rw [step, update_prices]
        split
        · exact ⟨_, rfl⟩
        · exact ⟨price, hprice⟩
  obtain ⟨price', hprice'⟩ := hstays
  exact ⟨price', hprice', by_contra fun hpast => hnot ⟨price', hprice', hpast⟩⟩

/-- From any state in which the trigger is watched, over any run that leaves the account's
triggers alone and ends with the price at or past the trigger. -/
lemma woken_iff_of_watching {account : Pubkey} {t : PriceTrigger} :
    ∀ (es : List PathEvent) {p : OracleTriggerPath}, Watching account t p →
      (∀ e ∈ es, Spares account e) → ShowsPast t (Runs.exec step p es) →
      (p.Woken account t es ↔ Runs.Sometime step (ShowsSafe t) p es)
  | [], p, _, _, hpast => by
      have hnot : ¬ ShowsSafe t p := by
        rintro ⟨price, hprice, hsafe⟩
        obtain ⟨price', hprice', hpast'⟩ := hpast
        obtain rfl : price = price' := Option.some.inj (hprice.symm.trans hprice')
        exact hsafe hpast'
      simp [Woken, runHits, Runs.Sometime, hnot]
  | e :: es, p, hp, hspare, hpast => by
      have hrest : (p.step e).Woken account t es ↔
          Runs.Sometime step (ShowsSafe t) (p.step e) es :=
        woken_iff_of_watching es (watching_step hp (hspare e List.mem_cons_self))
          (fun e' he' => hspare e' (List.mem_cons_of_mem _ he')) hpast
      have hsplit : p.Woken account t (e :: es) ↔
          (ShowsSafe t p ∧ ShowsPast t (p.step e)) ∨ (p.step e).Woken account t es := by
        rw [← mem_eventHits_iff hp e]
        simp only [Woken, runHits, List.mem_append, or_and_right, exists_or]
      rw [hsplit, hrest, Runs.Sometime]
      constructor
      · rintro (⟨hsafe, -⟩ | hlater)
        · exact Or.inl hsafe
        · exact Or.inr hlater
      · rintro (hsafe | hlater)
        -- Safe before this event: it either is safe after it, or this event is the crossing.
        · by_cases hstill : ShowsSafe t (p.step e)
          · exact Or.inr (Runs.Sometime.of_first hstill es)
          · exact Or.inl ⟨hsafe, showsPast_step_of_not_safe e hsafe hstill⟩
        · exact Or.inr hlater

/-- The path before any event. -/
def start (metrics : Metrics) : OracleTriggerPath := new CandidateIndex.new metrics

/-- **A registered trigger past its price has woken its account exactly if the price was seen
on the safe side since.**  Before the registration anything may have happened; after it, any
calls that do not replace the account's triggers, and any prices in any order. -/
theorem woken_iff_sometime_safe (metrics : Metrics) (pre post : List PathEvent)
    (account : Pubkey) {ts : List PriceTrigger} {t : PriceTrigger} (ht : t ∈ ts)
    (hspare : ∀ e ∈ post, Spares account e)
    (hpast : ShowsPast t (Runs.exec step (start metrics)
      (pre ++ .index (.setTriggers account ts) :: post))) :
    (Runs.exec step (start metrics) (pre ++ [.index (.setTriggers account ts)])).Woken
        account t post ↔
      Runs.Sometime step (ShowsSafe t)
        (Runs.exec step (start metrics) (pre ++ [.index (.setTriggers account ts)])) post := by
  have hpre : (Runs.exec step (start metrics) pre).index.Consistent :=
    Runs.exec_invariant (fun p : OracleTriggerPath => p.index.Consistent)
      consistent_step pre consistent_new
  refine woken_iff_of_watching post ?_ hspare ?_
  · rw [Runs.exec_append]
    exact watching_setTriggers _ hpre account ht
  · rw [Runs.exec_append] at hpast ⊢
    exact hpast

/-! ## Two short runs -/

/-- Collateral on the asset falling to 100 makes the account unhealthy. -/
def solTrigger : PriceTrigger :=
  ⟨Pubkey.test 1 42, Pubkey.test 2 1, .collateralDown, .ofNat 100⟩

def solPrice (raw slot : ℕ) : PathEvent :=
  .oracle ⟨Pubkey.test 2 1, .ofNat raw, slot, 1, .mock, 0, .asStored⟩

/-- A price of 120 and then one of 95 wake the account. -/
theorem woken_after_fall :
    (Runs.exec step (start Metrics.zero)
        [.index (.setTriggers (Pubkey.test 1 42) [solTrigger])]).Woken
      (Pubkey.test 1 42) solTrigger
      [solPrice 120 100, solPrice 95 101] := by
  refine (woken_iff_sometime_safe Metrics.zero [] _ (Pubkey.test 1 42) List.mem_cons_self ?_ ?_).2
    (Or.inr (Or.inl ⟨.ofNat 120, by decide, by decide⟩))
  · intro e he
    fin_cases he <;> exact trivial
  · exact ⟨.ofNat 95, by decide, by decide⟩

/-- A first price of 95 does not: it is past the trigger, and no move led there. -/
theorem first_price_wakes_nobody :
    ShowsPast solTrigger (Runs.exec step (start Metrics.zero)
        [.index (.setTriggers (Pubkey.test 1 42) [solTrigger]), solPrice 95 101]) ∧
      ¬ (Runs.exec step (start Metrics.zero)
          [.index (.setTriggers (Pubkey.test 1 42) [solTrigger])]).Woken
        (Pubkey.test 1 42) solTrigger [solPrice 95 101] := by
  refine ⟨⟨.ofNat 95, by decide, by decide⟩, by decide⟩

end OracleTriggerPath

end Grokbotliq
